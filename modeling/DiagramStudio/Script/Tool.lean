import DiagramStudio.Script.Machine

/-!
What the programs that scripts call have in common: how they are called, their options, what they leave,
and how they complain.
-/

namespace DiagramStudio.Script

/-- A call of a program. -/
structure Call where
  disk : Disk
  /-- The name that it is called by. -/
  name : List Char
  args : List (List Char)
  /-- What is left of its input. -/
  input : List Char
  /-- The input is a file. -/
  readsFile : Bool
  /-- The number of the file that the output goes to, if it goes to one. -/
  output? : Option Nat
  /-- The variables that the program is told. -/
  variables_ : List (List Char × List Char)

/-- What a program leaves: its status, what it wrote, the file system, and the rest of its input. -/
structure Done where
  status : Nat
  out : List Char
  err : List Char
  disk : Disk
  input : List Char

namespace Call

def done (c : Call) (status : Nat) : Done := ⟨status, [], [], c.disk, c.input⟩

def wrote (c : Call) (out : List Char) : Done := ⟨0, out, [], c.disk, c.input⟩

end Call

namespace Done

/-- The outcome with one more complaint. -/
def complain (d : Done) (status : Nat) (what : String) : Done :=
  { d with status, err := d.err ++ spread what ++ ['\n'] }

def write (d : Done) (s : List Char) : Done := { d with out := d.out ++ s }

/-- The call that a program goes on with. -/
def call (d : Done) (args : List (List Char)) : Call := ⟨d.disk, [], args, d.input, false, none, []⟩

/-- An outcome and one after it. -/
def then_ (d next : Done) : Done :=
  { next with status := max d.status next.status, out := d.out ++ next.out, err := d.err ++ next.err }

end Done

/-- Something done for each operand, whether or not it fails. -/
def Call.each (c : Call) (act : Call → List Char → Done) : Done :=
  c.args.foldl (fun d arg => d.then_ (act (d.call []) arg)) (c.done 0)

/-! ## Complaints -/

/-- A text of a script as it is shown. -/
def told (s : List Char) : String := String.ofList (pathOf s)

/-- A name between quotes. -/
def quoted (s : List Char) : String :=
  if s.contains '\'' then "\"" ++ told s ++ "\"" else "'" ++ told s ++ "'"

/-- A name between quotes if it would not be taken as it is. -/
def quotedIfNeeded (s : List Char) : String :=
  let odd (c : Char) : Bool := [' ', '!', '"', '$', '&', '\'', '(', ')', '*', ';', '<', '=', '>', '?',
    '[', '\\', '^', '\x60', '|', '\n', '\t'].contains c
  if s.isEmpty || s.any odd || s.head? == some '#' || s.head? == some '~' then quoted s else told s

def tryHelp (tool : String) : String := "Try '" ++ tool ++ " --help' for more information."

/-- A program that was called with too few operands. -/
def Call.missing (c : Call) (tool : String) (what : String) (status : Nat) : Done :=
  (c.done status).complain status (tool ++ ": " ++ what ++ "\n" ++ tryHelp tool)

/-! ## Users -/

/-- The name of the one who runs the program, and that of the one who owns the rest of the system. -/
def userName : List Char := "user".toList

def ownerName : List Char := "root".toList

/-- The number of the one who runs the program. -/
def userNumber : Nat := 1000

/-! ## Options -/

/-- The options of a call, with their values, and its operands. -/
structure Options where
  given : List (List Char × List Char)
  operands : List (List Char)

namespace Options

def has (o : Options) (letter : Char) : Bool := o.given.any (·.1 == [letter])

/-- The value of an option that was given last. -/
def value? (o : Options) (letter : Char) : Option (List Char) :=
  (o.given.reverse.find? (·.1 == [letter])).map (·.2)

/-- The letters in a row, of which one with a value takes what follows it; whether the value is still
    missing. -/
def cluster (flags valued : List Char) : List Char → Except Char (List (List Char × List Char) × Option Char)
  | [] => .ok ([], none)
  | c :: rest =>
    if valued.contains c then
      if rest.isEmpty then .ok ([], some c) else .ok ([([c], rest)], none)
    else if flags.contains c then
      (cluster flags valued rest).map fun (found, open_) => (([c], []) :: found, open_)
    else .error c

/-- Why options cannot be read. -/
inductive OptionFault where
  | unknown (letter : Char)
  | unknownWord (word : List Char)
  | valueMissing (letter : Char)
  | wordValueMissing (word : List Char)

def OptionFault.message : OptionFault → String
  | unknown letter => "invalid option -- '" ++ letter.toString ++ "'"
  | unknownWord word => "unrecognized option '" ++ told word ++ "'"
  | valueMissing letter => "option requires an argument -- '" ++ letter.toString ++ "'"
  | wordValueMissing word => "option '" ++ told word ++ "' requires an argument"

/-- The letters that long names of options stand for. -/
abbrev LongNames := List (String × Char)

/-- What a long name stands for: it may be cut short if nothing else begins like that. -/
def LongNames.find? (long : LongNames) (name : List Char) : Option Char :=
  match entryFor? (String.ofList name) long with
  | some letter => some letter
  | none =>
    match ((long.filter fun l => name.isPrefixOf l.1.toList).map (·.2)).eraseDups with
    | [letter] => some letter
    | _ => none

/-- Options and operands in any order; behind two hyphens there are only operands. Every unit of fuel
    pays for a word. -/
def read (flags valued : List Char) (long : LongNames) : Nat → List (List Char) → Except OptionFault Options
  | 0, _ => .ok ⟨[], []⟩
  | _ + 1, [] => .ok ⟨[], []⟩
  | fuel + 1, arg :: more =>
    let further (found : List (List Char × List Char)) (rest : List (List Char)) :=
      (read flags valued long fuel rest).map fun o => { o with given := found ++ o.given }
    match arg with
    | ['-', '-'] => .ok ⟨[], more⟩
    | '-' :: '-' :: name =>
      let (name, value?) := match Text.cut? (· == '=') name with
        | some (front, behind) => (front, some behind)
        | none => (name, none)
      match long.find? name, value? with
      | some letter, some value => further [([letter], value)] more
      | some letter, none =>
        if valued.contains letter then
          match more with
          | [] => .error (.wordValueMissing arg)
          | value :: rest => further [([letter], value)] rest
        else further [([letter], [])] more
      | none, _ => .error (.unknownWord arg)
    | '-' :: c :: letters =>
      match cluster flags valued (c :: letters) with
      | .error letter => .error (.unknown letter)
      | .ok (found, none) => further found more
      | .ok (found, some letter) =>
        match more with
        | [] => .error (.valueMissing letter)
        | value :: rest => further (found ++ [([letter], value)]) rest
    | operand => (read flags valued long fuel more).map fun o => { o with operands := operand :: o.operands }

end Options

/-- A call read with the options that a program knows, and what the program makes of it. -/
def Call.with (c : Call) (tool : String) (status : Nat) (flags valued : String)
    (long : Options.LongNames) (act : Options → Done) : Done :=
  match Options.read flags.toList valued.toList long (c.args.length + 1) c.args with
  | .ok o => act o
  | .error fault => (c.done status).complain status (tool ++ ": " ++ fault.message ++ "\n" ++ tryHelp tool)

/-! ## Operands that are files -/

def hyphen : List Char := ['-']

/-- What an operand holds, and the input that is left; a hyphen stands for the input. -/
def Call.held (c : Call) (operand : List Char) : Except SystemFault (List Char) × List Char :=
  if operand = hyphen then (.ok c.input, [])
  else ((c.disk.read (pathOf operand)).map charsOf, c.input)

/-- Something done with what each operand holds, or the input if there is none; `complaint` words what is
    said of an operand that cannot be read. -/
def Call.eachFile (c : Call) (status : Nat) (complaint : List Char → SystemFault → String)
    (operands : List (List Char)) (act : Done → List Char → List Char → Done) : Done :=
  (if operands.isEmpty then [hyphen] else operands).foldl (fun d operand =>
    let (found, input) := (d.call []).held operand
    let d := { d with input }
    match found with
    | .ok s => act d operand s
    | .error fault => d.complain status (complaint operand fault)) (c.done 0)

/-- A complaint of the usual form. -/
def fileComplaint (tool : String) (operand : List Char) (fault : SystemFault) : String :=
  tool ++ ": " ++ quotedIfNeeded operand ++ ": " ++ fault.text

/-- What all operands hold, one after another. -/
def Call.whole (c : Call) (status : Nat) (complaint : List Char → SystemFault → String)
    (operands : List (List Char)) : List Char × Done :=
  let d := c.eachFile status complaint operands fun d _ s => d.write s
  (d.out, { d with out := [] })

/-- The lines of a text, without what ends them; and whether the last is ended. -/
def rows (s : List Char) : List (List Char) × Bool :=
  if s.isEmpty then ([], true)
  else
    let parts := Text.lines s
    if s.getLast? = some '\n' then (parts.dropLast, true) else (parts, false)

/-- Lines as a text. -/
def ofRows (rows : List (List Char)) : List Char := rows.flatMap (· ++ ['\n'])

/-- Lines as a text, of which the last is ended or not. -/
def ofRowsEnded (rows : List (List Char)) (ended : Bool) : List Char :=
  if ended then ofRows rows else Text.unlines rows

end DiagramStudio.Script
