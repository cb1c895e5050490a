import DiagramStudio.Script.Condition
import DiagramStudio.Script.Format
import DiagramStudio.Script.Grammar
import DiagramStudio.Script.Mode
import DiagramStudio.Script.Pattern
import DiagramStudio.Script.Process
import DiagramStudio.Script.Utility

/-!
The commands that are part of the shell and carry out no others: they act on parameters, variables,
options and the directory in which the shell works, or are small programs of their own.
-/

namespace DiagramStudio.Script.Builtin

/-- A command of the shell: what its words make of the machine. -/
abbrev Effect := List (List Char) → Machine → Machine

def succeed (m : Machine) : Machine := { m with status := 0 }

def illegalOption (c : Char) : List Char := "Illegal option -".toList ++ [c]

def illegalNumber (word : List Char) : List Char := "Illegal number: ".toList ++ word

/-- The greatest number that a word may spell. -/
def numberMax : Nat := 2 ^ 31 - 1

/-- The number that a word spells. -/
def number? (word : List Char) : Option Nat :=
  if !word.isEmpty && word.all Char.isDigit then
    ((String.ofList word).toNat?).filter (· ≤ numberMax)
  else none

/-- The letters of the options in front, and the words behind them. -/
def letters (allowed : List Char) : List (List Char) → Except Char (List Char × List (List Char))
  | [] => .ok ([], [])
  | word :: rest =>
    match word with
    | ['-', '-'] => .ok ([], rest)
    | '-' :: c :: more =>
      match (c :: more).find? (!allowed.contains ·) with
      | some c => .error c
      | none => (letters allowed rest).map fun (found, operands) => (c :: more ++ found, operands)
    | _ => .ok ([], word :: rest)

/-- A command with options that are letters. -/
def withLetters (allowed : String) (args : List (List Char)) (m : Machine)
    (act : List Char → List (List Char) → Machine) : Machine :=
  match letters allowed.toList args with
  | .error c => m.fault (illegalOption c)
  | .ok (given, operands) => act given operands

/-- Something done for each word, up to the first fault. -/
def eachWord (m : Machine) (words : List (List Char)) (act : Machine → List Char → Machine) : Machine :=
  words.foldl (fun m word => if m.goes then act m word else m) (succeed m)

/-! ## Showing -/

/-- A text in quotes: what is a quote itself stands between double quotes. -/
def quoted (s : List Char) : List Char :=
  '\'' :: s.flatMap (fun c => if c = '\'' then "'\"'\"'".toList else [c]) ++ ['\'']

/-- Names in order. -/
def sorted (names : List (List Char)) : List (List Char) := names.mergeSort

/-- The variables of some names, each with a word in front of it. -/
def shownVariables (m : Machine) (front : List Char) (names : List (List Char)) : List Char :=
  (sorted names).flatMap fun name =>
    let value := match entryFor? name m.variables_ with
      | some value => '=' :: quoted value
      | none => []
    front ++ name ++ value ++ ['\n']

/-! ## Variables -/

/-- The name that a word gives to a variable, and the value if there is one. -/
def named (word : List Char) : List Char × Option (List Char) :=
  match Text.cut? (· == '=') word with
  | some (name, value) => (name, some value)
  | none => (word, none)

/-- Variables given a value, and marked. -/
def marking (front : String) (names : Machine → List (List Char)) (mark : Machine → List Char → Machine) :
    Effect := fun args m =>
  withLetters "p" args m fun given operands =>
    if !given.isEmpty || operands.isEmpty then
      succeed (m.emit 1 (shownVariables m front.toList (names m)))
    else eachWord m operands fun m word =>
      match named word with
      | (name, some value) =>
        let m := m.assign name value
        if m.goes then mark m name else m
      | (name, none) =>
        if isName name then mark m name else m.fault (name ++ ": bad variable name".toList)

def export_ : Effect := marking "export " (·.exported) Machine.export_

def readonly : Effect :=
  marking "readonly " (·.fixed) fun m name =>
    { m with fixed := if m.fixed.contains name then m.fixed else m.fixed ++ [name] }

/-- Variables that the function has for itself. -/
def local_ : Effect := fun args m =>
  if m.depth = 0 then m.fault "not in a function".toList
  else eachWord m args fun m word =>
    let (name, value) := named word
    let saved := match m.saved with
      | frame :: outer => if frame.any (·.name == name) then m.saved else (m.kept name :: frame) :: outer
      | [] => []
    match value with
    | some value => { m with saved := saved }.assign name value
    | none => if isName name then { m with saved := saved }
      else m.fault (name ++ ": bad variable name".toList)

def unset : Effect := fun args m =>
  withLetters "vf" args m fun given operands =>
    eachWord m operands fun m name =>
      if given.getLast? = some 'f' then { m with functions := withoutEntry name m.functions }
      else if !isName name then m.fault (name ++ ": bad variable name".toList)
      else if m.fixed.contains name then m.fault (name ++ ": is read only".toList)
      else m.unset name

def shift : Effect := fun args m =>
  let count := match args with
    | [] => some 1
    | word :: _ => number? word
  match count with
  | none => m.fault (illegalNumber (args.headD []))
  | some n =>
    if m.params.length < n then m.fault "can't shift that many".toList
    else succeed { m with params := m.params.drop n, nextOption := (1, none) }

/-! ## Options of the shell -/

/-- The names of the options, with their letters. -/
def optionNames : List (String × Option Char) :=
  [("errexit", some 'e'), ("noglob", some 'f'), ("ignoreeof", some 'I'), ("interactive", some 'i'),
    ("monitor", some 'm'), ("noexec", some 'n'), ("stdin", some 's'), ("xtrace", some 'x'),
    ("verbose", some 'v'), ("vi", some 'V'), ("emacs", some 'E'), ("noclobber", some 'C'),
    ("allexport", some 'a'), ("notify", some 'b'), ("nounset", some 'u'), ("privileged", none),
    ("nolog", none), ("debug", none)]

/-- The options as they are set; `asWords` shows them as the words that would set them. -/
def shownOptions (m : Machine) (asWords : Bool) : List Char :=
  let row (entry : String × Option Char) : List Char :=
    let on := (entry.2.map m.has).getD false
    if asWords then ("set " ++ (if on then "-o " else "+o ") ++ entry.1 ++ "\n").toList
    else (entry.1 ++ String.ofList (List.replicate (16 - entry.1.length) ' ')
      ++ (if on then "on\n" else "off\n")).toList
  (if asWords then [] else "Current option settings\n".toList) ++ optionNames.flatMap row

/-- The letters of one word, switched; the words behind it may be names of options. -/
def switchLetters (calling on : Bool) : List Char → List (List Char) → Machine → Machine × List (List Char)
  | [], rest, m => (m, rest)
  | c :: more, rest, m =>
    if c = 'o' then
      match rest with
      | [] => switchLetters calling on more [] (m.emit 1 (shownOptions m (!on)))
      | name :: rest =>
        match optionNames.find? fun entry => entry.1.toList == name with
        | some (_, some letter) => switchLetters calling on more rest (m.switch letter on)
        | some (_, none) => switchLetters calling on more rest m
        | none => (m.fault ("Illegal option -o ".toList ++ name), rest)
    else if calling && (c == 'c' || c == 'l') then switchLetters calling on more rest (m.switch c true)
    else if optionNames.any (·.2 == some c) then switchLetters calling on more rest (m.switch c on)
    else (m.fault (illegalOption c), rest)

/-- The options in front of words, switched, and the words behind them, which are to be the parameters
    if there are any. `calling` says that the shell is being started. Every unit of fuel pays for a
    word. -/
def switches (calling : Bool) : Nat → List (List Char) → Machine → Machine × Option (List (List Char))
  | 0, _, m => (m, none)
  | _ + 1, [], m => (m, none)
  | fuel + 1, word :: rest, m =>
    match word with
    | ['-'] => ((m.switch 'x' false).switch 'v' false, if rest.isEmpty then none else some rest)
    | ['-', '-'] => (m, some rest)
    | '-' :: more =>
      let (m, rest) := switchLetters calling true more rest m
      if m.goes then switches calling fuel rest m else (m, none)
    | '+' :: more =>
      let (m, rest) := switchLetters calling false more rest m
      if m.goes then switches calling fuel rest m else (m, none)
    | _ => (m, some (word :: rest))

def set : Effect := fun args m =>
  if args.isEmpty then succeed (m.emit 1 (shownVariables m [] (m.variables_.map (·.1))))
  else
    let (m, rest) := switches false (args.length + 1) args (succeed m)
    match rest with
    | some params => if m.goes then { m with params, nextOption := (1, none) } else m
    | none => m

/-! ## Reading -/

/-- The next line of an input, of which backslashes join lines and take the meaning from characters
    unless it is read as it is; whether it is ended. -/
def inputLine (asItIs : Bool) : List Char → List Letter × List Char × Bool
  | [] => ([], [], false)
  | '\n' :: rest => ([], rest, true)
  | c :: rest =>
    let more (l : List Letter) (r : List Letter × List Char × Bool) := (l ++ r.1, r.2)
    if c = '\\' ∧ !asItIs then
      match rest with
      | [] => ([], [], false)
      | '\n' :: rest => inputLine asItIs rest
      | d :: rest => more [(d, true)] (inputLine asItIs rest)
    else if c = '\x00' then inputLine asItIs rest
    else more [(c, false)] (inputLine asItIs rest)

def isWhite (c : Char) : Bool := c == ' ' || c == '\t' || c == '\n'

/-- A letter at which a line may be cut. -/
def separates (separators : List Char) (l : Letter) : Bool := !l.2 && separators.contains l.1

/-- What is left behind a field: white separators, and at most one that is not white between them. -/
def behindField (separators : List Char) (s : List Letter) : List Letter :=
  let white (l : Letter) : Bool := separates separators l && isWhite l.1
  let rest := s.dropWhile white
  match rest with
  | l :: more => if separates separators l then more.dropWhile white else rest
  | [] => []

/-- A line as fields for so many names: the last takes all that is left, but for separators behind it
    if that is one field only. -/
def lineFields (separators : List Char) : Nat → List Letter → List (List Char)
  | 0, _ => []
  | 1, s =>
    let white (l : Letter) : Bool := separates separators l && isWhite l.1
    let field := s.takeWhile (!separates separators ·)
    let rest := s.drop field.length
    if !rest.isEmpty && (behindField separators rest).isEmpty then [field.map (·.1)]
    else [((s.reverse.dropWhile white).reverse).map (·.1)]
  | count + 1, s =>
    let field := s.takeWhile (!separates separators ·)
    field.map (·.1) :: lineFields separators count (behindField separators (s.drop field.length))

/-- The lines at the front of bytes that backslashes join. -/
def joinedLines : List UInt8 → List UInt8
  | [] => []
  | 92 :: c :: rest => 92 :: c :: joinedLines rest
  | 10 :: _ => [10]
  | c :: rest => c :: joinedLines rest

/-- What is left of an input, as much of it as a line takes. -/
def lineInput (m : Machine) (number : Nat) : List Char :=
  match m.opening? number with
  | some (.node ..) => charsOf (joinedLines (m.bytesLeft number))
  | _ => m.input number

/-- A line is there to be read, or there will be none. -/
def hasLine (asItIs : Bool) (number : Nat) (m : Machine) : Bool :=
  match m.pipeRead? number with
  | some pipe => (inputLine asItIs (m.collected pipe)).2.2 || m.isDry pipe
  | none => true

/-- The words of a call that reads: those that are not options, and whether a line is read as it is.
    A text to ask with takes the word behind it; it is shown to nobody. -/
def readOptions (args : List (List Char)) : Except Char (Bool × List (List Char)) :=
  let (asked, args) := match args with
    | ['-', 'p'] :: _ :: rest => (true, rest)
    | _ => (false, args)
  (letters (if asked then ['r'] else ['p', 'r']) args).map fun (given, names) => (given.contains 'r', names)

def read : Effect := fun args m =>
  match readOptions args with
  | .error c => m.fault (illegalOption c)
  | .ok (asItIs, names) =>
    if names.isEmpty then m.fault "arg count".toList
    else
      let text := lineInput m 0
      let (line, rest, ended) := inputLine asItIs text
      let separators := m.separators
      let line := line.dropWhile fun l => separates separators l && isWhite l.1
      let fields := lineFields separators names.length line
      let m := m.advance 0 (text.length - rest.length)
      let m := (names.zip fields).foldl
        (fun m (name, value) => if m.goes then m.assign name value else m) m
      if m.goes then { m with status := if ended then 0 else 1 } else m

/-- The options in front of words, one at a time. -/
def getopts : Effect := fun args m =>
  match args with
  | known :: name :: given =>
    let words := if given.isEmpty then m.params else given
    let (index, offset) := m.nextOption
    let (index, offset) := if words.length + 1 < index then (1, none) else (index, offset)
    let silent := known.head? = some ':'
    let known := if silent then known.tail else known
    let argument := "OPTARG".toList
    -- What is left of the word that is being read, and the number of the next word.
    let current : List Char := match offset with
      | some n => ((words[index - 2]?).getD []).drop n
      | none => []
    let next? : Option (List Char × Nat) :=
      if !current.isEmpty && 1 < index then some (current, index)
      else
        match words[index - 1]? with
        | some ('-' :: c :: more) => if c = '-' ∧ more = [] then none else some (c :: more, index + 1)
        | _ => none
    let close (m : Machine) (letter : Char) (index : Nat) (offset : Option Nat) (status : Nat) : Machine :=
      let m := { m with variables_ := withEntry Machine.optionIndex (shown index) m.variables_
                        nextOption := (index, offset) }
      let m := m.assign name [letter]
      if m.goes then { m with status } else m
    match next? with
    | none =>
      let index := if words[index - 1]? = some ['-', '-'] then index + 1 else index
      close m '?' index none 1
    | some (s, index) =>
      let c := s.headD '?'
      let rest := s.tail
      let word := (words[index - 2]?).getD []
      let offset := if rest.isEmpty then none else some (word.length - rest.length)
      let report (m : Machine) (what : String) (letter : Char) : Machine × Char :=
        if silent then (m.set argument [c], letter)
        else ((m.emit 2 what.toList).unset argument, '?')
      match Text.cut? (· == c) (known.filter fun d => d != ':' || c == ':') with
      | none =>
        let (m, letter) := report m ("Illegal option -" ++ c.toString ++ "\n") '?'
        close m letter index offset 0
      | some _ =>
        let takes := ((known.dropWhile (· != c)).drop 1).head? = some ':'
        if !takes then close (m.set argument []) c index offset 0
        else if !rest.isEmpty then close (m.set argument rest) c index none 0
        else
          match words[index - 1]? with
          | some value => close (m.set argument value) c (index + 1) none 0
          | none =>
            let (m, letter) := report m ("No arg for -" ++ c.toString ++ " option\n") ':'
            close m letter index none 0
  | _ => m.fault "Usage: getopts optstring var [arg...]".toList

/-! ## Directories -/

/-- The place of the directory in which the shell works, as a path. -/
def herePath (m : Machine) : List Char :=
  if m.disk.here.isEmpty then [Path.separator]
  else m.disk.here.flatMap fun name => Path.separator :: spread name

/-- The path by which the shell came to its directory; it may lead through links. -/
def directory (m : Machine) : List Char := if m.directory.isEmpty then herePath m else m.directory

def pwd : Effect := fun args m =>
  withLetters "LP" args m fun given _ =>
    succeed (m.emit 1 ((if given.getLast? = some 'P' then herePath m else directory m) ++ ['\n']))

/-- A path without the names that lead nowhere, and without those that lead back. -/
def straightened (path : List Char) : List Char :=
  let names := (Path.steps path).foldl (fun names name =>
    if name = Path.above then names.tail else name :: names) []
  Path.separator :: [Path.separator].intercalate names.reverse

def cd : Effect := fun args m =>
  withLetters "LP" args m fun given operands =>
    let back := operands.head? = some ['-']
    let target := match operands with
      | [] => m.value "HOME".toList
      | word :: _ => if back then m.value "OLDPWD".toList else word
    let target := if target.isEmpty then Path.here else target
    let physical := given.getLast? = some 'P'
    let path := if physical then target
      else straightened (if Path.isAbsolute target then target else Path.join (directory m) target)
    match m.disk.locate (pathOf path) with
    | .ok place =>
      if m.disk.isDirectoryAt place && m.disk.allowsAt place .enter then
        let before := directory m
        let m := { m with disk := { m.disk with here := place }, directory := if physical then [] else path }
        let m := (m.set "OLDPWD".toList before).set "PWD".toList (directory m)
        let m := (m.export_ "OLDPWD".toList).export_ "PWD".toList
        succeed (if back then m.emit 1 (directory m ++ ['\n']) else m)
      else m.fault ("can't cd to ".toList ++ target)
    | .error _ => m.fault ("can't cd to ".toList ++ target)

/-! ## Signals -/

/-- What is to be done on signals. -/
def trap : Effect := fun args m =>
  withLetters "" args m fun _ operands =>
    match operands with
    | [] =>
      let rows := (m.traps.mergeSort fun a b => a.1 ≤ b.1).flatMap fun (signal, text) =>
        "trap -- ".toList ++ quoted text ++ ' ' :: Signal.name signal ++ ['\n']
      succeed (m.emit 1 rows)
    | first :: more =>
      let (text, words) : Option (List Char) × List (List Char) :=
        if more.isEmpty then (none, [first])
        else (if first = ['-'] then none else some first, more)
      let act (state : Machine × Bool) (word : List Char) : Machine × Bool :=
        if !state.2 then state
        else
          match Signal.ofWord? word with
          | none =>
            ({ state.1.emit 2 ("trap: ".toList ++ word ++ ": bad trap\n".toList) with status := 1 }, false)
          | some signal =>
            let traps := match text with
              | some text => withEntry signal text state.1.traps
              | none => withoutEntry signal state.1.traps
            ({ state.1 with traps }, true)
      (words.foldl act (succeed m, true)).1

/-! ## Processes -/

/-- The job that a word names by its place among all, or by what the last ones are called. -/
def jobNamed? (m : Machine) (word : List Char) : Option Chore :=
  match word with
  | ['%'] | ['%', '%'] | ['%', '+'] => m.jobs.getLast?
  | ['%', '-'] => m.jobs.dropLast.getLast?
  | '%' :: digits => (number? digits).bind fun n => if n = 0 then none else m.jobs[n - 1]?
  | _ => none

/-- How a process is doing, in words. -/
def condition (m : Machine) (process : Nat) : List Char :=
  match entryFor? process m.lives with
  | some ⟨_, none, _⟩ => "Running".toList
  | some ⟨_, some _, some signal⟩ => ((Signal.told? signal).getD "").toList
  | some ⟨_, some 0, none⟩ | none => "Done".toList
  | some ⟨_, some n, none⟩ => "Done(".toList ++ shown n ++ [')']

/-- The jobs that have not been told of at their end. -/
def jobs : Effect := fun args m =>
  let letters := (args.filter fun word => word.head? = some '-').flatten
  match args.filter fun word => word.head? != some '-' with
  | [] =>
    let count := m.jobs.length
    let rows := (m.jobs.zipIdx 1).reverse.map fun (job, n) =>
      if letters.contains 'p' then shown job.process
      else
        let sign := if n = count then '+' else if n + 1 = count then '-' else ' '
        let front := '[' :: shown n ++ [']', ' ', sign, ' ']
        let front := if letters.contains 'l' then front ++ shown job.process ++ [' '] else front
        let row := front ++ condition m job.process
        row ++ List.replicate (33 - row.length) ' ' ++ job.shown
    let m := m.emit 1 (ofRows rows)
    succeed { m with jobs := m.jobs.filter fun job => !m.isOver job.process }
  | word :: _ => m.fault ("No such job: ".toList ++ word)

/-! ## Small programs -/

/-- A program carried out by the shell itself. -/
def written (out : List Char) (status : Nat) (m : Machine) : Machine :=
  { m.emit 1 out with status }

def echo : Effect := fun args m =>
  let (newline, args) := match args with
    | ['-', 'n'] :: more => (false, more)
    | _ => (true, args)
  let text := [' '].intercalate args
  let (s, stop) := unescape (text.length + 1) text
  written (if newline && !stop then s ++ ['\n'] else s) 0 m

def printf : Effect := fun args m =>
  withLetters "" args m fun _ operands =>
    match operands with
    | [] => m.fault "usage: printf format [arg ...]".toList
    | format :: rest =>
      let p := Printed.ofFormat format rest
      let m := p.complaints.foldl (fun m what => m.complain what 1) m
      written p.out (if p.broken then 2 else if p.complaints.isEmpty then 0 else 1) m

def test (words : List (List Char)) (m : Machine) : Machine :=
  match Condition.holds m.disk .strict words with
  | .ok b => { m with status := if b then 0 else 1 }
  | .error what => m.fault what

def bracket : Effect := fun args m =>
  if args.getLast? = some [']'] then test args.dropLast m else m.fault "missing ]".toList

/-- The rights that a digit stands for, as letters. -/
def rightLetters (digit : Nat) : List Char :=
  (if digit / 4 % 2 = 1 then ['r'] else []) ++ (if digit / 2 % 2 = 1 then ['w'] else [])
    ++ (if digit % 2 = 1 then ['x'] else [])

def umask : Effect := fun args m =>
  let mask := m.disk.mask
  match args with
  | [] => written (Mode.fullDigits mask ++ ['\n']) 0 m
  | word :: _ =>
    if word = "-S".toList then
      let given (place : Nat) : List Char := rightLetters (7 - mask / place % 8)
      written ("u=".toList ++ given 64 ++ ",g=".toList ++ given 8 ++ ",o=".toList ++ given 1 ++ ['\n']) 0 m
    else if (word.head?.map Char.isDigit).getD false then
      if word.all isOctal then
        succeed { m with disk := { m.disk with mask := (Sum.digits 8 0 word).1 % 512 } }
      else m.fault (illegalNumber word)
    else
      match Mode.read? word with
      | some changes =>
        let mode := 511 - Mode.apply changes true 0 (511 - mask % 512)
        succeed { m with disk := { m.disk with mask := mode % 512 } }
      | none => m.fault ("Illegal mode: ".toList ++ word)

/-- The texts that words stand for, shown or given. -/
def alias_ : Effect := fun args m =>
  let row (name text : List Char) : List Char := name ++ '=' :: quoted text ++ ['\n']
  if args.isEmpty then
    succeed (m.emit 1 ((m.aliases.mergeSort fun a b => a.1 ≤ b.1).flatMap fun (name, text) => row name text))
  else
    args.foldl (fun m word =>
      match Text.cut? (· == '=') word.tail with
      | some (front, text) =>
        { m with aliases := withEntry (word.take 1 ++ front) text m.aliases }
      | none =>
        match entryFor? word m.aliases with
        | some text => m.emit 1 (row word text)
        | none => { m.emit 2 ("alias: ".toList ++ word ++ " not found\n".toList) with status := 1 }) (succeed m)

def unalias : Effect := fun args m =>
  withLetters "a" args m fun given operands =>
    if !given.isEmpty then succeed { m with aliases := [] }
    else
      operands.foldl (fun m word =>
        if (entryFor? word m.aliases).isSome then { m with aliases := withoutEntry word m.aliases }
        else { m.emit 2 ("unalias: ".toList ++ word ++ " not found\n".toList) with status := 1 }) (succeed m)

def times : Effect := fun _ m =>
  let row := "0m0.000000s 0m0.000000s\n".toList
  written (row ++ row) 0 m

def noJob : Effect := fun _ m => m.fault "No current job".toList

/-- The commands of the shell that carry out no others, by their names. -/
def byName? (name : String) : Option Effect :=
  match name with
  | ":" | "true" => some fun _ m => succeed m
  | "false" => some fun _ m => { m with status := 1 }
  | "export" => some export_
  | "readonly" => some readonly
  | "local" => some local_
  | "unset" => some unset
  | "shift" => some shift
  | "set" => some set
  | "read" => some read
  | "getopts" => some getopts
  | "pwd" => some pwd
  | "cd" | "chdir" => some cd
  | "trap" => some trap
  | "jobs" => some jobs
  | "fg" | "bg" => some noJob
  | "echo" => some echo
  | "printf" => some printf
  | "test" => some test
  | "[" => some bracket
  | "umask" => some umask
  | "ulimit" => some fun _ m => written "unlimited\n".toList 0 m
  | "alias" => some alias_
  | "unalias" => some unalias
  | "times" => some times
  | _ => none

/-- The commands of the shell that carry out others, or change how the script goes on. -/
def leading : List String :=
  [".", "break", "command", "continue", "eval", "exec", "exit", "hash", "kill", "return", "type", "wait"]

/-- The name is that of a command of the shell. -/
def isBuiltin (name : String) : Bool := leading.contains name || (byName? name).isSome

/-- The commands whose faults end the shell, and whose assignments last. -/
def isSpecial (name : String) : Bool := Reader.specialNames.contains name || name == "local"

/-- The commands whose words may be assignments, which are not cut. -/
def declares (name : String) : Bool := ["alias", "export", "local", "readonly"].contains name

end DiagramStudio.Script.Builtin
