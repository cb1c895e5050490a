import DiagramStudio.Script.Process
import DiagramStudio.Script.Shell
import DiagramStudio.Script.Awk.Matching
import DiagramStudio.Script.Awk.Table

/-!
What programs that go through lines know while they run: their variables and tables, the record with its fields,
and what they have opened.
-/

namespace DiagramStudio.Script.Awk

/-- What a name stands for. A parameter that was given a name which has not been used yet may get to be a table that
    both share. -/
inductive Slot where
  | fresh (table : Nat)
  | scalar (v : Value)
  | table (number : Nat)
deriving Inhabited

/-- The record that is looked at. -/
structure Record where
  whole : Value
  /-- Its fields, once they have been asked for. -/
  fields? : Option (Array Value)
deriving Inhabited

/-- Where output goes that has not been written yet. -/
structure Outlet where
  name : List Char
  isCommand : Bool
  pending : List (List Char)
deriving Inhabited

structure State where
  functions : List (List Char × Function)
  globals : List (List Char × Slot)
  locals : List (List Char × Slot)
  tables : List (Nat × Table)
  nextTable : Nat
  record : Record
  /-- What is printed and has not been written, in pieces, the last first. -/
  pending : List (List Char)
  outlets : List Outlet
  /-- What is left of files that are read. -/
  files : List (List Char × List Char)
  /-- What is left of what commands have written, and how they ended. -/
  commands : List (List Char × List Char × Nat)
  /-- What is left of the input; nothing if the next file has not been opened. -/
  input : Option (List Char)
  /-- The number of the next word that may name a file, and whether any has. -/
  nextWord : Nat
  anyFile : Bool
  /-- The numbers of the rules whose range has been entered. -/
  ranges : List Nat
  seed : Nat
  status : Nat
  /-- How often it may go on being called. -/
  depth : Nat
deriving Inhabited

/-- Why something is not gone on with. -/
inductive Stop where
  | next
  | nextFile
  | exit
  | broken
  | continued
  | returned (v : Value)
  /-- The program cannot go on; what is said of it. -/
  | fault (what : List Char)
deriving Inhabited

abbrev Work := ExceptT Stop (StateT State Act)

namespace Work

/-- Something that is done outside. -/
def outside {α : Type} (act : Act α) : Work α := (liftM act : StateT State Act α)

def quit {α : Type} (s : Stop) : Work α := throw s

/-! ## Variables -/

def slotOf (name : List Char) : Work Slot := do
  let s ← get
  match entryFor? name s.locals with
  | some slot => return slot
  | none => return (entryFor? name s.globals).getD (.scalar .missing)

/-- What a name stands for from now on. -/
def setSlot (name : List Char) (slot : Slot) : Work Unit := modify fun s =>
  if (entryFor? name s.locals).isSome then { s with locals := withEntry name slot s.locals }
  else { s with globals := withEntry name slot s.globals }

def global (name : String) : Work Value := do
  match entryFor? name.toList (← get).globals with
  | some (.scalar v) => return v
  | _ => return .missing

def setGlobal (name : String) (v : Value) : Work Unit := modify fun s =>
  { s with globals := withEntry name.toList (.scalar v) s.globals }

/-- The format in which numbers get to be texts. -/
def innerFormat : Work (List Char) := return (← global "CONVFMT").toText []

def textOf (v : Value) : Work (List Char) := return v.toText (← innerFormat)

/-- A variable that is text, whatever it holds. -/
def globalText (name : String) : Work (List Char) := do textOf (← global name)

/-- The table that a name stands for; from now on it does. -/
def tableOf (name : List Char) : Work Nat := do
  match ← slotOf name with
  | .table n => return n
  | .fresh n =>
    setSlot name (.table n)
    return n
  | .scalar _ =>
    let s ← get
    let n := s.nextTable
    set { s with nextTable := n + 1, tables := (n, Table.empty) :: s.tables }
    setSlot name (.table n)
    return n

def table (n : Nat) : Work Table := return (entryFor? n (← get).tables).getD Table.empty

def setTable (n : Nat) (t : Table) : Work Unit := modify fun s => { s with tables := withEntry n t s.tables }

/-- The key that values stand for in a table. -/
def indexOf (values : List Value) : Work Table.Index := do
  match values with
  | [.number x] =>
    match whole? x with
    | some n => return ⟨(Value.number x).toText [], some n⟩
    | none => return ⟨← textOf (.number x), none⟩
  | values =>
    let parts ← values.mapM textOf
    return ⟨(← globalText "SUBSEP").intercalate parts, none⟩

/-- The value of an entry, which is made if it is not there. -/
def itemOf (n : Nat) (i : Table.Index) : Work Value := do
  let t ← table n
  match t.find? i with
  | some v =>
    setTable n (t.touched i)
    return v
  | none =>
    setTable n (t.put i .missing)
    return .missing

/-! ## The record -/

def separator : Work Separator := return Separator.ofText (← globalText "FS")

/-- The fields of the record. -/
def fields : Work (Array Value) := do
  let r := (← get).record
  match r.fields? with
  | some found => return found
  | none =>
    let lines := (← globalText "RS").isEmpty
    let text ← textOf r.whole
    let found := (((← separator).cut lines text).map Value.input).toArray
    modify fun s => { s with record := { r with fields? := some found } }
    setGlobal "NF" (.ofNat found.size)
    return found

/-- Another record. -/
def setRecord (v : Value) : Work Unit := modify fun s => { s with record := ⟨v, none⟩ }

/-- The record with other fields, of which its text is made. -/
def setFields (found : Array Value) : Work Unit := do
  let parts ← found.toList.mapM textOf
  let text := (← globalText "OFS").intercalate parts
  modify fun s => { s with record := ⟨.input text, some found⟩ }
  setGlobal "NF" (.ofNat found.size)

/-- Why a program cannot go on, with where it was. -/
def fault {α : Type} (what : List Char) : Work α := do
  let file ← globalText "FILENAME"
  let number (name : String) : Work (List Char) := return numeral "%.6g".toList (← global name).toNumber
  throw (.fault ("run time error: ".toList ++ what ++ "\n\tFILENAME=\"".toList ++ file ++ "\" FNR=".toList
    ++ (← number "FNR") ++ " NR=".toList ++ (← number "NR")))

/-- The place of a field. -/
def fieldPlace (x : Float) : Work Nat := do
  let n := truncated x
  if n < 0 then fault ("negative field index $".toList ++ (toString n).toList) else return n.toNat

def fieldAt (place : Nat) : Work Value := do
  if place = 0 then return (← get).record.whole
  else return (← fields).getD (place - 1) .missing

def setField (place : Nat) (v : Value) : Work Unit := do
  if place = 0 then setRecord v
  else
    let found ← fields
    let found := found ++ Array.replicate (place - found.size) Value.missing
    setFields (found.setIfInBounds (place - 1) v)

/-! ## Names -/

/-- The value of a variable. -/
def valueOf (name : List Char) : Work Value := do
  if name = "NF".toList then
    let _ ← fields
    global "NF"
  else
    match ← slotOf name with
    | .scalar v => return v
    | _ => return .missing

def setValue (name : List Char) (v : Value) : Work Unit := do
  if name = "NF".toList && (entryFor? name (← get).locals).isNone then
    let n := truncated v.toNumber
    if n < 0 then fault "negative value assigned to NF".toList
    let found ← fields
    let found := (found ++ Array.replicate (n.toNat - found.size) Value.missing).extract 0 n.toNat
    setFields found
  else
    setSlot name (.scalar v)

/-! ## Output -/

/-- What has been printed is written. -/
def flushPrinted : Work Unit := do
  let s ← get
  if !s.pending.isEmpty then
    set { s with pending := [] }
    outside (modify fun m => m.emit 1 s.pending.reverse.flatten)

/-- What goes to a file is written. -/
def flushOutlet (o : Outlet) : Work Unit := do
  if !o.isCommand && !o.pending.isEmpty then
    let text := o.pending.reverse.flatten
    outside (modify fun m =>
      match String.ofList o.name with
      | "/dev/stderr" => m.emit 2 text
      | _ =>
        let before := ((m.disk.read (pathOf o.name)).toOption).getD []
        match m.disk.write (pathOf o.name) (before ++ bytesOf text) with
        | .ok disk => { m with disk }
        | .error _ => m)

/-- Everything that waits to be written and does not go to commands is written. -/
def flushAll : Work Unit := do
  flushPrinted
  for o in (← get).outlets do
    flushOutlet o
  modify fun s => { s with outlets := s.outlets.map fun o => if o.isCommand then o else { o with pending := [] } }

end Work

/-- How commands are carried out: a text that a shell reads. -/
abbrev Shelled := List Char → Act Unit

namespace Work

/-- A command that finds a text as its input; how it ended. -/
def runWith (shell : Shelled) (command text : List Char) : Work Life :=
  outside do
    let (m, pipe) := (← get).withPipe [text] false
    let (m, end_) := Shell.opened m (.pipe pipe false)
    set m
    let child ← Act.part
      (fun m => { m.forInner with outer := [], channels := withEntry 0 end_ m.channels }) (shell command)
    Act.join child

/-- A command with the input of the program; how it ended. -/
def run (shell : Shelled) (command : List Char) : Work Life := do
  flushAll
  outside do
    let child ← Act.part (fun m => { m.forInner with outer := [] }) (shell command)
    Act.join child

/-- What a command writes, and how it ended. -/
def outputOf (shell : Shelled) (command : List Char) : Work (List Char × Nat) := do
  flushAll
  outside do
    let (m, pipe) := (← get).withPipe [] true
    let (m, end_) := Shell.opened m (.pipe pipe true)
    set m
    let child ← Act.part
      (fun m => { m.forInner with outer := [], channels := withEntry 1 end_ m.channels }) (shell command)
    Act.wait (fun m => m.isOver child && m.isDry pipe) none
    let life ← Act.join child
    let m ← get
    let out := m.collected pipe
    set { m with pipes := withoutEntry pipe m.pipes }
    return (out, life.ended.getD 0)

/-- How a command ended, as a number. -/
def statusOf (life : Life) : Nat :=
  match life.struck with
  | some signal => 256 + signal
  | none => life.ended.getD 0

/-- An outlet is closed. -/
def closeOutlet (shell : Shelled) (o : Outlet) : Work Nat := do
  if o.isCommand then return statusOf (← runWith shell o.name o.pending.reverse.flatten)
  else
    flushOutlet o
    return 0

/-- Everything is closed at the end, and what has been printed is written after that. -/
def closeAll (shell : Shelled) : Work Unit := do
  let all := (← get).outlets
  modify fun s => { s with outlets := [] }
  for o in all do
    let _ ← closeOutlet shell o
  flushPrinted

/-- Something that is known by a name is closed; how a command ended. -/
def close (shell : Shelled) (name : List Char) : Work Int := do
  let s ← get
  let out ← match s.outlets.find? (·.name == name) with
    | some o =>
      modify fun s => { s with outlets := s.outlets.filter (·.name != name) }
      pure (some (← closeOutlet shell o))
    | none => pure none
  match out, s.commands.find? (·.1 == name), s.files.find? (·.1 == name) with
  | some n, _, _ => return n
  | none, some (_, _, status), _ =>
    modify fun s => { s with commands := s.commands.filter (·.1 != name) }
    return status
  | none, none, some _ =>
    modify fun s => { s with files := s.files.filter (·.1 != name) }
    return 0
  | none, none, none => return -1

/-- A text is sent somewhere. -/
def send (goal : Goal) (name text : List Char) : Work Unit := do
  let s ← get
  let isFile := goal != .command
  if isFile && (name = "/dev/stdout".toList || name = "-".toList) then
    set { s with pending := text :: s.pending }
  else if isFile && name = "/dev/stderr".toList then outside (modify fun m => m.emit 2 text)
  else
    match s.outlets.find? fun o => o.name == name && o.isCommand == !isFile with
    | some _ =>
      let more (o : Outlet) : Outlet :=
        if o.name == name && o.isCommand == !isFile then { o with pending := text :: o.pending } else o
      modify fun s => { s with outlets := s.outlets.map more }
    | none =>
      if isFile then
        let m ← outside get
        let before := if goal = .append then ((m.disk.read (pathOf name)).toOption).getD [] else []
        match m.disk.write (pathOf name) before with
        | .ok disk => outside (set { m with disk })
        | .error fault =>
          throw (.fault ("cannot open \"".toList ++ name ++ "\" for output (".toList ++ fault.text.toList ++ [')']))
      else flushAll
      modify fun s => { s with outlets := s.outlets ++ [⟨name, !isFile, [text]⟩] }

/-! ## Input -/

/-- The record at the front of a text, and what follows it; nothing if there is none. -/
def cutRecord (rs text : List Char) : Option (List Char × List Char) :=
  if text.isEmpty then none
  else
    match rs with
    | [] =>
      let body := text.dropWhile (· == '\n')
      if body.isEmpty then none
      else
        match Text.cutAt? "\n\n".toList body with
        | some (found, rest) => some (found, rest.dropWhile (· == '\n'))
        | none => some ((Text.dropBack? ['\n'] body).getD body, [])
    | [c] => some ((Text.cut? (· == c) text).getD (text, []))
    | rs =>
      match found? (regexOf rs) text with
      | some (front, matched, rest) => if matched.isEmpty then some (text, []) else some (front, rest)
      | none => some (text, [])

/-- The words that the program was given. -/
def wordAt (n : Nat) : Work (Option (List Char)) := do
  let t ← table (← tableOf "ARGV".toList)
  match t.find? ⟨(toString n).toList, some (n : Int)⟩ with
  | some v => return some (← textOf v)
  | none => return none

/-- A value as it comes from the words of a call, with its escapes resolved. Every unit of fuel pays for a
    character. -/
def unescaped : Nat → List Char → List Char
  | 0, s => s
  | _ + 1, [] => []
  | fuel + 1, '\\' :: rest =>
    let (found, rest) := Token.escape rest
    found ++ unescaped fuel rest
  | fuel + 1, c :: rest => c :: unescaped fuel rest

/-- The name and the value of a word that sets a variable. -/
def assignment? (word : List Char) : Option (List Char × List Char) :=
  match Text.cut? (· == '=') word with
  | some (name, value) =>
    let starts := (name.head?.map fun c => c.isAlpha || c == '_').getD false
    if starts && name.all fun c => c.isAlphanum || c == '_' then some (name, unescaped (value.length + 1) value) else none
  | none => none

/-- The next file is opened, if there is one; words that set variables do so. Every unit of fuel pays for a
    word. -/
def openNext : Nat → Work Bool
  | 0 => return false
  | fuel + 1 => do
    let s ← get
    let count := truncated (← global "ARGC").toNumber
    if count ≤ s.nextWord then
      if s.anyFile then return false
      else
        let text ← outside (Shell.wholeInput 0)
        modify fun s => { s with input := some text, anyFile := true }
        return true
    else
      set { s with nextWord := s.nextWord + 1 }
      match ← wordAt s.nextWord with
      | none => openNext fuel
      | some [] => openNext fuel
      | some word =>
        match assignment? word with
        | some (name, value) =>
          setValue name (.input value)
          openNext fuel
        | none =>
          let opened (text : List Char) : Work Bool := do
            setGlobal "FILENAME" (.input word)
            setGlobal "FNR" (.number 0)
            modify fun s => { s with input := some text, anyFile := true }
            return true
          if word = ['-'] ∨ word = "/dev/stdin".toList then opened (← outside (Shell.wholeInput 0))
          else
            match (← outside get).disk.read (pathOf word) with
            | .ok bytes => opened (charsOf bytes)
            | .error .isDirectory => throw (.fault "read error (Is a directory)".toList)
            | .error fault =>
              throw (.fault ("cannot open \"".toList ++ word ++ "\" (".toList ++ fault.text.toList ++ [')']))

/-- The next record of the input. Every unit of fuel pays for a file. -/
def nextRecord : Nat → Work (Option (List Char))
  | 0 => return none
  | fuel + 1 => do
    match (← get).input with
    | none =>
      let words := (truncated (← global "ARGC").toNumber).toNat
      if ← openNext (words + 2) then nextRecord fuel else return none
    | some text =>
      match cutRecord (← globalText "RS") text with
      | none =>
        let s ← get
        set { s with input := none }
        let count := truncated (← global "ARGC").toNumber
        if s.nextWord < count then nextRecord fuel
        else
          set { s with input := some [] }
          return none
      | some (found, rest) =>
        modify fun s => { s with input := some rest }
        let counted (name : String) : Work Unit := do
          setGlobal name (.number ((← global name).toNumber + 1))
        counted "NR"
        counted "FNR"
        return some found

/-- How many files can come one after another. -/
def fileMax : Nat := 100000

end Work

end DiagramStudio.Script.Awk
