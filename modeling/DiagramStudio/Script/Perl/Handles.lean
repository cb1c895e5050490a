import DiagramStudio.Script.Perl.Matching

/-!
What programs in Perl open: files, commands and directories; reading lines, and starting other programs.
-/

namespace DiagramStudio.Script.Perl

open Work

/-! ## Other programs -/

/-- Signs for which a command is read by a shell. -/
def isShellSign (c : Char) : Bool := "$&*()\x7b\x7d[]'\";\\|?<>~\x60\n".toList.contains c

/-- A command that is started without a shell, as its words. -/
def plainWords? (command : List Char) : Option (List (List Char)) :=
  let words := Text.words Awk.isGap command
  let assigns := (words.headD []).contains '='
  if command.any isShellSign || assigns then none else some words

/-- A program in a process of its own, for which something is changed before it begins; how it ended. -/
def started (change : Machine → Machine) (act : Act Unit) : Act Life := do
  let child ← Act.part (fun m => { change m.forInner with outer := [] }) act
  Act.join child

/-- How a program ended, as a number. -/
def statusOf (life : Life) : Int :=
  match life.struck with
  | some signal => signal
  | none => life.ended.getD 0 * 256

/-- What starts a command, unless there is no such program. -/
def action? (l : Launcher) (command : List (List Char)) : Work (Option (Act Unit)) := do
  let direct (words : List (List Char)) : Work (Option (Act Unit)) := do
    if l.canStart (← outside get) (words.headD []) then return some (l.words words)
    else
      setFault .notFound
      return none
  match command with
  | [text] =>
    match plainWords? text with
    | some [] => return none
    | some words => direct words
    | none => return some (l.shell text)
  | words => direct words

/-- What the programs that are started are told of. -/
def telling : Work (Machine → Machine) := do
  let entries ← hash (← globalOf ⟨'%', "ENV".toList⟩)
  let told ← entries.mapM fun (name, id) => do return (name, ← textOf (← cell id))
  return fun m => told.foldl (fun m (name, value) => (m.set name value).export_ name) m

/-- A command is carried out; how it ended, or a number below zero if it could not be started. -/
def system (l : Launcher) (command : List (List Char)) : Work Int := do
  flushAll
  let status ← match ← action? l command with
    | none => pure (-1)
    | some act => do
      let life ← outside (started (← telling) act)
      pure (statusOf life)
  setGlobal "?" (.whole status)
  return status

/-- What a command writes. -/
def outputOf (l : Launcher) (command : List Char) : Work (Option (List Char) × Int) := do
  flushAll
  match ← action? l [command] with
  | none => return (none, -1)
  | some act =>
    let tell ← telling
    outside do
      let (m, pipe) := (← get).withPipe [] true
      let (m, end_) := Shell.opened m (.pipe pipe true)
      set m
      let child ← Act.part (fun m =>
        { tell m.forInner with outer := [], channels := withEntry 1 end_ m.channels }) act
      Act.wait (fun m => m.isOver child && m.isDry pipe) none
      let life ← Act.join child
      let m ← get
      let out := m.collected pipe
      set { m with pipes := withoutEntry pipe m.pipes }
      return (some out, statusOf life)

/-- A command that finds a text as its input; how it ended. -/
def runWith (l : Launcher) (command text : List Char) : Work Int := do
  match ← action? l [command] with
  | none => return -1
  | some act =>
    outside do
      let (m, pipe) := (← get).withPipe [text] false
      let (m, end_) := Shell.opened m (.pipe pipe false)
      set m
      let life ← started (fun m => { m with channels := withEntry 0 end_ m.channels }) act
      return statusOf life

/-! ## Handles -/

def inputHandle : Nat := 0

/-- The handle for the files that are read one after another. -/
def filesHandle : Nat := 3

def closedHandle (name : List Char) : Handle := ⟨name, none, false, 0, .nowhere, [], 0, []⟩

/-- The handles that a program begins with. -/
def firstHandles : Array Handle :=
  #[⟨"STDIN".toList, some [], true, 0, .nowhere, [], 0, []⟩, { closedHandle "STDOUT".toList with outlet := .number 1 },
    { closedHandle "STDERR".toList with outlet := .number 2 }, closedHandle []]

def firstHandleNames : List (List Char × Nat) :=
  [("STDIN".toList, 0), ("STDOUT".toList, 1), ("STDERR".toList, 2), ("ARGV".toList, 3)]

/-- What is left to be read of a handle; the input of the program is read when it is needed. -/
def leftOf (n : Nat) : Work (Option (List Char)) := do
  let h ← handle n
  if h.isStandard then
    let text ← outside (Shell.wholeInput 0)
    let all := (h.input.getD []) ++ text
    setHandle n { h with input := some all, isStandard := false }
    return some all
  else return h.input

/-- The text that ends lines, if there is one. -/
def lineEnd : Work (Option (List Char)) := do
  match ← global "/" with
  | .missing => return none
  | v => return some (← textOf v)

/-- The line at the front of a text, and what follows it; nothing if there is none. -/
def cutLine (end_ : Option (List Char)) (text : List Char) : Option (List Char × List Char) :=
  if text.isEmpty then none
  else
    match end_ with
    | none => some (text, [])
    | some [] =>
      let body := text.dropWhile (· == '\n')
      if body.isEmpty then none
      else
        match Text.cutAt? "\n\n".toList body with
        | some (front, rest) => some (front ++ "\n\n".toList, rest.dropWhile (· == '\n'))
        | none => some (body, [])
    | some [c] =>
      let front := text.takeWhile (· != c)
      match text.drop front.length with
      | [] => some (front, [])
      | _ :: rest => some (front ++ [c], rest)
    | some mark =>
      match Text.cutAt? mark text with
      | some (front, rest) => some (front ++ mark, rest)
      | none => some (text, [])

/-- The names of the files that are still to be read. -/
def filesLeft : Work (Array Nat) := do array (← globalOf ⟨'@', "ARGV".toList⟩)

/-- What has been changed of a file is written, and its name forgotten. -/
def endChange : Work Unit := do
  let s ← get
  if s.changing.isSome then
    flush s.chosen
    modify fun s => { s with changing := none, chosen := Work.output }

/-- What is told of a file that has just been opened: it is no terminal. -/
def noTerminal : Work Unit := setGlobal "!" (.both 25 "Inappropriate ioctl for device".toList)

/-- The next of the files is opened, if there is one. Every unit of fuel pays for a file. -/
def openNext : Nat → Work Bool
  | 0 => return false
  | fuel + 1 => do
    let s ← get
    let ids ← filesLeft
    let h ← handle filesHandle
    match ids[0]? with
    | none =>
      if s.begun then
        endChange
        modify fun s => { s with begun := false }
        return false
      else
        modify fun s => { s with begun := true }
        let text ← leftOf inputHandle
        let standard ← handle inputHandle
        setHandle inputHandle { standard with input := some [] }
        setHandle filesHandle { h with input := some (text.getD []) }
        setGlobal "ARGV" (.text ['-'])
        return true
    | some id =>
      let path ← textOf (← cell id)
      setArray (← globalOf ⟨'@', "ARGV".toList⟩) (ids.extract 1 ids.size)
      modify fun s => { s with begun := true }
      setGlobal "ARGV" (.text path)
      if path = ['-'] then
        let text ← leftOf inputHandle
        setHandle filesHandle { h with input := some (text.getD []) }
        return true
      else
        match (← outside get).disk.read (pathOf path) with
        | .ok bytes =>
          let text := charsOf bytes
          setHandle filesHandle { h with input := some text }
          noTerminal
          match s.place with
          | none => return true
          | some added =>
            endChange
            outside (modify fun m =>
              let disk := if added.isEmpty then m.disk else (m.disk.write (pathOf (path ++ added)) bytes).toOption.getD m.disk
              { m with disk := ((disk.write (pathOf path) []).toOption).getD disk })
            let n ← newHandle { closedHandle "ARGVOUT".toList with outlet := .file path }
            modify fun s => { s with changing := some path, chosen := n }
            return true
        | .error fault =>
          setFault fault
          complain ("Can't open ".toList ++ path ++ ": ".toList ++ fault.text.toList ++ (← placeText))
          openNext fuel

/-- How many files can come one after another. -/
def fileMax : Nat := 100000

/-- The next line of the files that are read one after another. Every unit of fuel pays for a file. -/
def nextOfFiles : Nat → Work (Option (List Char))
  | 0 => return none
  | fuel + 1 => do
    let h ← handle filesHandle
    match h.input with
    | none => if ← openNext fileMax then nextOfFiles fuel else return none
    | some text =>
      match cutLine (← lineEnd) text with
      | some (line, rest) =>
        setHandle filesHandle { h with input := some rest, lines := h.lines + 1 }
        modify fun s => { s with lastRead := some filesHandle }
        return some line
      | none =>
        setHandle filesHandle { h with input := none }
        nextOfFiles fuel

/-- The next line of a handle. -/
def nextLine (n : Nat) : Work (Option (List Char)) := do
  if n = filesHandle then nextOfFiles fileMax
  else
    match ← leftOf n with
    | none => return none
    | some text =>
      modify fun s => { s with lastRead := some n }
      let h ← handle n
      let end_ ← lineEnd
      match cutLine end_ text with
      | none =>
        if end_.isNone ∧ h.lines = 0 then
          setHandle n { h with lines := 1 }
          return some []
        else return none
      | some (line, rest) =>
        setHandle n { h with input := some rest, lines := h.lines + 1 }
        return some line

/-- All lines that are left. Every unit of fuel pays for one. -/
def allLines (n : Nat) : Nat → Work (List (List Char))
  | 0 => return []
  | fuel + 1 => do
    match ← nextLine n with
    | none => return []
    | some line => return line :: (← allLines n fuel)

def lineMax : Nat := 10 ^ 7

/-- There is nothing left to be read. -/
def isAtEnd (n : Nat) : Work Bool := do
  match ← leftOf n with
  | none => return true
  | some text => return text.isEmpty

/-- A handle is closed; whether it was open. -/
def closeHandle (l : Launcher) (n : Nat) : Work Bool := do
  let h ← handle n
  if h.outlet = .nowhere ∧ h.input.isNone then return false
  match h.outlet with
  | .command text =>
    flushAll
    setHandle n (closedHandle h.name)
    let status ← runWith l text h.pending.reverse.flatten
    setGlobal "?" (.whole status)
    return status == 0
  | _ =>
    flush n
    setHandle n (closedHandle h.name)
    if h.status ≠ 0 then setGlobal "?" (.whole h.status)
    return h.status == 0

/-- Everything is closed at the end. -/
def closeList (l : Launcher) : List Nat → Work Unit
  | [] => return
  | n :: more => do
    let h ← handle n
    match h.outlet with
    | .command _ =>
      let _ ← closeHandle l n
    | _ => flush n
    closeList l more

def closeAll (l : Launcher) : Work Unit := do
  endChange
  let s ← get
  let n := s.handles.size
  flush Work.output
  closeList l (List.range n)

/-- How something is opened. -/
inductive Purpose where
  | read
  | write
  | append
  | both
  | toCommand
  | ofCommand
deriving Repr, DecidableEq, Inhabited

/-- What a text in front of a name asks for. -/
def Purpose.ofMode? (mode : List Char) : Option Purpose :=
  match String.ofList mode with
  | "<" => some .read
  | ">" => some .write
  | ">>" => some .append
  | "+<" => some .both
  | "|-" => some .toCommand
  | "-|" => some .ofCommand
  | _ => none

/-- What a single text asks to be opened. -/
def purposeOf (text : List Char) : Purpose × List Char :=
  let s := (text.dropWhile Awk.isGap).reverse.dropWhile Awk.isGap |>.reverse
  let rest (s : List Char) : List Char := s.dropWhile Awk.isGap
  match s with
  | '>' :: '>' :: more => (.append, rest more)
  | '>' :: more => (.write, rest more)
  | '+' :: '<' :: more => (.both, rest more)
  | '<' :: more => (.read, rest more)
  | '|' :: more => (.toCommand, rest more)
  | s => if s.getLast? = some '|' then (.ofCommand, (s.dropLast.reverse.dropWhile Awk.isGap).reverse) else (.read, s)

/-- Something is opened for a handle; whether that could be done. -/
def openFor (l : Launcher) (n : Nat) (purpose : Purpose) (target : List Char) : Work Bool := do
  let h ← handle n
  let _ ← if h.outlet = .nowhere ∧ h.input.isNone then pure true else closeHandle l n
  let fresh := closedHandle h.name
  let m ← outside get
  let failed (fault : SystemFault) : Work Bool := do
    setFault fault
    return false
  let writing (before : Option (List UInt8)) : Work Bool := do
    match m.disk.locate (pathOf target) with
    | .ok place => if m.disk.isDirectoryAt place then return (← failed .isDirectory)
    | .error _ => pure ()
    let held := before.getD (((m.disk.read (pathOf target)).toOption).getD [])
    match m.disk.write (pathOf target) held with
    | .ok disk =>
      outside (modify fun m => { m with disk })
      setHandle n { fresh with outlet := .file target }
      noTerminal
      return true
    | .error fault => failed fault
  match purpose with
  | .read =>
    if target = ['-'] then
      let text ← leftOf inputHandle
      setHandle n { fresh with input := text }
      return true
    match m.disk.locate (pathOf target) with
    | .error fault => failed fault
    | .ok place =>
      if m.disk.isDirectoryAt place then
        setHandle n { fresh with input := some [] }
        return true
      else
        match m.disk.read (pathOf target) with
        | .ok bytes =>
          setHandle n { fresh with input := some (charsOf bytes) }
          noTerminal
          return true
        | .error fault => failed fault
  | .write =>
    if target = ['-'] then
      setHandle n { fresh with outlet := .number 1 }
      return true
    writing (some [])
  | .append => writing none
  | .both =>
    match m.disk.read (pathOf target) with
    | .ok bytes =>
      setHandle n { fresh with input := some (charsOf bytes), outlet := .file target }
      return true
    | .error fault => failed fault
  | .toCommand =>
    setHandle n { fresh with outlet := .command target }
    return true
  | .ofCommand =>
    match ← outputOf l target with
    | (some text, status) =>
      setHandle n { fresh with input := some text, status := status.toNat }
      return true
    | (none, _) => return false

end DiagramStudio.Script.Perl
