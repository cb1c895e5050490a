import DiagramStudio.Files.Disk
import DiagramStudio.Script.Basic

/-!
The state in which a script runs: its parameters and variables, what its numbers are bound to, the file
system, and what it has written.
-/

namespace DiagramStudio.Script

/-! ## Texts and bytes -/

/-- The bytes that the characters stand for. -/
def bytesOf (s : List Char) : List UInt8 := s.map fun c => UInt8.ofNat c.toNat

/-- The characters that stand for the bytes. -/
def charsOf (bytes : List UInt8) : List Char := bytes.map fun b => Char.ofNat b.toNat

/-- A text as scripts know it. -/
def spread (s : String) : List Char := charsOf (Text.Utf8.encode s.toList)

/-- The path that characters of a script spell. -/
def pathOf (s : List Char) : List Char := Text.Utf8.decodeLossy (bytesOf s)

/-- A number as it is written. -/
def shown (n : Nat) : List Char := (toString n).toList

/-! ## The state -/

/-- What a number can be bound to. -/
inductive Opening where
  /-- Something on the disk, by its number there, and how much of it has been gone through. What is
      appended goes to its end in any case. -/
  | node (number offset : Nat) (appends reads writes : Bool)
  /-- One end of a pipe. -/
  | pipe (number : Nat) (writes : Bool)
  /-- It holds nothing and keeps nothing. -/
  | sink
deriving Repr, DecidableEq, Inhabited

structure Pipe where
  /-- What has been written and not been read, in pieces, the last first. -/
  pieces : List (List Char)
  /-- Someone collects all that is written, whoever else reads. -/
  collected : Bool
deriving Repr, DecidableEq, Inhabited

namespace Pipe

def text (p : Pipe) : List Char :=
  match p.pieces with
  | [s] => s
  | pieces => pieces.reverse.flatten

def isEmpty (p : Pipe) : Bool := p.pieces.all List.isEmpty

/-- How many characters fit in before someone has to read. -/
def capacity : Nat := 65536

def isFull (p : Pipe) : Bool := capacity < (p.pieces.map List.length).sum

end Pipe

/-- What is known of a process. -/
structure Life where
  parent : Nat
  /-- How it ended, if it has; zero is success. -/
  ended : Option Nat
  /-- The signal that ended it, if one did. -/
  struck : Option Nat
deriving Repr, DecidableEq, Inhabited

/-- What all processes share. -/
structure World where
  disk : Disk
  /-- What has been opened, by numbers. -/
  openings : List (Nat × Opening)
  pipes : List (Nat × Pipe)
  /-- The pipes behind the queues on the disk. -/
  queues : List (Nat × Nat)
  lives : List (Nat × Life)
  /-- What the processes have opened that do not go on just now. -/
  held : List (Nat × List Nat)
  /-- Signals that have been sent, each with the process that it is for. -/
  strikes : List (Nat × Nat)
  /-- The number that the next opening or pipe gets, and that of the next process. -/
  nextOpening : Nat
  nextProcess : Nat
deriving Inhabited

/-- How a script goes on. -/
inductive Flow where
  | on
  /-- So many loops around are left. -/
  | leaving (loops : Nat)
  /-- So many loops around are left, but for the last, which goes on. -/
  | repeating (loops : Nat)
  /-- The function is left. -/
  | returning
  /-- The shell ends because of a fault. A command that is not special keeps its faults to itself. -/
  | faulted
  | ended
deriving Repr, DecidableEq, Inhabited

/-- A variable as it was: its value, and whether programs were told. -/
structure Kept where
  name : List Char
  value : Option (List Char)
  exported : Bool
deriving Repr, DecidableEq, Inhabited

/-- What numbers are bound to, by the numbers of what has been opened. -/
abbrev Channels := List (Nat × Nat)

/-- A command that is not waited for. -/
structure Chore where
  process : Nat
  /-- The command as it is shown. -/
  shown : List Char
  /-- Its end has come up while something else was waited for. -/
  noticed : Bool
deriving Repr, DecidableEq, Inhabited

/-- A process, and the world as it sees it. -/
structure Machine extends World where
  /-- The number of the process, and that of the shell which it belongs to. -/
  process : Nat
  shell : Nat
  /-- The name that the script goes by. -/
  name : List Char
  /-- The words that the script or the function was given. -/
  params : List (List Char)
  variables_ : List (List Char × List Char)
  /-- The variables that programs are told, and those that cannot be changed. -/
  exported : List (List Char)
  fixed : List (List Char)
  functions : List (List Char × Command)
  /-- The texts of the script that its commands read. -/
  documents : List Word
  channels : Channels
  /-- What the numbers were bound to outside of the commands that have bound them anew, the innermost
      first. -/
  outer : List Channels
  /-- Why what was written last has not been taken up, if it has not. -/
  unwritten : Option SystemFault
  /-- How the last command ended; zero is success. -/
  status : Nat
  /-- How the commands ended whose output was put in place last. -/
  captured : Option Nat
  /-- The path by which the directory was entered in which the shell works; empty if that is the one from
      the root. -/
  directory : List Char
  /-- The line that is carried out. -/
  line : Nat
  /-- The line up to which the script has been read. -/
  reading : Nat
  /-- The command of the shell that is carried out, which complaints name; empty if there is none. -/
  caller : List Char
  flow : Flow
  /-- The letters of the options that are set. -/
  options : List Char
  /-- What is to be done on signals; the signal zero stands for the end. -/
  traps : List (Nat × List Char)
  /-- Signals that have come, and on which something is still to be done. -/
  caught : List Nat
  /-- How many loops are around, and how many functions. -/
  loops : Nat
  depth : Nat
  /-- What variables were before functions made them their own, those of the innermost first. -/
  saved : List (List Kept)
  /-- The word in which the next option is looked for, and how much of it has been read. -/
  nextOption : Nat × Option Nat
  /-- The texts that words stand for at the front of commands. -/
  aliases : List (List Char × List Char)
  jobs : List Chore
  /-- The process that was started last without being waited for. -/
  lastJob : Option Nat
  /-- The signal that has ended the process, if one has. -/
  struck : Option Nat
  /-- What is told of the command before this one, if the shell goes on. -/
  notice : List Char
deriving Inhabited

namespace Machine

/-- The machine of a process in a world that others have changed; where a process works, and what rights
    it holds back, is its own. -/
def within (m : Machine) (w : World) : Machine :=
  { m with toWorld := { w with disk := { w.disk with here := m.disk.here, mask := m.disk.mask } } }

/-- The script goes on with the next command. -/
def goes (m : Machine) : Bool := m.flow == .on

def ended (m : Machine) : Machine := { m with flow := .ended }

/-- The machine ended from outside by a signal; nothing is done at the end. -/
def kill (m : Machine) (signal : Nat) : Machine :=
  { m with status := 128 + signal, flow := .ended, traps := [], struck := some signal }

/-! ## Channels -/

/-- What a number is bound to. -/
def opening? (m : Machine) (number : Nat) : Option Opening :=
  (entryFor? number m.channels).bind fun n => entryFor? n m.openings

/-- The machine with a number bound to what is opened for it. -/
def bind (m : Machine) (number : Nat) (o : Opening) : Machine :=
  { m with openings := m.openings ++ [(m.nextOpening, o)], nextOpening := m.nextOpening + 1
           channels := withEntry number m.nextOpening m.channels }

def unbind (m : Machine) (number : Nat) : Machine :=
  { m with channels := withoutEntry number m.channels }

/-- The numbers of all that the process has opened. -/
def holding (m : Machine) : List Nat := (m.channels ++ m.outer.flatten).map (·.2)

/-- The machine with a new pipe, and the number of that. -/
def withPipe (m : Machine) (pieces : List (List Char)) (collected : Bool) : Machine × Nat :=
  ({ m with pipes := m.pipes ++ [(m.nextOpening, ⟨pieces, collected⟩)], nextOpening := m.nextOpening + 1 },
    m.nextOpening)

/-- The machine with a number bound to a text. -/
def bindText (m : Machine) (number : Nat) (s : List Char) : Machine :=
  let (m, pipe) := m.withPipe [s] false
  m.bind number (.pipe pipe false)

/-- The machine in which numbers may be bound anew for a while. -/
def enter (m : Machine) : Machine := { m with outer := m.channels :: m.outer }

/-- The machine with what the numbers were bound to before that. What no one has opened any more is
    forgotten. -/
def leave (m : Machine) : Machine :=
  match m.outer with
  | [] => m
  | channels :: outer =>
    let after := { m with channels, outer }
    let kept := after.holding
    let gone := (m.channels.map (·.2)).filter fun n =>
      !kept.contains n && !m.held.any fun entry => entry.2.contains n
    if gone.isEmpty then after
    else { after with openings := after.openings.filter fun entry => !gone.contains entry.1 }

/-- The machine in which the numbers stay bound as they are now. -/
def stay (m : Machine) : Machine := { m with outer := m.outer.tail }

/-- Someone but for those that a test leaves out has opened what another test picks. -/
def anyoneHolds (m : Machine) (self : Bool) (p : Opening → Bool) : Bool :=
  let picks (n : Nat) : Bool := ((entryFor? n m.openings).map p).getD false
  (self && m.holding.any picks) || m.held.any fun entry => entry.1 != m.process && entry.2.any picks

/-- Nothing more will be written to a pipe. -/
def isDry (m : Machine) (pipe : Nat) : Bool :=
  !m.anyoneHolds false fun
    | .pipe n writes => n == pipe && writes
    | _ => false

/-- Nothing will be read of a pipe any more. -/
def isBroken (m : Machine) (pipe : Nat) : Bool :=
  !(((entryFor? pipe m.pipes).map (·.collected)).getD false) && !m.anyoneHolds true fun
    | .pipe n writes => n == pipe && !writes
    | _ => false

/-- What has been collected in a pipe. -/
def collected (m : Machine) (pipe : Nat) : List Char := ((entryFor? pipe m.pipes).map Pipe.text).getD []

/-- The bytes that are left of the input that a number is bound to, if it is on the disk. -/
def bytesLeft (m : Machine) (number : Nat) : List UInt8 :=
  match m.opening? number with
  | some (.node n offset _ true _) =>
    match m.disk.content? n with
    | some (.file bytes) => bytes.drop offset
    | some content => ((Disk.bytesIn content).toOption).getD []
    | none => []
  | _ => []

/-- What is left of the input that a number is bound to. -/
def input (m : Machine) (number : Nat) : List Char :=
  match m.opening? number with
  | some (.pipe n false) => m.collected n
  | _ => charsOf (m.bytesLeft number)

/-- The input that a number is bound to is a file. -/
def readsFile (m : Machine) (number : Nat) : Bool :=
  match m.opening? number with
  | some (.node ..) | some .sink => true
  | _ => false

/-- The pipe that is read by a number. -/
def pipeRead? (m : Machine) (number : Nat) : Option Nat :=
  match m.opening? number with
  | some (.pipe n false) => some n
  | _ => none

/-- The machine with another state of what a number is bound to. -/
def setOpening (m : Machine) (number : Nat) (o : Opening) : Machine :=
  match entryFor? number m.channels with
  | some n => { m with openings := withEntry n o m.openings }
  | none => m

/-- The machine with another rest of the input that a number is bound to. -/
def setInput (m : Machine) (number : Nat) (rest : List Char) : Machine :=
  match m.opening? number with
  | some (.pipe n false) =>
    match entryFor? n m.pipes with
    | some p => { m with pipes := withEntry n { p with pieces := [rest] } m.pipes }
    | none => m
  | some (.node n _ appends reads writes) =>
    match m.disk.content? n with
    | some (.file bytes) => m.setOpening number (.node n (bytes.length - rest.length) appends reads writes)
    | _ => m
  | _ => m

/-- The machine after so many characters of its input. -/
def advance (m : Machine) (number count : Nat) : Machine :=
  match m.opening? number with
  | some (.node n offset appends reads writes) =>
    m.setOpening number (.node n (offset + count) appends reads writes)
  | _ => m.setInput number ((m.input number).drop count)

/-- Bytes with others in their place from an offset on. -/
def overwritten (held : List UInt8) (offset : Nat) (bytes : List UInt8) : List UInt8 :=
  held.take offset ++ List.replicate (offset - held.length) 0 ++ bytes ++ held.drop (offset + bytes.length)

/-- The machine after characters have gone out. -/
def emit (m : Machine) (number : Nat) (s : List Char) : Machine :=
  if s.isEmpty then m
  else
    match m.opening? number with
    | some .sink => m
    | some (.node n offset appends reads true) =>
      match m.disk.content? n with
      | some (.file held) =>
        let offset := if appends then held.length else offset
        let bytes := bytesOf s
        let whole := if offset = held.length then held ++ bytes else overwritten held offset bytes
        ({ m with disk := m.disk.refill n (.file whole) }).setOpening number
          (.node n (offset + bytes.length) appends reads true)
      | some (.device .full) => { m with unwritten := some .noSpace }
      | _ => m
    | some (.pipe n true) =>
      if m.isBroken n then { m with unwritten := some .brokenPipe }
      else
        match entryFor? n m.pipes with
        | some p => { m with pipes := withEntry n { p with pieces := s :: p.pieces } m.pipes }
        | none => m
    | _ => { m with unwritten := some .badNumber }

/-- The machine after a complaint of the script itself. -/
def complain (m : Machine) (what : List Char) (status : Nat) : Machine :=
  let caller := if m.caller.isEmpty then [] else m.caller ++ ": ".toList
  { m.emit 2 (m.name ++ ": ".toList ++ shown m.line ++ ": ".toList ++ caller ++ what ++ ['\n']) with
    status := status }

/-- The machine after a fault that ends the shell. -/
def fault (m : Machine) (what : List Char) : Machine := { m.complain what 2 with flow := .faulted }

/-! ## Parameters -/

/-- The number of the first process. -/
def firstProcess : Nat := 4711

/-- The letters of options, in the order in which they are shown. -/
def optionLetters : List Char :=
  ['u', 'b', 'a', 'C', 'E', 'V', 'v', 'x', 's', 'n', 'm', 'i', 'I', 'f', 'e']

/-- The value of a parameter, if it has one. -/
def value? (m : Machine) (name : List Char) : Option (List Char) :=
  match name with
  | ['#'] => some (shown m.params.length)
  | ['?'] => some (shown m.status)
  | ['$'] => some (shown m.shell)
  | ['!'] => m.lastJob.map shown
  | ['-'] => some (optionLetters.filter m.options.contains)
  | ['@'] => if m.params.isEmpty then none else some ([' '].intercalate m.params)
  | ['*'] => if m.params.isEmpty then none else some ([' '].intercalate m.params)
  | _ =>
    if name.all Char.isDigit then
      match (String.ofList name).toNat? with
      | some (n + 1) => m.params[n]?
      | _ => some m.name
    else entryFor? name m.variables_

def value (m : Machine) (name : List Char) : List Char := (m.value? name).getD []

/-- The name of the variable that holds the number of the next word with options. -/
def optionIndex : List Char := "OPTIND".toList

/-- The machine with another value of a variable. -/
def set (m : Machine) (name value : List Char) : Machine :=
  let m := { m with variables_ := withEntry name value m.variables_ }
  let m := if name = optionIndex then
      { m with nextOption := ((String.ofList value).toNat?.getD 1, none) }
    else m
  if m.options.contains 'a' then { m with exported := name :: m.exported.filter (· != name) } else m

/-- The machine with a variable set, unless it cannot be changed. -/
def assign (m : Machine) (name value : List Char) : Machine :=
  if !isName name then m.fault (name ++ ": bad variable name".toList)
  else if m.fixed.contains name then m.fault (name ++ ": is read only".toList)
  else m.set name value

def unset (m : Machine) (name : List Char) : Machine :=
  { m with variables_ := withoutEntry name m.variables_, exported := m.exported.filter (· != name) }

/-- The machine whose programs are told of a variable. -/
def export_ (m : Machine) (name : List Char) : Machine :=
  { m with exported := m.exported.filter (· != name) ++ [name] }

/-- A variable as it is. -/
def kept (m : Machine) (name : List Char) : Kept :=
  ⟨name, entryFor? name m.variables_, m.exported.contains name⟩

/-- The machine with variables as they were. -/
def restore (m : Machine) (kept : List Kept) : Machine :=
  kept.foldl (fun m k =>
    let m := m.unset k.name
    let m := match k.value with
      | some value => { m with variables_ := withEntry k.name value m.variables_ }
      | none => m
    if k.exported then m.export_ k.name else m) m

/-- The characters at which values are cut into fields. -/
def separators (m : Machine) : List Char :=
  (entryFor? "IFS".toList m.variables_).getD [' ', '\t', '\n']

/-- An option is set. -/
def has (m : Machine) (option : Char) : Bool := m.options.contains option

/-- The machine with an option on or off. -/
def switch (m : Machine) (option : Char) (on : Bool) : Machine :=
  let others := m.options.filter (· != option)
  { m with options := if on then option :: others else others }

/-! ## Shells within shells -/

/-- The machine as a shell of its own begins with it: of what was to be done on signals it keeps what is
    nothing. -/
def forInner (m : Machine) : Machine :=
  { m with traps := m.traps.filter (·.2.isEmpty), caught := [], reading := 1, jobs := [], notice := [] }

end Machine

end DiagramStudio.Script
