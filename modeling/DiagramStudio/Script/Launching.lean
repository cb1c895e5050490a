import DiagramStudio.Preview.Process
import DiagramStudio.Script.Running

/-!
Starting the programs of engines. A program is known by its name, or it is a file; the shell is one of
those that are known.
-/

namespace DiagramStudio.Script

/-! ## The system -/

namespace System

/-- The number from which on the numbers are given to what belongs to the system. -/
def firstNumber : Nat := 10 ^ 9

/-- What belongs to the system, besides the programs: where it stands, and its mode. -/
def frame : List (Place × Content × Nat) :=
  [(["usr"], .directory, 0o755), (["usr", "bin"], .directory, 0o755), (["bin"], .link "usr/bin".toList, 0o777),
    (["dev"], .directory, 0o755), (["dev", "null"], .device .sink, 0o666), (["dev", "zero"], .device .zeros, 0o666),
    (["dev", "full"], .device .full, 0o666), (["tmp"], .directory, 0o1777)]

/-- The programs, each in a file. -/
def programs : List (Place × Content × Nat) :=
  programNames.map fun name => (["usr", "bin", name], .file (bytesOf (Program.body name)), 0o755)

/-- All that belongs to the system, with its numbers. -/
def all : List (Place × Nat × Node) :=
  (frame ++ programs).zipIdx.map fun ((place, content, mode), i) => (place, firstNumber + i, ⟨content, mode, false, 0⟩)

theorem isKept_entries (entries : List (Place × Nat × Node)) :
    Disk.IsKept (entries.map fun entry => (entry.1, entry.2.1)) (entries.map (·.2)) := by
  intro e member
  obtain ⟨entry, inside, rfl⟩ := List.mem_map.mp member
  exact .inr (entryFor?_isSome_of_mem (List.mem_map_of_mem inside))

/-- The file system with what belongs to the system. -/
def added (disk : Disk) : Disk :=
  let missing := all.filter fun entry => (disk.numberAt? entry.1).isNone
  { disk with
    places := disk.places ++ missing.map fun entry => (entry.1, entry.2.1)
    nodes := disk.nodes ++ missing.map (·.2)
    kept := disk.kept.append (isKept_entries missing) }

/-- The number is of something that belongs to the system. -/
def owns (number : Nat) : Bool := firstNumber ≤ number && number < firstNumber + all.length

theorem isKept_removed (disk : Disk) :
    Disk.IsKept (disk.places.filter fun entry => !owns entry.2) (disk.nodes.filter fun entry => !owns entry.1) := by
  intro e member
  obtain ⟨inside, stays⟩ := List.mem_filter.mp member
  rw [entryFor?_filter (!owns ·) stays]
  exact disk.kept e inside

/-- The file system without what belongs to the system. -/
def removed (disk : Disk) : Disk :=
  { disk with
    places := disk.places.filter fun entry => !owns entry.2
    nodes := disk.nodes.filter fun entry => !owns entry.1
    kept := isKept_removed disk }

end System

/-! ## Starting -/

/-- The number of the pipe to which a program writes what goes well, and that of the one for errors. -/
def outPipe : Nat := 1

def errorPipe : Nat := 2

/-- The machine in which a program is started: it has no input, and knows few variables. -/
def Machine.first (disk : Disk) (home : List Char) : Machine :=
  { disk
    openings := [(3, .sink), (4, .pipe outPipe true), (5, .pipe errorPipe true)]
    pipes := [(outPipe, ⟨[], true⟩), (errorPipe, ⟨[], true⟩)], queues := []
    lives := [(Machine.firstProcess, ⟨0, none, none⟩)], held := [], strikes := []
    nextOpening := 6, nextProcess := Machine.firstProcess + 1
    process := Machine.firstProcess, shell := Machine.firstProcess
    name := "sh".toList, params := []
    variables_ := Shell.firstVariables ++ [("HOME".toList, home)]
    exported := ["PATH".toList, "HOME".toList], fixed := [], functions := [], documents := []
    channels := [(0, 3), (1, 4), (2, 5)], outer := [], unwritten := none
    status := 0, captured := none, directory := [], line := 0, reading := 1, caller := [], flow := .on, options := []
    traps := [], caught := [], loops := 0, depth := 0, saved := [], nextOption := (1, none), aliases := [], jobs := []
    lastJob := none, struck := none, notice := [] }

/-- Why a program cannot be started, if it cannot. -/
def startFault? (m : Machine) (name : List Char) (program : Program) : Option SystemFault :=
  match program with
  | .known _ | .led .. => none
  | .script _ => some .notProgram
  | .refused | .missing =>
    some (if name.contains Path.separator then
        match m.disk.locate (pathOf name) with
        | .ok _ => if program = .missing then .notFound else .notPermitted
        | .error fault => fault
      else if pathOf name = Path.here ∨ pathOf name = Path.above then .notPermitted
      else .notFound)

/-- A program has ended, and nothing will be written any more to what it was started with. -/
def isDone (s : Schedule) : Bool :=
  let ended := match entryFor? Machine.firstProcess s.world.lives with
    | some life => life.ended.isSome
    | none => true
  ended && !s.tasks.any fun t => t.machine.holding.any fun n =>
    match entryFor? n s.world.openings with
    | some (.pipe pipe true) => pipe == outPipe || pipe == errorPipe
    | _ => false

/-- The most steps of all processes. -/
def stepMax : Nat := 10 ^ 7

/-- A program started with words: its status, what it wrote about errors, and the file system. -/
def start (disk : Disk) (command : String) (words : List String) :
    Except SystemFault (Nat × List UInt8 × Disk) :=
  let name := spread command
  let m := Machine.first (System.added disk) "/root".toList
  if (command :: words).any fun word => word.toList.contains '\x00' then .error .nulInWord
  else
    let program := Program.find m name
    match startFault? m name program with
    | some fault => .error fault
    | none =>
      let args := words.map spread
      let body := Caller.start (Running.run Running.depthFuel) (args.length + 8) program name args
      let begun := Schedule.follow ⟨m.toWorld, []⟩ (body m fun _ m => .ended m)
      let after := (begun.run isDone stepMax).world
      let life := (entryFor? Machine.firstProcess after.lives).getD ⟨0, some 0, none⟩
      let text := ((entryFor? errorPipe after.pipes).map Pipe.text).getD []
      let left := { System.removed after.disk with here := disk.here, mask := disk.mask }
      .ok (life.ended.getD 0, bytesOf text, left)

/-- A job done by a program that is started here. -/
def launch : Launcher := .ofStarter fun command words disk => start disk command words

end DiagramStudio.Script
