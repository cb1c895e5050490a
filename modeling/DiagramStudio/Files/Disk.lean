import DiagramStudio.Failure.System
import DiagramStudio.Files.Path
import DiagramStudio.Keyed
import DiagramStudio.Text.Utf8

/-!
A file system: what stands at the places under one root, who may use it, and the directory in which a
program works. What stands somewhere is kept under its number, which is part of what a file system is
(`Disk.kept`). Every path is looked up step by step, and a step is possible only in a directory that may
be entered. Links are followed on the way.
-/

namespace DiagramStudio

/-! ## What there is -/

/-- A file that keeps nothing of what is written to it. -/
inductive Device where
  /-- It holds nothing. -/
  | sink
  /-- It holds zeros without end. -/
  | zeros
  /-- It holds zeros without end, and nothing more fits into it. -/
  | full
deriving Repr, DecidableEq, Inhabited

inductive Content where
  | file (bytes : List UInt8)
  | directory
  /-- A link, by the path that it leads to. -/
  | link (target : List Char)
  /-- What is written here waits for someone to read it, and is not kept. -/
  | queue
  | device (kind : Device)
deriving Repr, DecidableEq, Inhabited

/-- What someone may be allowed to do. -/
inductive Right where
  | read
  | write
  /-- To enter a directory, or to start a file. -/
  | enter
deriving Repr, DecidableEq, Inhabited

/-- What counts for a right in the digit of a mode. -/
def Right.weight : Right → Nat
  | read => 4
  | write => 2
  | enter => 1

/-- What a file system keeps under a number; it may stand at several places. -/
structure Node where
  content : Content
  /-- The rights, in three digits of base eight: those of the owner, of the group, and of all others. -/
  mode : Nat
  /-- It is owned by the one who runs the program. -/
  owned : Bool
  /-- When it was last changed, in nanoseconds. -/
  changed : Int
deriving Repr, DecidableEq, Inhabited

namespace Node

def allows (n : Node) (r : Right) : Bool :=
  (if n.owned then n.mode / 64 else n.mode) / r.weight % 2 == 1

/-- The directory at the root. -/
def root : Node := ⟨.directory, 0o755, false, 0⟩

end Node

/-- The names that lead from the root to a place. -/
abbrev Place := List String

namespace Disk

/-- The number of what stands at the root. -/
def rootNumber : Nat := 0

/-- What stands somewhere is kept under its number. What stands at the root is there in any case. -/
def IsKept (places : List (Place × Nat)) (nodes : List (Nat × Node)) : Prop :=
  ∀ e ∈ places, e.2 = rootNumber ∨ (entryFor? e.2 nodes).isSome = true

namespace IsKept

variable {places : List (Place × Nat)} {nodes : List (Nat × Node)}

instance : Decidable (IsKept places nodes) :=
  inferInstanceAs (Decidable (∀ e ∈ places, e.2 = rootNumber ∨ (entryFor? e.2 nodes).isSome = true))

theorem withNode (kept : IsKept places nodes) (number : Nat) (n : Node) :
    IsKept places (withEntry number n nodes) := by
  refine fun e member => (kept e member).imp_right fun some_ => ?_
  by_cases same : e.2 = number
  · rw [same, entryFor?_withEntry_self]
    rfl
  · rwa [entryFor?_withEntry_of_ne same]

theorem withPlace (kept : IsKept places nodes) (place : Place) {number : Nat}
    (there : number = rootNumber ∨ (entryFor? number nodes).isSome = true) :
    IsKept (withEntry place number places) nodes := by
  intro e member
  rcases mem_withEntry member with rfl | member
  · exact there
  · exact kept e member

/-- Places may be left out, and what stands at one may be at another. -/
theorem of_numbers (kept : IsKept places nodes) {places' : List (Place × Nat)}
    (old : ∀ e' ∈ places', ∃ e ∈ places, e.2 = e'.2) : IsKept places' nodes := by
  intro e' member
  obtain ⟨e, member, same⟩ := old e' member
  rw [← same]
  exact kept e member

theorem filter (kept : IsKept places nodes) (stays : Place × Nat → Bool) : IsKept (places.filter stays) nodes :=
  kept.of_numbers fun e member => ⟨e, (List.mem_filter.mp member).1, rfl⟩

theorem move (kept : IsKept places nodes) (moved : Place → Place) :
    IsKept (places.map fun e => (moved e.1, e.2)) nodes := by
  refine kept.of_numbers fun e' member => ?_
  obtain ⟨e, old, rfl⟩ := List.mem_map.mp member
  exact ⟨e, old, rfl⟩

theorem append (kept : IsKept places nodes) {more : List (Place × Nat)} {nodes' : List (Nat × Node)}
    (keptMore : IsKept more nodes') : IsKept (places ++ more) (nodes ++ nodes') := by
  intro e member
  rw [entryFor?_append, Option.isSome_or, Bool.or_eq_true]
  rcases List.mem_append.mp member with old | new
  · exact (kept e old).imp_right .inl
  · exact (keptMore e new).imp_right .inr

end IsKept

end Disk

structure Disk where
  /-- The numbers of what stands where; the root is there in any case. -/
  places : List (Place × Nat)
  nodes : List (Nat × Node)
  /-- The directory in which the program works. -/
  here : Place
  /-- The rights that nothing new is given. -/
  mask : Nat
  /-- The time, in nanoseconds. -/
  now : Int
  kept : Disk.IsKept places nodes := by decide
deriving Repr, DecidableEq

namespace Disk

/-- A file system without anything in it. -/
def empty : Disk := { places := [], nodes := [], here := [], mask := 0o022, now := 0 }

instance : Inhabited Disk := ⟨empty⟩

/-- The number of what stands at a place. -/
def numberAt? (d : Disk) (place : Place) : Option Nat :=
  if place = [] then some rootNumber else entryFor? place d.places

/-- What is kept under a number. -/
def node? (d : Disk) (number : Nat) : Option Node :=
  if number = rootNumber then some ((entryFor? number d.nodes).getD .root) else entryFor? number d.nodes

def content? (d : Disk) (number : Nat) : Option Content := (d.node? number).map (·.content)

def nodeAt? (d : Disk) (place : Place) : Option Node := (d.numberAt? place).bind d.node?

theorem isSome_node? {d : Disk} {place : Place} {number : Nat} (at_ : d.numberAt? place = some number) :
    (d.node? number).isSome = true := by
  unfold node?
  split
  · rfl
  next notRoot =>
  unfold numberAt? at at_
  split at at_
  · exact absurd (Option.some.inj at_).symm notRoot
  · obtain ⟨e, found, rfl⟩ := Option.map_eq_some_iff.mp at_
    exact (d.kept e (List.mem_of_find?_eq_some found)).resolve_left notRoot

theorem entry_of_isSome_node? {d : Disk} {number : Nat} (some_ : (d.node? number).isSome = true) :
    number = rootNumber ∨ (entryFor? number d.nodes).isSome = true := by
  unfold node? at some_
  split at some_
  · next root => exact .inl root
  · exact .inr some_

/-- What stands at a place. -/
def at? (d : Disk) (place : Place) : Option Content := (d.nodeAt? place).map (·.content)

def isDirectoryAt (d : Disk) (place : Place) : Bool :=
  d.at? place == some .directory

/-- What stands at a place allows something. -/
def allowsAt (d : Disk) (place : Place) (r : Right) : Bool :=
  match d.nodeAt? place with
  | some n => n.allows r
  | none => false

/-- A number that nothing has yet. -/
def fresh (d : Disk) : Nat := d.nodes.foldl (fun n e => max n (e.1 + 1)) (rootNumber + 1)

/-- The rights that something new would have if nothing were held back. -/
def fullMode : Content → Nat
  | .directory | .link _ => 0o777
  | _ => 0o666

/-- The time of what is changed now; clocks of file systems tick slowly. -/
def tick (d : Disk) : Int := d.now - d.now % 4000000

/-- Something new. -/
def made (d : Disk) (content : Content) : Node :=
  let mode := match content with
    | .link _ => fullMode content
    | _ => fullMode content &&& (0o7777 ^^^ d.mask)
  ⟨content, mode, true, d.tick⟩

/-- The file system with something else under a number. -/
def setNode (d : Disk) (number : Nat) (n : Node) : Disk :=
  { d with nodes := withEntry number n d.nodes, kept := d.kept.withNode number n }

/-- The file system with another content under a number. -/
def refill (d : Disk) (number : Nat) (content : Content) : Disk :=
  match d.node? number with
  | some n => d.setNode number { n with content, changed := d.tick }
  | none => d

/-- The file system in which a directory has been changed just now. -/
def stamp (d : Disk) (place : Place) : Disk :=
  match d.numberAt? place with
  | some number =>
    match d.node? number with
    | some n => d.setNode number { n with changed := d.tick }
    | none => d
  | none => d

/-- The file system with something new at a place, before the directory around it is stamped. -/
def placed (d : Disk) (place : Place) (n : Node) : Disk :=
  let nodes := withEntry d.fresh n d.nodes
  have there : (entryFor? d.fresh nodes).isSome = true := by rw [entryFor?_withEntry_self, Option.isSome_some]
  { d with
    places := withEntry place d.fresh d.places
    nodes
    kept := (d.kept.withNode d.fresh n).withPlace place (.inr there) }

/-- The file system with something at a place where nothing is. -/
def add (d : Disk) (place : Place) (n : Node) : Disk := (d.placed place n).stamp place.dropLast

/-- The file system with something at a place. -/
def put (d : Disk) (place : Place) (content : Content) : Disk :=
  match d.numberAt? place with
  | some number => d.refill number content
  | none => d.add place (d.made content)

/-- The file system without a place and all that lies below it. -/
def remove (d : Disk) (place : Place) : Disk :=
  let stays (e : Place × Nat) := !place.isPrefixOf e.1
  { d with places := d.places.filter stays, kept := d.kept.filter stays }.stamp place.dropLast

/-- The file system with what is kept under a number also at a place where nothing is. -/
def join (d : Disk) (place : Place) (number : Nat) : Disk :=
  if some_ : (d.node? number).isSome = true then
    { d with
      places := withEntry place number d.places
      kept := d.kept.withPlace place (entry_of_isSome_node? some_) }.stamp place.dropLast
  else d

/-- The file system with all that stands at a place at another, where nothing is. -/
def move (d : Disk) (source goal : Place) : Disk :=
  let moved (place : Place) : Place :=
    if source.isPrefixOf place then goal ++ place.drop source.length else place
  let places := d.places.map fun e => (moved e.1, e.2)
  ({ d with places, here := moved d.here, kept := d.kept.move moved }.stamp source.dropLast).stamp goal.dropLast

/-- The places below a place. -/
def below (d : Disk) (place : Place) : List Place :=
  (d.places.map (·.1)).filter fun other => place.isPrefixOf other && other != place

/-! ## Paths -/

/-- The most bytes of a name. -/
def nameMax : Nat := 255

/-- The most bytes of a path. -/
def pathMax : Nat := 4095

/-- The most links on the way of a path. -/
def linkMax : Nat := 40

/-- What is wrong with a path as such. -/
def pathFault? (path : List Char) : Option SystemFault :=
  if path.contains '\x00' then some .nulInPath
  else if path.isEmpty then some .notFound
  else if pathMax < Text.byteSize path then some .nameTooLong
  else none

/-- The place at which the names of a path begin to count, as seen from a directory. -/
def startFrom (place : Place) (path : List Char) : Place :=
  if Path.isAbsolute path then [] else place

/-- The place at which the names of a path begin to count. -/
def start (d : Disk) (path : List Char) : Place := startFrom d.here path

/-- The place of a name in the directory at a place, whether anything stands there or not. -/
def child (d : Disk) (place : Place) (name : List Char) : Except SystemFault Place :=
  if !d.isDirectoryAt place then .error .notDirectory
  else if !d.allowsAt place .enter then .error .notPermitted
  else if nameMax < Text.byteSize name then .error .nameTooLong
  else .ok (place ++ [String.ofList name])

/-- The place to which one name leads from a place; it may be that of a link. -/
def step (d : Disk) (place : Place) (name : List Char) : Except SystemFault Place :=
  if Path.isEmptyStep name || name == Path.above then
    if !d.isDirectoryAt place then .error .notDirectory
    else if !d.allowsAt place .enter then .error .notPermitted
    else .ok (if name = Path.above then place.dropLast else place)
  else
    match d.child place name with
    | .error fault => .error fault
    | .ok place => if (d.at? place).isSome then .ok place else .error .notFound

/-- The place to which names lead, if links are followed by `follow`, which is told the directory of the
    link, its target, and the names behind it. -/
def walkBy (d : Disk) (follow : Place → List Char → List (List Char) → Except SystemFault Place) :
    Place → List (List Char) → Except SystemFault Place
  | place, [] => .ok place
  | place, name :: more =>
    match d.step place name with
    | .error fault => .error fault
    | .ok next =>
      match d.at? next with
      | some (.link target) => follow place target more
      | _ => d.walkBy follow next more

/-- The place to which names lead, with so many links at most on the way. -/
def walk (d : Disk) : Nat → Place → List (List Char) → Except SystemFault Place
  | 0 => d.walkBy fun _ _ _ => .error .tooManyLinks
  | links + 1 => d.walkBy fun place target more =>
    d.walk links (startFrom place target) (Path.names target ++ more)

/-- The place to which a path leads. -/
def locate (d : Disk) (path : List Char) : Except SystemFault Place :=
  match pathFault? path with
  | some fault => .error fault
  | none => d.walk linkMax (d.start path) (Path.names path)

/-- What a path leads to, told by its last name: the directory in which to look for it, and the name;
    no name if it is the directory itself or the one around it. -/
structure Target where
  directory : Place
  name : Option (List Char)
  /-- A separator follows the name. -/
  trailing : Bool

/-- What a path leads to as seen from a directory, whether it is there or not. -/
def targetFrom (d : Disk) (place : Place) (path : List Char) : Except SystemFault Target :=
  let names := (Path.names path).reverse.dropWhile (·.isEmpty)
  let trailing := path.getLast? == some Path.separator
  match names with
  | [] => .ok ⟨[], none, trailing⟩
  | name :: outer =>
    if name = Path.here ∨ name = Path.above then
      (d.walk linkMax (startFrom place path) names.reverse).map (⟨·, none, trailing⟩)
    else (d.walk linkMax (startFrom place path) outer.reverse).map (⟨·, some name, trailing⟩)

/-- What a path leads to, whether it is there or not. -/
def target (d : Disk) (path : List Char) : Except SystemFault Target :=
  match pathFault? path with
  | some fault => .error fault
  | none => d.targetFrom d.here path

/-- The place to which a path leads; a link at its end is not followed. -/
def locateSelf (d : Disk) (path : List Char) : Except SystemFault Place :=
  match d.target path with
  | .error fault => .error fault
  | .ok ⟨directory, none, _⟩ => .ok directory
  | .ok ⟨directory, some name, trailing⟩ => if trailing then d.locate path else d.step directory name

/-- The names of what stands in the directory at a place. -/
def listAt (d : Disk) (place : Place) : List String :=
  d.places.filterMap fun (other, _) =>
    if !other.isEmpty && other.dropLast == place then other.getLast? else none

/-- How many names what stands at a place has; a directory is named by itself and by those in it, too. -/
def linkCount (d : Disk) (place : Place) : Nat :=
  if d.isDirectoryAt place then
    2 + ((d.listAt place).filter fun name => d.isDirectoryAt (place ++ [name])).length
  else
    match d.numberAt? place with
    | some number => (d.places.filter (·.2 == number)).length
    | none => 0

/-- The names in the directory to which a path leads, as far as they may be read. -/
def list (d : Disk) (path : List Char) : List String :=
  match d.locate path with
  | .error _ => []
  | .ok place => if d.allowsAt place .read then d.listAt place else []

/-! ## Operations -/

/-- A path leads somewhere. -/
def leads (d : Disk) (path : List Char) : Bool := (d.locate path).toOption.isSome

def isDirectory (d : Disk) (path : List Char) : Bool :=
  match d.locate path with
  | .ok place => d.isDirectoryAt place
  | .error _ => false

/-- What is read of a file without an end, as much of it as anyone could want. -/
def zeros : List UInt8 := List.replicate (2 ^ 17) 0

/-- The bytes that are read of something. -/
def bytesIn : Content → Except SystemFault (List UInt8)
  | .file bytes => .ok bytes
  | .device .sink | .queue => .ok []
  | .device _ => .ok zeros
  | .directory => .error .isDirectory
  | .link _ => .error .tooManyLinks

/-- The bytes of a file. -/
def read (d : Disk) (path : List Char) : Except SystemFault (List UInt8) :=
  match d.locate path with
  | .error fault => .error fault
  | .ok place =>
    match d.nodeAt? place with
    | some n => if n.allows .read then bytesIn n.content else .error .notPermitted
    | none => .error .notFound

/-- Something may be made in, or taken out of, the directory at a place. -/
def changeable (d : Disk) (place : Place) : Bool := d.allowsAt place .write && d.allowsAt place .enter

/-- The place of a file to be written, as a path names it from a directory, with so many links at most at
    the end of the path. -/
def fileFrom (d : Disk) : Nat → Place → List Char → Except SystemFault Place
  | 0, _, _ => .error .tooManyLinks
  | links + 1, here, path =>
    match d.targetFrom here path with
    | .error fault => .error fault
    | .ok ⟨_, none, _⟩ => .error .isDirectory
    | .ok ⟨directory, some name, trailing⟩ =>
      if !d.isDirectoryAt directory then .error .notDirectory
      else if trailing then .error .isDirectory
      else
        match d.child directory name with
        | .error fault => .error fault
        | .ok place =>
          match d.nodeAt? place with
          | none => if d.changeable directory then .ok place else .error .notPermitted
          | some n =>
            match n.content with
            | .link target => d.fileFrom links directory target
            | .directory => .error .isDirectory
            | _ => if n.allows .write then .ok place else .error .notPermitted

/-- The place of a file to be written, whether it is there or not. -/
def fileAt (d : Disk) (path : List Char) : Except SystemFault Place :=
  match pathFault? path with
  | some fault => .error fault
  | none => d.fileFrom linkMax d.here path

/-- The file system with other bytes in the file at a place. -/
def fill (d : Disk) (place : Place) (bytes : List UInt8) : Disk :=
  match d.at? place with
  | some (.file _) | none => d.put place (.file bytes)
  | some _ => d

/-- A file written: what it held before is gone. -/
def write (d : Disk) (path : List Char) (bytes : List UInt8) : Except SystemFault Disk :=
  match d.fileAt path with
  | .error fault => .error fault
  | .ok place =>
    if d.at? place = some (.device .full) ∧ bytes ≠ [] then .error .noSpace else .ok (d.fill place bytes)

/-- A directory made in one that is there. -/
def makeDirectory (d : Disk) (path : List Char) : Except SystemFault Disk :=
  match d.target path with
  | .error fault => .error fault
  | .ok ⟨_, none, _⟩ => .error .exists_
  | .ok ⟨directory, some name, _⟩ =>
    match d.child directory name with
    | .error fault => .error fault
    | .ok place =>
      if (d.at? place).isSome then .error .exists_
      else if !d.changeable directory then .error .notPermitted
      else .ok (d.put place .directory)

/-- The outcome of making a directory that may be there already. -/
def settle (d : Disk) (path : List Char) (made : Except SystemFault Disk) :
    Except SystemFault Unit × Disk :=
  match made with
  | .ok d => (.ok (), d)
  | .error fault => if d.isDirectory path then (.ok (), d) else (.error fault, d)

/-- A directory made, with those around it; `steps` are the names of its path, the last first. -/
def makeSteps (d : Disk) (absolute : Bool) : (steps : List (List Char)) → Except SystemFault Unit × Disk
  | [] => (.ok (), d)
  | name :: outer =>
    let path := Path.ofSteps absolute (name :: outer).reverse
    match d.makeDirectory path with
    | .error .notFound =>
      match d.makeSteps absolute outer with
      | (.error fault, d) => (.error fault, d)
      | (.ok (), d) => d.settle path (d.makeDirectory path)
    | made => d.settle path made

/-- A directory made, with those around it. What has been made stays even if a later one fails. -/
def makeDirectories (d : Disk) (path : List Char) : Except SystemFault Unit × Disk :=
  d.makeSteps (Path.isAbsolute path) (Path.steps path).reverse

/-! ## Texts -/

/-- The text of a file. -/
def readText (d : Disk) (path : List Char) : Except SystemFault (List Char) :=
  match d.read path with
  | .error fault => .error fault
  | .ok bytes =>
    match Text.Utf8.decode? bytes with
    | some text => .ok text
    | none => .error .notText

/-- A text written to a file. -/
def writeText (d : Disk) (path text : List Char) : Except SystemFault Disk :=
  d.write path (Text.Utf8.encode text)

end Disk

end DiagramStudio
