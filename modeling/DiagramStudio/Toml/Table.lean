import DiagramStudio.Config.Setting

/-!
Building the table of a TOML document from its lines. Every table and every value is defined once: a
header opens a table that none opened before, and a dotted key reaches only into tables that dotted
keys made.
-/

namespace DiagramStudio.Toml

/-- How a table came to be. -/
inductive Origin where
  /-- By the header of a table inside it. -/
  | implied
  /-- By a dotted key. -/
  | dotted
  /-- By a header of its own. -/
  | headed
deriving DecidableEq

/-- A part of a document under construction. -/
inductive Node where
  | value (s : Setting)
  | table (origin : Origin) (entries : List (String × Node))
  /-- Tables with one header, the last first. -/
  | tables (items : List (List (String × Node)))
deriving Inhabited

abbrev Entries := List (String × Node)

namespace Entries

def find? (entries : Entries) (key : String) : Option Node :=
  (List.find? (·.1 == key) entries).map (·.2)

/-- The entries with another part under a key; in its place if there is one, else behind all. -/
def set (entries : Entries) (key : String) (node : Node) : Entries :=
  if entries.any (·.1 == key) then entries.map fun e => if e.1 == key then (key, node) else e
  else entries ++ [(key, node)]

/-- The entries with a value under a dotted key. Tables on the way are made where they are missing, and
    those that only headers inside them imply count as made by the dotted key from then on. A row of
    tables leads into its last, to which the last of several keys cannot add. -/
def assign : Entries → List String → Setting → Option Entries
  | _, [], _ => none
  | entries, [key], s =>
    if (entries.find? key).isNone then some (entries.set key (.value s)) else none
  | entries, key :: path, s =>
    match entries.find? key with
    | none => (assign [] path s).map fun inner => entries.set key (.table .dotted inner)
    | some (.table origin inner) =>
      if origin = .headed then none
      else (assign inner path s).map fun inner => entries.set key (.table .dotted inner)
    | some (.tables (last :: others)) =>
      if path.length = 1 then none
      else (assign last path s).map fun last => entries.set key (.tables (last :: others))
    | some _ => none

/-- What stands in the innermost table that a path leads to is replaced by `f`; tables on the way are
    made where they are missing, and a row of tables leads into its last. -/
def within (f : Entries → Option Entries) : Entries → List String → Option Entries
  | entries, [] => f entries
  | entries, key :: path =>
    match entries.find? key with
    | none => (within f [] path).map fun inner => entries.set key (.table .implied inner)
    | some (.table origin inner) =>
      (within f inner path).map fun inner => entries.set key (.table origin inner)
    | some (.tables (last :: others)) =>
      (within f last path).map fun last => entries.set key (.tables (last :: others))
    | some _ => none

/-- The entries with a table under a key, opened by a header. -/
def openTable (key : String) (entries : Entries) : Option Entries :=
  match entries.find? key with
  | none => some (entries.set key (.table .headed []))
  | some (.table .implied inner) => some (entries.set key (.table .headed inner))
  | some _ => none

/-- The entries with one more table in the row of tables under a key. -/
def addTable (key : String) (entries : Entries) : Option Entries :=
  match entries.find? key with
  | none => some (entries.set key (.tables [[]]))
  | some (.tables items) => some (entries.set key (.tables ([] :: items)))
  | some _ => none

end Entries

mutual

/-- The setting that a part of a document stands for. -/
def Node.setting : Node → Setting
  | .value s => s
  | .table _ entries => .table (settings entries)
  | .tables items => .list false (listed items).reverse

/-- The settings under the keys of a table. -/
def settings : List (String × Node) → List (String × Setting)
  | [] => []
  | (key, node) :: more => (key, node.setting) :: settings more

/-- The settings of a row of tables. -/
def listed : List (List (String × Node)) → List Setting
  | [] => []
  | entries :: more => .table (settings entries) :: listed more

end

/-- A line of a document. -/
inductive Line where
  | blank
  | header (path : List String)
  | rowHeader (path : List String)
  | assignment (path : List String) (value : Setting)

/-- A document as far as it has been read: its table, and the path of the header that is in force. -/
structure Draft where
  path : List String
  root : Entries

namespace Draft

def empty : Draft := ⟨[], []⟩

/-- The document with one more line. -/
def add (d : Draft) : Line → Option Draft
  | .blank => some d
  | .header path =>
    match path.getLast? with
    | some key => (Entries.within (Entries.openTable key) d.root path.dropLast).map (⟨path, ·⟩)
    | none => none
  | .rowHeader path =>
    match path.getLast? with
    | some key => (Entries.within (Entries.addTable key) d.root path.dropLast).map (⟨path, ·⟩)
    | none => none
  | .assignment path value =>
    (Entries.within (fun entries => entries.assign path value) d.root d.path).map (⟨d.path, ·⟩)

end Draft

end DiagramStudio.Toml
