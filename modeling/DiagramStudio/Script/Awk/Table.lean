import DiagramStudio.Keyed
import DiagramStudio.Script.Awk.Value
import Std.Data.HashMap

/-!
Tables of values under texts. Their entries are gone through in the order of a table of lists, in which the lists
are chosen by a digest of the texts, and what was used last stands in front.
-/

namespace DiagramStudio.Script.Awk

/-- A value in a table. -/
structure Entry where
  value : Value
  /-- The number that it was made under, if it was. -/
  number? : Option Int
  /-- It stands in the lists for texts. -/
  listed : Bool
  /-- When it was put in front of its list. -/
  stamp : Nat
deriving Inhabited

structure Table where
  entries : Std.HashMap (List Char) Entry
  /-- What the next stamp is. -/
  clock : Nat
deriving Inhabited

namespace Table

def empty : Table := ⟨{}, 1⟩

def size (t : Table) : Nat := t.entries.size

/-- The digest of a text. -/
def digest (s : List Char) : UInt32 :=
  s.foldl (fun h c => (h ^^^ UInt32.ofNat c.toNat) * 16777619) 2166136261

/-- How many lists there are. -/
def lists (t : Table) : Nat :=
  let rec widen (fuel lists : Nat) : Nat :=
    match fuel with
    | 0 => lists
    | fuel + 1 => if t.size ≤ 12 * lists then lists else widen fuel (2 * lists)
  widen 20 64

/-- All entries that were made under numbers put in the lists for texts. -/
def listed (t : Table) : Table :=
  let open_ := t.entries.toList.filter fun e => !e.2.listed
  if open_.isEmpty then t
  else
    let n := t.lists
    let place (e : List Char × Entry) : Nat := ((e.2.number?.getD 0) % n).toNat
    let row := open_.mergeSort fun a b => place a < place b || (place a == place b && b.2.stamp ≤ a.2.stamp)
    row.foldl (fun t (key, e) =>
      ⟨t.entries.insert key { e with listed := true, stamp := t.clock }, t.clock + 1⟩) t

/-- A key that values stand under: a text, and the number that it was given as, if it was. -/
structure Index where
  text : List Char
  number? : Option Int
deriving Inhabited

def find? (t : Table) (i : Index) : Option Value := (t.entries[i.text]?).map (·.value)

def has (t : Table) (i : Index) : Bool := t.entries.contains i.text

/-- The table after an entry has been looked for: it stands in front of its list. -/
def touched (t : Table) (i : Index) : Table :=
  match i.number? with
  | some n =>
    match t.entries[i.text]? with
    | some e =>
      if e.number?.isSome then
        if e.listed then t else ⟨t.entries.insert i.text { e with stamp := t.clock }, t.clock + 1⟩
      else ⟨t.entries.insert i.text { e with number? := some n, stamp := t.clock }, t.clock + 1⟩
    | none => t
  | none =>
    let t := t.listed
    match t.entries[i.text]? with
    | some e => ⟨t.entries.insert i.text { e with stamp := t.clock }, t.clock + 1⟩
    | none => t

/-- The table with a value under a key. -/
def put (t : Table) (i : Index) (value : Value) : Table :=
  let t := t.touched i
  match t.entries[i.text]? with
  | some e => { t with entries := t.entries.insert i.text { e with value } }
  | none =>
    let anyListed := t.entries.any fun _ e => e.listed
    let listed := i.number?.isNone || anyListed
    ⟨t.entries.insert i.text ⟨value, i.number?, listed, t.clock⟩, t.clock + 1⟩

def remove (t : Table) (i : Index) : Table := { t with entries := t.entries.erase i.text }

/-- The keys in the order in which they are gone through. -/
def keys (t : Table) : List (List Char) :=
  let t := t.listed
  let n := t.lists
  let place (e : List Char × Entry) : Nat := (digest e.1).toNat % n
  (t.entries.toList.mergeSort fun a b => place a < place b || (place a == place b && b.2.stamp ≤ a.2.stamp)).map (·.1)

/-- The table of texts under the numbers from one on. -/
def ofParts (parts : List (List Char)) : Table :=
  (parts.zipIdx 1).foldl (fun t (s, i) => t.put ⟨keyOf i, some i⟩ (.input s)) empty
where
  /-- A number as a key. -/
  keyOf (n : Nat) : List Char := (toString n).toList

end Table

end DiagramStudio.Script.Awk
