/-!
Values under keys, as lists of pairs: the value of a key, and the list with another value under it or
with none.
-/

namespace DiagramStudio

variable {κ α : Type} [DecidableEq κ]

/-- The value that a list of entries gives a key. -/
def entryFor? (key : κ) (entries : List (κ × α)) : Option α :=
  (entries.find? fun e => decide (e.1 = key)).map (·.2)

/-- The entries with a value under a key: in its place if it has one, else behind all. -/
def withEntry (key : κ) (value : α) : List (κ × α) → List (κ × α)
  | [] => [(key, value)]
  | e :: more => if e.1 = key then (key, value) :: more else e :: withEntry key value more

/-- The entries without those under a key. -/
def withoutEntry (key : κ) (entries : List (κ × α)) : List (κ × α) :=
  entries.filter fun e => !decide (e.1 = key)

theorem entryFor?_withEntry_self (key : κ) (value : α) (entries : List (κ × α)) :
    entryFor? key (withEntry key value entries) = some value := by
  induction entries with
  | nil => simp [withEntry, entryFor?]
  | cons e more ih =>
    simp only [withEntry]
    split
    · simp [entryFor?]
    · next h => simpa [entryFor?, List.find?_cons, h] using ih

theorem entryFor?_withEntry_of_ne {key other : κ} (ne : other ≠ key) (value : α)
    (entries : List (κ × α)) :
    entryFor? other (withEntry key value entries) = entryFor? other entries := by
  induction entries with
  | nil => simp [withEntry, entryFor?, Ne.symm ne]
  | cons e more ih =>
    simp only [withEntry]
    split
    · next h => simp [entryFor?, Ne.symm ne, h]
    · by_cases same : e.1 = other
      · simp [entryFor?, same]
      · simpa [entryFor?, List.find?_cons, same] using ih

theorem entryFor?_append (key : κ) (front back : List (κ × α)) :
    entryFor? key (front ++ back) = (entryFor? key front).or (entryFor? key back) := by
  simp [entryFor?, List.find?_append, Option.map_or]

theorem entryFor?_isSome_of_mem {e : κ × α} {entries : List (κ × α)} (member : e ∈ entries) :
    (entryFor? e.1 entries).isSome = true := by
  simpa [entryFor?] using ⟨e.2, member⟩

/-- Entries that are left out under other keys do not count. -/
theorem entryFor?_filter (keeps : κ → Bool) {key : κ} (kept : keeps key = true) (entries : List (κ × α)) :
    entryFor? key (entries.filter fun e => keeps e.1) = entryFor? key entries := by
  have same : (fun e : κ × α => decide (keeps e.1 = true ∧ decide (e.1 = key) = true)) =
      fun e => decide (e.1 = key) := by
    funext e
    by_cases this : e.1 = key
    · simp [this, kept]
    · simp [this]
  rw [entryFor?, List.find?_filter, same, entryFor?]

theorem mem_withEntry {key : κ} {value : α} {e : κ × α} {entries : List (κ × α)}
    (member : e ∈ withEntry key value entries) : e = (key, value) ∨ e ∈ entries := by
  induction entries with
  | nil => exact .inl (List.mem_singleton.mp member)
  | cons first more ih =>
    rw [withEntry] at member
    split at member
    · exact (List.mem_cons.mp member).imp_right (List.mem_cons_of_mem _)
    · rcases List.mem_cons.mp member with rfl | member
      · exact .inr List.mem_cons_self
      · exact (ih member).imp_right (List.mem_cons_of_mem _)

theorem entryFor?_eq_none {key : κ} {entries : List (κ × α)} (none_ : ∀ e ∈ entries, e.1 ≠ key) :
    entryFor? key entries = none := by
  simpa [entryFor?] using fun k value member => none_ (k, value) member

end DiagramStudio
