/-!
The history of a text: earlier texts to go back to, of which only so many are kept, and later ones to
come forward to again. A new text ends what could be come forward to.
-/

namespace DiagramStudio

structure History where
  /-- How many earlier texts are kept. -/
  limit : Nat
  /-- Earlier texts, the latest first. -/
  earlier : List String := []
  /-- Later texts, the next first. -/
  later : List String := []
deriving Repr, DecidableEq, Inhabited

namespace History

/-- The history with one more earlier text; the oldest beyond the limit are let go. -/
def remember (h : History) (text : String) : History :=
  { h with earlier := (text :: h.earlier).take h.limit }

/-- The history after the text `previous` has been replaced by a new one. -/
def record (h : History) (previous : String) : History :=
  { h.remember previous with later := [] }

/-- The earlier text to go back to from the current one, if there is one, and the history then. -/
def undo? (h : History) (current : String) : Option (String × History) :=
  match h.earlier with
  | [] => none
  | text :: more => some (text, { h with earlier := more, later := current :: h.later })

/-- The later text to come forward to from the current one, if there is one, and the history then. -/
def redo? (h : History) (current : String) : Option (String × History) :=
  match h.later with
  | [] => none
  | text :: more => some (text, { h with later := more }.remember current)

def canUndo (h : History) : Bool := !h.earlier.isEmpty

def canRedo (h : History) : Bool := !h.later.isEmpty

/-- The earlier texts, the oldest first. -/
def snapshots (h : History) : List String := h.earlier.reverse

/-- Going back always leads to the text recorded last, as long as any is kept. -/
theorem undo?_record (h : History) (previous current : String) (kept : 0 < h.limit) :
    ((h.record previous).undo? current).map (·.1) = some previous := by
  obtain ⟨limit, earlier, later⟩ := h
  cases limit with
  | zero => exact absurd kept (Nat.lt_irrefl 0)
  | succ n => rfl

end History

end DiagramStudio
