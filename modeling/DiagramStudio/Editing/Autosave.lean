/-!
Saving by itself: a session that has not changed for some time is due to be saved.
-/

namespace DiagramStudio

/-- A delay and, after a change, the time at which saving is due. Times are in milliseconds. -/
structure Autosave where
  delay : Nat
  deadline : Option Nat := none
deriving Repr, DecidableEq, Inhabited

namespace Autosave

/-- Something has changed now, so saving is due a whole delay from now. -/
def schedule (a : Autosave) (now : Nat) : Autosave :=
  { a with deadline := some (now + a.delay) }

/-- Saving is not due any more. -/
def cancel (a : Autosave) : Autosave :=
  { a with deadline := none }

/-- Saving is due now. -/
def isDue (a : Autosave) (now : Nat) : Bool :=
  match a.deadline with
  | some deadline => decide (deadline ≤ now)
  | none => false

end Autosave

/-- Whether what is edited has been saved. -/
inductive SaveStatus where
  | saved
  | dirty
deriving Repr, DecidableEq, Inhabited

def SaveStatus.name : SaveStatus → String
  | saved => "saved"
  | dirty => "unsaved changes"

end DiagramStudio
