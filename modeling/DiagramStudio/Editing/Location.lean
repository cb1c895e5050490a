/-!
The address of the document that is edited, as far as a session can see it: the fragment behind its
mark.
-/

namespace DiagramStudio

/-- The fragment of the address, and how often it has been replaced. -/
structure Location where
  fragment : Option String := none
  replacements : Nat := 0
deriving Repr, DecidableEq, Inhabited

namespace Location

/-- An address that carries a fragment from the start. -/
def withFragment (fragment : String) : Location := ⟨some fragment, 0⟩

def replace (l : Location) (fragment : String) : Location := ⟨some fragment, l.replacements + 1⟩

end Location

end DiagramStudio
