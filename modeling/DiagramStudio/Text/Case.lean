/-!
Letter case over ASCII. Characters outside ASCII have no case here, so two texts are equal up to
case only if their other characters are the same.
-/

namespace DiagramStudio.Text

/-- The text with ASCII capitals replaced by small letters. -/
def lower (s : List Char) : List Char :=
  s.map Char.toLower

/-- Equal up to the case of ASCII letters. -/
def sameFolded (a b : List Char) : Bool :=
  lower a == lower b

/-- The text begins with `mark` up to the case of ASCII letters. -/
def startsFolded (mark s : List Char) : Bool :=
  (lower mark).isPrefixOf (lower s)

theorem sameFolded_refl (a : List Char) : sameFolded a a = true := by
  simp [sameFolded]

end DiagramStudio.Text
