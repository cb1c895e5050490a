import DiagramStudio.Text.Case
import Mathlib

/-!
Small letters. A letter is equal up to case to itself and to its capital and to nothing else, and taking the
small letter of a character never turns a letter or digit into something else or the other way round.
-/

namespace DiagramStudio.Text

/-- A small letter is what two characters are lowered to: the letter itself and its capital. -/
theorem toLower_eq_iff {letter : Char} (small : letter.isLower) (c : Char) :
    c.toLower = letter ↔ c = letter ∨ c = letter.toUpper := by
  constructor
  · intro lowered
    by_cases lower : c.isLower
    · left
      rw [← lowered, Char.toLower_eq_of_not_isUpper (Char.not_isUpper_of_isLower lower)]
    · right
      rw [← lowered, Char.toUpper_toLower_eq_toUpper, Char.toUpper_eq_of_not_isLower lower]
  · have kept : letter.toLower = letter := Char.toLower_eq_of_not_isUpper (Char.not_isUpper_of_isLower small)
    rintro (rfl | rfl)
    · exact kept
    · rw [Char.toLower_toUpper_eq_toLower, kept]

/-- A text is a small letter up to case exactly if it is this letter or its capital. -/
theorem sameFolded_letter_iff {letter : Char} (small : letter.isLower) (s : List Char) :
    sameFolded s [letter] = true ↔ s = [letter] ∨ s = [letter.toUpper] := by
  have kept : letter.toLower = letter := (toLower_eq_iff small letter).mpr (.inl rfl)
  match s with
  | [] => simp [sameFolded, lower]
  | [c] => simp [sameFolded, lower, kept, toLower_eq_iff small]
  | _ :: _ :: _ => simp [sameFolded, lower]

theorem isDigit_toLower (c : Char) : c.toLower.isDigit = c.isDigit := by
  by_cases upper : c.isUpper
  · have letter : c.toLower.isLower := by
      rw [Char.isLower_toLower_eq_isAlpha, Char.isAlpha, upper, Bool.true_or]
    have digit : ∀ d : Char, d.isUpper ∨ d.isLower → d.isDigit = false := by
      intro d large
      simp only [Char.isUpper, Char.isLower, Char.isDigit, ge_iff_le, Bool.and_eq_true, decide_eq_true_eq,
        Bool.and_eq_false_iff, decide_eq_false_iff_not, UInt32.le_iff_toNat_le] at large ⊢
      have capital : ('A' : Char).val.toNat = 65 := rfl
      have small : ('a' : Char).val.toNat = 97 := rfl
      have nine : ('9' : Char).val.toNat = 57 := rfl
      omega
    rw [digit _ (.inr letter), digit c (.inl upper)]
  · rw [Char.toLower_eq_of_not_isUpper upper]

theorem isAlphanum_toLower (c : Char) : c.toLower.isAlphanum = c.isAlphanum := by
  rw [Char.isAlphanum, Char.isAlphanum, Char.isAlpha_toLower_eq_isAlpha, isDigit_toLower]

end DiagramStudio.Text
