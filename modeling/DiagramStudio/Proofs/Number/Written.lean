import DiagramStudio.Number.Single

/-!
The characters of numbers that are written: digits, a point, a minus sign, and the letters of the words for
infinity and for no number.
-/

namespace DiagramStudio.Number

/-- A character that numbers are written with. -/
def isNumeral (c : Char) : Bool := c.isAlphanum || c == '.' || c == '-'

theorem isNumeral_of_mem_toDigits {c : Char} {n : Nat} (member : c ∈ Nat.toDigits 10 n) : isNumeral c = true := by
  have digit : c.isDigit = true := Nat.isDigit_of_mem_toDigits (by decide) (by decide) member
  simp [isNumeral, Char.isAlphanum, digit]

theorem Decimal.isNumeral_of_mem_positional {d : Decimal} {c : Char} (member : c ∈ d.positional) :
    isNumeral c = true := by
  have zeros {count : Nat} (member : c ∈ List.replicate count '0') : isNumeral c = true := by
    rw [List.eq_of_mem_replicate member]
    rfl
  have padded {count : Nat} (member : c ∈ List.replicate count '0' ++ Nat.toDigits 10 d.digits) : isNumeral c = true := by
    rcases List.mem_append.mp member with member | member
    · exact zeros member
    · exact isNumeral_of_mem_toDigits member
  unfold positional at member
  simp only at member
  split at member
  · rcases List.mem_append.mp member with member | member
    · exact isNumeral_of_mem_toDigits member
    · exact zeros member
  · rcases List.mem_append.mp member with member | member
    · exact padded (List.mem_of_mem_take member)
    · rcases List.mem_cons.mp member with rfl | member
      · rfl
      · exact padded (List.mem_of_mem_drop member)

theorem Single.isNumeral_of_mem_text {x : Float32} {c : Char} (member : c ∈ Single.text x) : isNumeral c = true := by
  have word {w : String} (plain : w.toList.all isNumeral = true) (member : c ∈ w.toList) : isNumeral c = true :=
    List.all_eq_true.mp plain c member
  unfold text at member
  split at member
  · exact word (by decide) member
  · split at member
    · exact word (by decide) member
    · exact word (by decide) member
  · next negative m e _ =>
    have body (member : c ∈ if m = 0 then ['0'] else (Shortest.decimal .single m e).positional) : isNumeral c = true := by
      split at member
      · rw [List.mem_singleton.mp member]
        rfl
      · exact Decimal.isNumeral_of_mem_positional member
    simp only at member
    split at member
    · rcases List.mem_cons.mp member with rfl | member
      · rfl
      · exact body member
    · exact body member

end DiagramStudio.Number
