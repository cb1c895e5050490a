import DiagramStudio.Number.Single

/-!
The order of single-precision values. What is not a number compares with nothing, not even with itself; of two
numbers one is less or the other is at most it (`lt_or_le`), so that a comparison that does not hold
says something of numbers only.
-/

namespace DiagramStudio.Number.Single

open Float.Model (UnpackedFloat)
open Float.Model.UnpackedFloat (Sign)

/-! ## Comparing unpacked values -/

theorem compare_eq_none_iff {a b : UnpackedFloat} :
    a.compare b = none ↔ a = .notANumber ∨ b = .notANumber := by
  constructor
  · intro none_
    rcases a with (_ | _) | _ | _ | ⟨_ | _, _, _, _⟩ <;> rcases b with (_ | _) | _ | _ | ⟨_ | _, _, _, _⟩ <;>
      first
        | exact .inl rfl
        | exact .inr rfl
        | cases none_
  · rintro (rfl | rfl)
    · rfl
    · rcases a with (_ | _) | _ | _ | ⟨_ | _, _, _, _⟩ <;> rfl

theorem compare_magnitude_swap (m n : Nat) (d e : Int) :
    ((compare d e).then (compare m n)).swap = (compare e d).then (compare n m) := by
  rw [Ordering.swap_then, Int.compare_swap, Nat.compare_swap]

theorem compare_swap (a b : UnpackedFloat) : (a.compare b).map Ordering.swap = b.compare a := by
  rcases a with (_ | _) | _ | _ | ⟨_ | _, m, d, _⟩ <;> rcases b with (_ | _) | _ | _ | ⟨_ | _, n, e, _⟩ <;>
    first
      | rfl
      | exact congrArg some (compare_magnitude_swap m n d e)
      | exact congrArg (fun order => some order.swap) (compare_magnitude_swap m n d e)

theorem compare_self {a : UnpackedFloat} (number : a ≠ .notANumber) : a.compare a = some .eq := by
  have magnitude (m : Nat) (d : Int) : some ((compare d d).then (compare m m)) = some .eq := by simp
  rcases a with (_ | _) | _ | _ | ⟨_ | _, m, d, _⟩
  case notANumber => exact absurd rfl number
  case finite.negative => exact congrArg (Option.map Ordering.swap) (magnitude m d)
  case finite.positive => exact magnitude m d
  all_goals rfl

/-! ## Comparing single-precision values -/

theorem lt_iff {x y : Float32} : x < y ↔ x.toModel.unpack.compare y.toModel.unpack = some .lt := by
  change decide (x.toModel.unpack.lt y.toModel.unpack = true) = true ↔ _
  simp [UnpackedFloat.lt]

theorem le_iff {x y : Float32} :
    x ≤ y ↔ x.toModel.unpack.compare y.toModel.unpack = some .lt ∨ x.toModel.unpack.compare y.toModel.unpack = some .eq := by
  change decide (x.toModel.unpack.le y.toModel.unpack = true) = true ↔ _
  rcases order : x.toModel.unpack.compare y.toModel.unpack with _ | _ | _ | _ <;> simp [UnpackedFloat.le, order]

theorem isNaN_iff {x : Float32} : isNaN x = true ↔ x.toModel.unpack = .notANumber := by
  have same : (x == x) = (x.toModel.unpack.compare x.toModel.unpack == some .eq) := rfl
  rw [isNaN, same]
  constructor
  · intro differs
    refine Classical.byContradiction fun number => ?_
    simp [compare_self number] at differs
  · intro none_
    simp [compare_eq_none_iff.mpr (.inl none_)]

/-- What is compared with success is a number. -/
theorem isNaN_of_le {x y : Float32} (le : x ≤ y) : isNaN x = false ∧ isNaN y = false := by
  have comparable : x.toModel.unpack.compare y.toModel.unpack ≠ none := by
    rcases le_iff.mp le with less | same
    · simp [less]
    · simp [same]
  rw [Ne, compare_eq_none_iff, ← isNaN_iff, ← isNaN_iff] at comparable
  simpa using comparable

theorem le_of_lt {x y : Float32} (lt : x < y) : x ≤ y := le_iff.mpr (.inl (lt_iff.mp lt))

/-- Of what differs in size neither equals the other. -/
theorem beq_eq_false_of_lt {x y : Float32} (lt : x < y) : (y == x) = false := by
  have same : (y == x) = (y.toModel.unpack.compare x.toModel.unpack == some .eq) := rfl
  rw [same, ← compare_swap, lt_iff.mp lt]
  rfl

theorem le_refl {x : Float32} (number : isNaN x = false) : x ≤ x := by
  refine le_iff.mpr (.inr (compare_self fun none_ => ?_))
  rw [isNaN_iff.mpr none_] at number
  cases number

/-- Of two numbers one is less, or the other is at most it. -/
theorem lt_or_le {x y : Float32} (number : isNaN x = false) (number' : isNaN y = false) : x < y ∨ y ≤ x := by
  rw [lt_iff, le_iff, ← compare_swap x.toModel.unpack]
  rcases order : x.toModel.unpack.compare y.toModel.unpack with _ | _ | _ | _
  case none =>
    rw [compare_eq_none_iff, ← isNaN_iff, ← isNaN_iff] at order
    simp [number, number'] at order
  all_goals simp

/-! ## The greater and the lesser of two -/

/-- The greater of a value and a number is at least the number, and no more if the value is none. -/
theorem le_greater (x : Float32) {low : Float32} (number : isNaN low = false) : low ≤ greater x low := by
  unfold greater
  split
  · exact le_refl number
  · next value =>
    split
    · exact le_refl number
    · next above => exact (lt_or_le (Bool.eq_false_iff.mpr value) number).resolve_left above

/-- The lesser of two numbers keeps below one of them and above what both are above. -/
theorem lesser_between {x low high : Float32} (above : low ≤ x) (ordered : low ≤ high) :
    low ≤ lesser x high ∧ lesser x high ≤ high := by
  have value : isNaN x = false := (isNaN_of_le above).2
  have number : isNaN high = false := (isNaN_of_le ordered).2
  rw [lesser, if_neg (by simp [value])]
  split
  · exact ⟨ordered, le_refl number⟩
  · next below => exact ⟨above, (lt_or_le number value).resolve_left below⟩

end DiagramStudio.Number.Single
