import DiagramStudio.Proofs.Number.Order

/-!
Values of no size: zero of either sign, and what is not a number. The difference of equal values is one, products,
sums and roots of such values are such values again, and none of them is above zero. Nothing is said of how other
values are rounded.
-/

namespace DiagramStudio.Number.Single

open Float.Model (UnpackedFloat)
open Float.Model.UnpackedFloat (Sign)

/-- The unpacked value is a zero or not a number. -/
def vanishes : UnpackedFloat → Bool
  | .zero _ | .notANumber => true
  | _ => false

/-- The value is a zero or not a number. -/
def Vanishes (x : Float32) : Prop := vanishes x.toModel.unpack = true

theorem vanishes_iff {a : UnpackedFloat} : vanishes a = true ↔ a = .notANumber ∨ ∃ sign, a = .zero sign := by
  constructor
  · intro vain
    cases a with
    | notANumber => exact .inl rfl
    | zero sign => exact .inr ⟨sign, rfl⟩
    | infinity sign => cases vain
    | finite sign m d positive => cases vain
  · rintro (rfl | ⟨sign, rfl⟩) <;> rfl

theorem vanishes_pack {a : UnpackedFloat} (vain : vanishes a = true) :
    vanishes (Float32.Model.pack a).unpack = true := by
  obtain rfl | ⟨_ | _, rfl⟩ := vanishes_iff.mp vain <;> decide +kernel

theorem eq_of_compare_magnitude {m n : Nat} {d e : Int} (same : (compare d e).then (compare m n) = .eq) :
    d = e ∧ m = n := by
  rw [Ordering.then_eq_eq, Int.compare_eq_eq, Nat.compare_eq_eq] at same
  exact same

theorem vanishes_sub {a b : UnpackedFloat} (same : a.compare b = some .eq) :
    vanishes (UnpackedFloat.sub .binary32 a b) = true := by
  have magnitude (sign : Sign) (m : Nat) (d : Int) (positive : 0 < m) :
      vanishes (UnpackedFloat.sub .binary32 (.finite sign m d positive) (.finite sign m d positive)) = true := by
    show vanishes (UnpackedFloat.normalize .binary32 (_ - _) (min d d) .positive) = true
    rw [Int.sub_self]
    rfl
  rcases a with (_ | _) | _ | (_ | _) | ⟨_ | _, m, d, positive⟩ <;>
    rcases b with (_ | _) | _ | (_ | _) | ⟨_ | _, n, e, positive'⟩
  case finite.negative.finite.negative =>
    obtain ⟨rfl, rfl⟩ := eq_of_compare_magnitude (Ordering.swap_eq_eq.mp (Option.some.inj same))
    exact magnitude _ m d positive
  case finite.positive.finite.positive =>
    obtain ⟨rfl, rfl⟩ := eq_of_compare_magnitude (Option.some.inj same)
    exact magnitude _ m d positive
  all_goals first
    | rfl
    | cases same

theorem vanishes_mul {a b : UnpackedFloat} (vain : vanishes a = true) (vain' : vanishes b = true) :
    vanishes (UnpackedFloat.mul .binary32 a b) = true := by
  obtain rfl | ⟨sign, rfl⟩ := vanishes_iff.mp vain <;> obtain rfl | ⟨sign', rfl⟩ := vanishes_iff.mp vain' <;> rfl

theorem vanishes_add {a b : UnpackedFloat} (vain : vanishes a = true) (vain' : vanishes b = true) :
    vanishes (UnpackedFloat.add .binary32 a b) = true := by
  obtain rfl | ⟨sign, rfl⟩ := vanishes_iff.mp vain <;> obtain rfl | ⟨sign', rfl⟩ := vanishes_iff.mp vain'
  case inr.inr => cases sign <;> cases sign' <;> rfl
  all_goals rfl

theorem vanishes_sqrt {a : UnpackedFloat} (vain : vanishes a = true) : vanishes (UnpackedFloat.sqrt .binary32 a) = true := by
  obtain rfl | ⟨sign, rfl⟩ := vanishes_iff.mp vain <;> rfl

namespace Vanishes

variable {x y : Float32}

/-- What is left of a value without an equal one. -/
theorem sub (same : (x == y) = true) : Vanishes (x - y) := by
  have equal : (x == y) = (x.toModel.unpack.compare y.toModel.unpack == some .eq) := rfl
  rw [equal] at same
  exact vanishes_pack (vanishes_sub (eq_of_beq same))

theorem mul (vain : Vanishes x) (vain' : Vanishes y) : Vanishes (x * y) := vanishes_pack (vanishes_mul vain vain')

theorem add (vain : Vanishes x) (vain' : Vanishes y) : Vanishes (x + y) := vanishes_pack (vanishes_add vain vain')

theorem sqrt (vain : Vanishes x) : Vanishes x.sqrt := vanishes_pack (vanishes_sqrt vain)

theorem not_pos (vain : Vanishes x) : ¬ 0 < x := by
  have zero : (0 : Float32).toModel.unpack = .zero .positive := rfl
  rw [lt_iff, zero]
  obtain unpacked | ⟨sign, unpacked⟩ := vanishes_iff.mp vain <;> rw [unpacked] <;> nofun

end Vanishes

end DiagramStudio.Number.Single
