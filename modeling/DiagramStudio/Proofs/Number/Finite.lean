import DiagramStudio.Proofs.Number.Order
import Mathlib

/-!
Finite values. A value is finite as long as the exponent that it is packed with is one that there is (`isFinite_pack`);
what lies below the limit keeps such an exponent when it is rounded (`fits_roundWithAccuracy`). So sums with a small
number, differences of positive values and halves of finite values are finite, and a sum is finite only if what it is
made of is.
-/

namespace DiagramStudio.Number.Single

open Float.Model (Format UnpackedFloat totalExponent)
open Float.Model.UnpackedFloat

/-- The least number that is rounded to infinity: half a unit in the last place beyond the greatest finite value. -/
def limit : Nat := 2 ^ 128 - 2 ^ 103

/-! ## Packing -/

/-- Packing does not make the value infinite. -/
def fits : UnpackedFloat → Bool
  | .zero _ => true
  | .finite _ _ e _ => e ≤ 104
  | _ => false

theorem isFinite_unpack (b : BitVec 32) :
    (unpack .binary32 b).isFinite = true ↔ @unpackExponent .binary32 b ≠ BitVec.allOnes 8 := by
  have full : (-1#8 : BitVec 8) = BitVec.allOnes 8 := by decide
  unfold unpack
  simp only [full]
  split
  · next infinite =>
    split <;> simp [isFinite, infinite]
  · next finite =>
    split
    · split <;> simpa [isFinite] using finite
    · simpa [isFinite] using finite

theorem isFinite_pack (u : UnpackedFloat) : (Float32.Model.pack u).unpack.isFinite = fits u := by
  have full : (-1#8 : BitVec 8) = BitVec.allOnes 8 := by decide
  rw [Bool.eq_iff_iff]
  show (unpack .binary32 (pack .binary32 u)).isFinite = true ↔ _
  rw [isFinite_unpack]
  cases u with
  | notANumber => simp [pack, packedNaN, fits]
  | infinity s => simp [pack, packedInfinity, fits]
  | zero s => simp [pack, packedZero, fits]
  | finite s m e positive =>
    have biased : (e + (Format.binary32.exponentBias : Int) + (23 : Nat)).toNat = (e + 150).toNat := by
      have bias : Format.binary32.exponentBias = 127 := rfl
      omega
    simp only [pack, biased, fits, decide_eq_true_eq]
    split
    · next above =>
      have above : 2 ^ 8 ≤ (e + 150).toNat + 1 := above
      simp only [packedInfinity, unpackExponent_packComponents, full]
      have : ¬e ≤ 104 := by omega
      simp [this]
    · next below =>
      have below : ¬2 ^ 8 ≤ (e + 150).toNat + 1 := below
      have low : e ≤ 104 := by omega
      split
      · simp only [unpackExponent_packComponents, low, ← BitVec.toNat_inj, ne_eq, BitVec.toNat_ofNat,
          BitVec.toNat_allOnes, iff_true]
        omega
      · simp [low]

/-! ## What is unpacked -/

/-- What a finite value unpacks to. -/
inductive IsUnpacked : UnpackedFloat → Prop
  | zero (s : Sign) : IsUnpacked (.zero s)
  | finite (s : Sign) {m : Nat} {e : Int} (positive : 0 < m) (short : m < 2 ^ 24) (low : -149 ≤ e) (high : e ≤ 104) :
      IsUnpacked (.finite s m e positive)

theorem isUnpacked_of_isFinite {b : BitVec 32} (finite : (unpack .binary32 b).isFinite = true) :
    IsUnpacked (unpack .binary32 b) := by
  have bias : Format.binary32.exponentBias = 127 := rfl
  have notFull := (isFinite_unpack b).mp finite
  revert finite
  unfold unpack
  simp only [show (-1#8 : BitVec 8) = BitVec.allOnes 8 by decide, notFull, if_false]
  intro _
  have below := (@unpackExponent .binary32 b).isLt
  have notFull : (@unpackExponent .binary32 b).toNat ≠ 2 ^ 8 - 1 := by
    intro full
    exact notFull (BitVec.eq_of_toNat_eq (by rw [full, BitVec.toNat_allOnes]))
  split
  · next least =>
    split
    · exact .zero _
    · refine .finite _ _ ?_ ?_ ?_
      · exact Nat.lt_trans (BitVec.isLt _) (by decide)
      · simp [least, bias]
      · simp [least, bias]
  · next notLeast =>
    have notLeast : (@unpackExponent .binary32 b).toNat ≠ 0 := by
      intro least
      exact notLeast (BitVec.eq_of_toNat_eq (by rw [least]; rfl))
    have field : 2 ^ Format.binary32.exponentBits = 256 := rfl
    rw [field] at below
    refine .finite _ _ ?_ ?_ ?_
    · exact BitVec.isLt _
    · rw [bias]; omega
    · rw [bias]; omega

/-- How many of the smallest positive values the value is, regardless of its sign. -/
def units : UnpackedFloat → Nat
  | .finite _ m e _ => m * 2 ^ (e + 149).toNat
  | _ => 0

/-- There is room for half a unit in the last place above every finite value. -/
theorem IsUnpacked.units_add_lt {u : UnpackedFloat} (unpacked : IsUnpacked u) {n : Nat} (small : n < 2 ^ 252) :
    units u + n < limit * 2 ^ 149 := by
  cases unpacked with
  | zero s => exact Nat.lt_of_lt_of_le (by simpa [units] using small) (by decide)
  | finite s positive short low high =>
    rename_i m e
    have power : 2 ^ (e + 149).toNat ≤ 2 ^ 253 := Nat.pow_le_pow_right (by decide) (by omega)
    have product : m * 2 ^ (e + 149).toNat ≤ (2 ^ 24 - 1) * 2 ^ 253 := Nat.mul_le_mul (by omega) power
    simp only [units, limit]
    omega

/-! ## Rounding -/

theorem two_pow_le {k a b : Nat} (le : k ≤ a + b) : 2 ^ k ≤ 2 ^ a * 2 ^ b :=
  Nat.pow_add 2 a b ▸ Nat.pow_le_pow_right (by decide) le

theorem lt_of_two_pow_lt {k a b : Nat} (lt : 2 ^ k < 2 ^ a * 2 ^ b) : k < a + b :=
  Nat.lt_of_not_le fun le => Nat.not_lt.mpr (Nat.pow_add 2 a b ▸ Nat.pow_le_pow_right (by decide) le) lt

theorem roundedMantissa_le (em : ExtendedMantissa) :
    em.roundedMantissa ≤ em.mantissa + em.roundBit.toNat := by
  obtain ⟨m, round, sticky⟩ := em
  cases round <;> cases sticky <;>
    simp [ExtendedMantissa.roundedMantissa, ExtendedMantissa.accuracy, Accuracy.roundToNearestEven]
  omega

/-- Shifting keeps the mantissa with its round bit at or below what it was, in proportion. -/
theorem shiftRight_le (em : ExtendedMantissa) (n : Nat) :
    (2 * (em >>> n).mantissa + (em >>> n).roundBit.toNat) * 2 ^ n ≤ 2 * em.mantissa + em.roundBit.toNat := by
  show (2 * (n.repeat ExtendedMantissa.shiftRightOne em).mantissa +
    (n.repeat ExtendedMantissa.shiftRightOne em).roundBit.toNat) * 2 ^ n ≤ _
  induction n with
  | zero => simp [Nat.repeat]
  | succ n ih =>
    rw [Nat.repeat]
    generalize n.repeat ExtendedMantissa.shiftRightOne em = shifted at ih
    have halved : 2 * shifted.shiftRightOne.mantissa + shifted.shiftRightOne.roundBit.toNat = shifted.mantissa := by
      have parity : shifted.mantissa % 2 = 0 ∨ shifted.mantissa % 2 = 1 := by omega
      rcases parity with even | odd
      · simp [ExtendedMantissa.shiftRightOne, even]; omega
      · simp [ExtendedMantissa.shiftRightOne, odd]; omega
    rw [halved, Nat.pow_succ]
    calc shifted.mantissa * (2 ^ n * 2)
        = (2 * shifted.mantissa) * 2 ^ n := by rw [Nat.mul_comm (2 ^ n), ← Nat.mul_assoc, Nat.mul_comm _ 2]
      _ ≤ (2 * shifted.mantissa + shifted.roundBit.toNat) * 2 ^ n := Nat.mul_le_mul_right _ (Nat.le_add_right _ _)
      _ ≤ _ := ih

/-- Rounding a shifted mantissa adds at most half a unit. -/
theorem roundedMantissa_shiftRight_le (em : ExtendedMantissa) (n : Nat) :
    2 * (em >>> n).roundedMantissa * 2 ^ n ≤ 2 * em.mantissa + em.roundBit.toNat + 2 ^ n := by
  have rounded := roundedMantissa_le (em >>> n)
  have shifted := shiftRight_le em n
  have bit : (em >>> n).roundBit.toNat ≤ 1 := Bool.toNat_le _
  calc 2 * (em >>> n).roundedMantissa * 2 ^ n
      ≤ (2 * (em >>> n).mantissa + (em >>> n).roundBit.toNat + 1) * 2 ^ n := Nat.mul_le_mul_right _ (by omega)
    _ = (2 * (em >>> n).mantissa + (em >>> n).roundBit.toNat) * 2 ^ n + 2 ^ n := by rw [Nat.add_mul, Nat.one_mul]
    _ ≤ _ := Nat.add_le_add_right shifted _

/-- The exponent that is aimed at is one that there is, if the value is not too large. -/
theorem targetExponent_le {m : Nat} {e : Int} (low : -149 ≤ e) (none_ : m = 0 → e ≤ 104)
    (small : m * 2 ^ (e + 149).toNat < 2 ^ 25 * 2 ^ 252) :
    Format.binary32.targetExponent (totalExponent m e) ≤ 104 := by
  have least : Format.binary32.minExponent = -149 := rfl
  have bits : Format.binary32.mantissaBits = 24 := rfl
  have size : (m.log2 : Int) + 1 + e ≤ 128 := by
    by_cases zero : m = 0
    · have := none_ zero
      rw [zero, Nat.log2_zero]
      omega
    · have power : 2 ^ (m.log2 + (e + 149).toNat) < 2 ^ 25 * 2 ^ 252 := by
        rw [Nat.pow_add]
        exact Nat.lt_of_le_of_lt (Nat.mul_le_mul_right _ (Nat.log2_self_le zero)) small
      have := lt_of_two_pow_lt power
      omega
  simp only [Format.targetExponent, totalExponent, least, bits]
  omega

/-- What lies below the limit is not rounded to infinity. -/
theorem fits_roundWithAccuracy (s : Sign) {m : Nat} {e : Int} {accuracy : Accuracy} (low : -149 ≤ e) (high : e ≤ 104)
    (small : (2 * m + (ExtendedMantissa.ofMantissaAndAccuracy m accuracy).roundBit.toNat) * 2 ^ (e + 149).toNat <
      2 * (limit * 2 ^ 149)) :
    fits (roundWithAccuracy .binary32 s m e accuracy) = true := by
  have least : ∀ total, -149 ≤ Format.binary32.targetExponent total := fun total => Int.le_max_right _ _
  have mantissa : (ExtendedMantissa.ofMantissaAndAccuracy m accuracy).mantissa = m := by
    rcases accuracy with _ | _ | _ | _ <;> rfl
  have bound : m * 2 ^ (e + 149).toNat < 2 ^ 25 * 2 ^ 252 := by
    have half := Nat.mul_le_mul_right (2 ^ (e + 149).toNat)
      (Nat.le_add_right (2 * m) (ExtendedMantissa.ofMantissaAndAccuracy m accuracy).roundBit.toNat)
    rw [Nat.mul_assoc] at half
    simp only [limit] at small
    omega
  have target := targetExponent_le low (fun _ => high) bound
  have least := least (totalExponent m e)
  have result {m : Nat} {e : Int} (high : e ≤ 104) :
      fits (if zero : m = 0 then .zero s else .finite s m e (Nat.pos_of_ne_zero zero)) = true := by
    split
    · rfl
    · simpa [fits] using high
  refine result ?_
  generalize Format.binary32.targetExponent (totalExponent m e) = t at target least
  -- The first shift; the rounded mantissa counts for at most half a unit more.
  have rounded := roundedMantissa_shiftRight_le (.ofMantissaAndAccuracy m accuracy) (t - e).toNat
  rw [mantissa] at rounded
  generalize (ExtendedMantissa.ofMantissaAndAccuracy m accuracy >>> (t - e).toNat).roundedMantissa = r at rounded
  have first : -149 ≤ e + (t - e).toNat ∧ e + (t - e).toNat ≤ 104 := by omega
  have again : r * 2 ^ (e + (t - e).toNat + 149).toNat < 2 ^ 25 * 2 ^ 252 := by
    have exponent : (e + (t - e).toNat + 149).toNat = (t - e).toNat + (e + 149).toNat := by omega
    have scaled := Nat.mul_le_mul_right (2 ^ (e + 149).toNat) rounded
    have unit : 2 ^ (t - e).toNat * 2 ^ (e + 149).toNat ≤ 2 ^ 253 := by
      rw [← Nat.pow_add]
      exact Nat.pow_le_pow_right (by decide) (by omega)
    rw [Nat.add_mul, Nat.mul_assoc, ← Nat.pow_add, ← exponent, Nat.mul_assoc] at scaled
    rw [← Nat.pow_add, ← exponent] at unit
    simp only [limit] at small
    omega
  -- The second shift, for a mantissa that was rounded up to one more bit.
  have target := targetExponent_le first.1 (fun _ => first.2) again
  omega

theorem fits_round (s : Sign) {m : Nat} {e : Int} (positive : 0 < m) (low : -149 ≤ e)
    (small : m * 2 ^ (e + 149).toNat < limit * 2 ^ 149) : fits (UnpackedFloat.round .binary32 s m e) = true := by
  have least : -149 ≤ Format.binary32.targetExponent (totalExponent m e) := Int.le_max_right _ _
  have target : Format.binary32.targetExponent (totalExponent m e) ≤ 104 :=
    targetExponent_le low (fun zero => absurd zero (by omega)) (Nat.lt_trans small (by decide))
  simp only [UnpackedFloat.round, decreaseExponent]
  generalize Format.binary32.targetExponent (totalExponent m e) = t at least target
  refine fits_roundWithAccuracy s (by omega) (by omega) ?_
  have exponent : (e + 149).toNat = (e - t).toNat + (e - (e - t).toNat + 149).toNat := by omega
  rw [exponent, Nat.pow_add, ← Nat.mul_assoc] at small
  have exact_ : (ExtendedMantissa.ofMantissaAndAccuracy (m <<< (e - t).toNat) .exact).roundBit.toNat = 0 := rfl
  rw [exact_, Nat.add_zero, Nat.mul_assoc, Nat.shiftLeft_eq]
  omega

theorem fits_normalize {m : Int} {e : Int} (zeroSign : Sign) (low : -149 ≤ e)
    (small : m.natAbs * 2 ^ (e + 149).toNat < limit * 2 ^ 149) :
    fits (UnpackedFloat.normalize .binary32 m e zeroSign) = true := by
  unfold UnpackedFloat.normalize
  rcases order : compare m 0 with _ | _ | _
  · have negative : m < 0 := Int.compare_eq_lt.mp order
    have size : (-m).toNat = m.natAbs := by omega
    refine fits_round _ (by omega) low ?_
    rwa [size]
  · rfl
  · have positive : 0 < m := Int.compare_eq_gt.mp order
    have size : m.toNat = m.natAbs := by omega
    refine fits_round _ (by omega) low ?_
    rwa [size]

/-! ## Sums, differences and halves -/

theorem IsUnpacked.fits {u : UnpackedFloat} (unpacked : IsUnpacked u) : fits u = true := by
  cases unpacked with
  | zero s => rfl
  | finite s positive short low high => simpa [Single.fits] using high

theorem shiftLeft_units {m : Nat} {e d : Int} (low : -149 ≤ d) (le : d ≤ e) :
    (m <<< (e - d).toNat) * 2 ^ (d + 149).toNat = m * 2 ^ (e + 149).toNat := by
  have exponent : (e + 149).toNat = (e - d).toNat + (d + 149).toNat := by omega
  rw [exponent, Nat.pow_add, ← Nat.mul_assoc, Nat.shiftLeft_eq]

theorem fits_add {a b : UnpackedFloat} (unpacked : IsUnpacked a) (unpacked' : IsUnpacked b)
    (small : units a + units b < limit * 2 ^ 149) : fits (add .binary32 a b) = true := by
  cases unpacked with
  | zero s =>
    cases unpacked' with
    | zero s' => simp only [add]; split <;> rfl
    | finite s' positive short low high => exact (IsUnpacked.finite s' positive short low high).fits
  | @finite s m e positive short low high =>
    cases unpacked' with
    | zero s' => exact (IsUnpacked.finite s positive short low high).fits
    | @finite s' m' e' positive' short' low' high' =>
      simp only [add, decreaseExponent]
      refine fits_normalize _ (by omega) ?_
      have size := Int.natAbs_add_le (s.apply (m <<< (e - min e e').toNat : Nat))
        (s'.apply (m' <<< (e' - min e e').toNat : Nat))
      have unsigned (s : Sign) (n : Nat) : (s.apply n).natAbs = n := by cases s <;> simp [Sign.apply]
      rw [unsigned, unsigned] at size
      refine Nat.lt_of_le_of_lt (Nat.mul_le_mul_right _ size) ?_
      rw [Nat.add_mul, shiftLeft_units (by omega) (by omega), shiftLeft_units (by omega) (by omega)]
      exact small

/-- The unpacked value is greater than zero. -/
def isPositive : UnpackedFloat → Bool
  | .finite .positive .. | .infinity .positive => true
  | _ => false

theorem fits_sub {a b : UnpackedFloat} (unpacked : IsUnpacked a) (unpacked' : IsUnpacked b)
    (positive : isPositive a = true) (positive' : isPositive b = true) : fits (sub .binary32 a b) = true := by
  have below := unpacked.units_add_lt (n := 0) (by decide)
  have below' := unpacked'.units_add_lt (n := 0) (by decide)
  cases unpacked with
  | zero s => cases positive
  | @finite s m e some_ short low high =>
    cases unpacked' with
    | zero s' => cases positive'
    | @finite s' m' e' some_' short' low' high' =>
      cases s with
      | negative => cases positive
      | positive =>
        cases s' with
        | negative => cases positive'
        | positive =>
          simp only [sub, decreaseExponent, Sign.apply]
          refine fits_normalize _ (by omega) ?_
          have left := shiftLeft_units (m := m) (e := e) (d := min e e') (by omega) (by omega)
          have right := shiftLeft_units (m := m') (e := e') (d := min e e') (by omega) (by omega)
          simp only [units, ← left, ← right, Nat.add_zero] at below below'
          generalize m <<< (e - min e e').toNat = n at below
          generalize m' <<< (e' - min e e').toNat = n' at below'
          have size : ((n : Int) - n').natAbs ≤ max n n' := by omega
          refine Nat.lt_of_le_of_lt (Nat.mul_le_mul_right _ size) ?_
          rcases Nat.le_total n n' with le | le
          · rwa [Nat.max_eq_right le]
          · rwa [Nat.max_eq_left le]

theorem fits_half {a : UnpackedFloat} (unpacked : IsUnpacked a) :
    fits (div .binary32 a (.finite .positive 8388608 (-22) (by decide))) = true := by
  cases unpacked with
  | zero s => rfl
  | @finite s m e positive short low high =>
    have least (total : Int) : -149 ≤ Format.binary32.targetExponent total := Int.le_max_right _ _
    have size : m.log2 < 24 := (Nat.log2_lt (by omega)).mpr short
    have target : Format.binary32.targetExponent (totalExponent m e - totalExponent 8388608 (-22)) ≤ 102 := by
      have minimum : Format.binary32.minExponent = -149 := rfl
      have bits : Format.binary32.mantissaBits = 24 := rfl
      have divisor : totalExponent 8388608 (-22) = 2 := by decide +kernel
      rw [divisor]
      simp only [Format.targetExponent, totalExponent, minimum, bits]
      omega
    have least := least (totalExponent m e - totalExponent 8388608 (-22))
    simp only [div, divCore]
    generalize Format.binary32.targetExponent (totalExponent m e - totalExponent 8388608 (-22)) = t at least target
    have range : -149 ≤ min (e - -22) t ∧ min (e - -22) t ≤ 102 := by omega
    have exponent : (e - -22 - min (e - -22) t).toNat + (min (e - -22) t + 149).toNat = (e + 171).toNat := by omega
    generalize min (e - -22) t = d at range exponent
    refine fits_roundWithAccuracy _ range.1 (by omega) ?_
    generalize (ExtendedMantissa.ofMantissaAndAccuracy _ _).roundBit = bit
    have bit : bit.toNat ≤ 1 := Bool.toNat_le _
    have quotient : m <<< (e - -22 - d).toNat / 8388608 * 2 ^ (d + 149).toNat ≤ 2 ^ 25 * 2 ^ 251 := by
      have divided := Nat.mul_le_mul_right (2 ^ (d + 149).toNat)
        (Nat.div_mul_le_self (m <<< (e - -22 - d).toNat) 8388608)
      have product : m <<< (e - -22 - d).toNat * 2 ^ (d + 149).toNat ≤ 2 ^ 24 * (2 ^ 24 * 2 ^ 251) := by
        rw [Nat.shiftLeft_eq, Nat.mul_assoc, ← Nat.pow_add, exponent]
        exact Nat.mul_le_mul (Nat.le_of_lt short) (two_pow_le (by omega))
      rw [Nat.mul_right_comm] at divided
      omega
    have unit : 2 ^ (d + 149).toNat ≤ 2 ^ 251 := Nat.pow_le_pow_right (by decide) (by omega)
    refine Nat.lt_of_le_of_lt (Nat.mul_le_mul_right _ (Nat.add_le_add_left bit _)) ?_
    rw [Nat.add_mul, Nat.mul_assoc, Nat.one_mul]
    simp only [limit]
    omega

/-! ## Single-precision values -/

theorem fits_unpack (b : BitVec 32) : fits (unpack .binary32 b) = (unpack .binary32 b).isFinite := by
  cases finite : (unpack .binary32 b).isFinite with
  | true => exact (isUnpacked_of_isFinite finite).fits
  | false =>
    generalize unpack .binary32 b = u at finite
    cases u with
    | infinity s => rfl
    | notANumber => rfl
    | zero s => cases finite
    | finite s m e positive => cases finite

/-- A pattern is one of a finite value unless its exponent field is full. -/
theorem isFinite_ofPattern {bits : Nat} (small : bits < 2 ^ 32) :
    (ofPattern bits).isFinite = true ↔ bits / 2 ^ 23 % 2 ^ 8 ≠ 255 := by
  have packed : (ofPattern bits).isFinite = fits (unpack .binary32 (UInt32.ofNat bits).toBitVec) := isFinite_pack _
  have field : (@unpackExponent .binary32 (UInt32.ofNat bits).toBitVec).toNat = bits / 2 ^ 23 % 2 ^ 8 := by
    simp [unpackExponent, Nat.shiftRight_eq_div_pow]
    omega
  rw [packed, fits_unpack, isFinite_unpack, Ne, ← BitVec.toNat_inj, field]
  rfl

theorem isFinite_of_fits_add {a b : UnpackedFloat} (fits_ : fits (add .binary32 a b) = true) : a.isFinite = true := by
  cases a with
  | notANumber => cases fits_
  | infinity s =>
    cases b with
    | infinity s' =>
      simp only [add] at fits_
      split at fits_ <;> cases fits_
    | _ => cases fits_
  | zero s => rfl
  | finite s m e positive => rfl

theorem compare_zero_iff {u : UnpackedFloat} :
    (UnpackedFloat.zero .positive).compare u = some .lt ↔ isPositive u = true := by
  rcases u with (_ | _) | _ | _ | ⟨_ | _, _, _, _⟩ <;> first | exact ⟨fun _ => rfl, fun _ => rfl⟩ | exact ⟨nofun, nofun⟩

theorem isPositive_of_compare {u v : UnpackedFloat} (positive : isPositive u = true)
    (le : u.compare v = some .lt ∨ u.compare v = some .eq) : isPositive v = true := by
  rcases u with (_ | _) | _ | _ | ⟨_ | _, _, _, _⟩ <;> cases positive
  all_goals
    rcases v with (_ | _) | _ | _ | ⟨_ | _, _, _, _⟩ <;>
      first | rfl | exact le.elim nofun nofun

theorem eq_infinity_of_isPositive {u : UnpackedFloat} (positive : isPositive u = true)
    (infinite : u.isFinite = false) : u = .infinity .positive := by
  rcases u with (_ | _) | _ | _ | ⟨_ | _, _, _, _⟩
  case infinity.positive => rfl
  case finite.positive => exact absurd (show true = false from infinite) (by decide)
  all_goals cases positive

section

variable {x y : Float32}

theorem pos_iff : 0 < x ↔ isPositive x.toModel.unpack = true := by
  have zero : (0 : Float32).toModel.unpack = .zero .positive := rfl
  rw [lt_iff, zero, compare_zero_iff]

theorem pos_of_le (positive : 0 < x) (le : x ≤ y) : 0 < y :=
  pos_iff.mpr (isPositive_of_compare (pos_iff.mp positive) (le_iff.mp le))

theorem isFinite_add (finite : x.isFinite = true) (finite' : y.isFinite = true)
    (small : units y.toModel.unpack < 2 ^ 252) : (x + y).isFinite = true := by
  have unpacked : IsUnpacked x.toModel.unpack := isUnpacked_of_isFinite finite
  show (Float32.Model.pack (add .binary32 x.toModel.unpack y.toModel.unpack)).unpack.isFinite = true
  rw [isFinite_pack]
  exact fits_add unpacked (isUnpacked_of_isFinite finite') (unpacked.units_add_lt small)

/-- A sum is finite only if what it is made of is. -/
theorem isFinite_of_add (finite : (x + y).isFinite = true) : x.isFinite = true := by
  have packed : (Float32.Model.pack (add .binary32 x.toModel.unpack y.toModel.unpack)).unpack.isFinite = true := finite
  rw [isFinite_pack] at packed
  exact isFinite_of_fits_add packed

theorem isFinite_sub (finite : x.isFinite = true) (finite' : y.isFinite = true) (positive : 0 < x)
    (positive' : 0 < y) : (x - y).isFinite = true := by
  show (Float32.Model.pack (sub .binary32 x.toModel.unpack y.toModel.unpack)).unpack.isFinite = true
  rw [isFinite_pack]
  exact fits_sub (isUnpacked_of_isFinite finite) (isUnpacked_of_isFinite finite') (pos_iff.mp positive)
    (pos_iff.mp positive')

theorem isFinite_half (finite : x.isFinite = true) : (x / 2).isFinite = true := by
  have two : (2 : Float32).toModel.unpack = .finite .positive 8388608 (-22) (by decide) := by rfl
  show (Float32.Model.pack (div .binary32 x.toModel.unpack (2 : Float32).toModel.unpack)).unpack.isFinite = true
  rw [isFinite_pack, two]
  exact fits_half (isUnpacked_of_isFinite finite)

/-- A positive value that is not finite is infinity. -/
theorem unpack_of_infinite (positive : 0 < x) (infinite : x.isFinite = false) :
    x.toModel.unpack = .infinity .positive :=
  eq_infinity_of_isPositive (pos_iff.mp positive) infinite

end

end DiagramStudio.Number.Single
