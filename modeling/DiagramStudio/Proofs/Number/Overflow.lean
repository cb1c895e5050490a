import DiagramStudio.Proofs.Number.Finite

/-!
Which literals are read as finite values. A number is rounded to infinity exactly from the limit on, half a unit in the
last place beyond the greatest finite value (`roundRatio_lt_iff`), however it is spelled and however large its exponent
is (`roundDecimal_lt_iff`).
-/

namespace DiagramStudio.Number

namespace BinaryFormat

theorem scaled_eq (num den : Nat) (e : Int) : scaled num den e = (num * 2 ^ (-e).toNat, den * 2 ^ e.toNat) := by
  unfold scaled
  split
  · next whole => rw [show (-e).toNat = 0 by omega, Nat.pow_zero, Nat.mul_one]
  · next fraction => rw [show e.toNat = 0 by omega, Nat.pow_zero, Nat.mul_one]

/-- The next larger unit: either the numerator is halved or the denominator is doubled. -/
theorem scaled_succ (num den : Nat) (e : Int) :
    let q := scaled num den e
    let q' := scaled num den (e + 1)
    q.1 = 2 * q'.1 ∧ q'.2 = q.2 ∨ q'.1 = q.1 ∧ q'.2 = 2 * q.2 := by
  simp only [scaled_eq]
  by_cases whole : 0 ≤ e
  · right
    rw [show (-(e + 1)).toNat = (-e).toNat by omega, show (e + 1).toNat = e.toNat + 1 by omega, Nat.pow_succ]
    exact ⟨rfl, by rw [Nat.mul_comm _ 2, ← Nat.mul_assoc, Nat.mul_comm _ 2, Nat.mul_assoc]⟩
  · left
    rw [show (-e).toNat = (-(e + 1)).toNat + 1 by omega, show (e + 1).toNat = e.toNat by omega, Nat.pow_succ]
    exact ⟨by rw [Nat.mul_comm _ 2, ← Nat.mul_assoc, Nat.mul_comm _ 2, Nat.mul_assoc], rfl⟩

/-- In the unit that is chosen for it, a quotient has no more digits than the format, and as many where the unit is not
    the least that there is. -/
theorem unitExponent_spec (f : BinaryFormat) {p : Nat} (precision : f.precision = p + 1) {num den : Nat}
    (positive : 0 < num) (positive' : 0 < den) :
    let q := scaled num den (f.unitExponent num den)
    q.1 < q.2 * 2 ^ (p + 1) ∧ (f.minExponent < f.unitExponent num den → q.2 * 2 ^ p ≤ q.1) := by
  have low := Nat.log2_self_le (Nat.ne_of_gt positive)
  have high := Nat.lt_log2_self (n := num)
  have low' := Nat.log2_self_le (Nat.ne_of_gt positive')
  have high' := Nat.lt_log2_self (n := den)
  obtain ⟨guess, guessed⟩ : ∃ guess, guess = max f.minExponent ((num.log2 : Int) - den.log2 - (p + 1 : Nat)) := ⟨_, rfl⟩
  have chosen : f.unitExponent num den =
      if (scaled num den guess).2 * 2 ^ (p + 1) ≤ (scaled num den guess).1 then guess + 1 else guess := by
    rw [guessed, unitExponent, precision]
  generalize num.log2 = a at low high guessed
  generalize den.log2 = b at low' high' guessed
  have above : (scaled num den guess).1 < (scaled num den guess).2 * 2 ^ (p + 2) := by
    rw [scaled_eq]
    calc num * 2 ^ (-guess).toNat
        < 2 ^ (a + 1) * 2 ^ (-guess).toNat := Nat.mul_lt_mul_of_pos_right high (Nat.two_pow_pos _)
      _ = 2 ^ (a + 1 + (-guess).toNat) := (Nat.pow_add ..).symm
      _ ≤ 2 ^ (b + guess.toNat + (p + 2)) := Nat.pow_le_pow_right (by decide) (by omega)
      _ = 2 ^ b * 2 ^ guess.toNat * 2 ^ (p + 2) := by rw [Nat.pow_add, Nat.pow_add]
      _ ≤ den * 2 ^ guess.toNat * 2 ^ (p + 2) := Nat.mul_le_mul_right _ (Nat.mul_le_mul_right _ low')
  have below (more : f.minExponent < guess) : (scaled num den guess).2 * 2 ^ p ≤ (scaled num den guess).1 := by
    rw [scaled_eq]
    calc den * 2 ^ guess.toNat * 2 ^ p
        ≤ 2 ^ (b + 1) * 2 ^ guess.toNat * 2 ^ p :=
          Nat.mul_le_mul_right _ (Nat.mul_le_mul_right _ (Nat.le_of_lt high'))
      _ = 2 ^ (b + 1 + guess.toNat + p) := by simp only [Nat.pow_add]
      _ ≤ 2 ^ (a + (-guess).toNat) := Nat.pow_le_pow_right (by decide) (by omega)
      _ = 2 ^ a * 2 ^ (-guess).toNat := Nat.pow_add ..
      _ ≤ num * 2 ^ (-guess).toNat := Nat.mul_le_mul_right _ low
  have next_ := scaled_succ num den guess
  rw [chosen]
  simp only
  split
  · next full =>
    rcases next_ with ⟨halved, same⟩ | ⟨same, doubled⟩
    · rw [halved, Nat.pow_succ, Nat.mul_comm _ 2, Nat.mul_left_comm] at full above
      rw [same]
      omega
    · rw [Nat.pow_succ, Nat.mul_comm _ 2, Nat.mul_left_comm] at full above
      rw [same, doubled, Nat.mul_assoc, Nat.mul_assoc]
      exact ⟨above, fun _ => full⟩
  · next free => exact ⟨Nat.lt_of_not_le free, below⟩

/-- Rounding to an integer stays below an even bound exactly where the quotient is nearer to an integer below it. -/
theorem roundHalfEven_lt_iff (num : Nat) {den : Nat} (positive : 0 < den) (half : Nat) :
    roundHalfEven num den < 2 * half ↔ 2 * num + den < 4 * (den * half) := by
  have division := Nat.div_add_mod num den
  have small := Nat.mod_lt num positive
  simp only [roundHalfEven]
  generalize num / den = q at *
  generalize num % den = r at *
  rcases Nat.lt_trichotomy (q + 1) (2 * half) with less | last | more
  · have product := Nat.mul_le_mul_left den (show q + 2 ≤ 2 * half by omega)
    rw [Nat.mul_add, Nat.mul_left_comm] at product
    split
    · omega
    · split <;> omega
  · have product : den * q + den = 2 * (den * half) := by
      rw [← Nat.mul_succ, Nat.succ_eq_add_one, last, Nat.mul_left_comm]
    split
    · omega
    · split <;> omega
  · have product := Nat.mul_le_mul_left den (show 2 * half ≤ q by omega)
    rw [Nat.mul_left_comm] at product
    split
    · omega
    · split <;> omega

theorem roundRatio_eq (f : BinaryFormat) {num : Nat} (some_ : num ≠ 0) (den : Nat) :
    let q := scaled num den (f.unitExponent num den)
    f.roundRatio num den = min f.infinityBits
      ((f.unitExponent num den - f.minExponent).toNat * 2 ^ f.fractionBits + roundHalfEven q.1 q.2) := by
  rw [roundRatio, if_neg some_]

/-- A quotient is rounded to a finite value of single precision exactly if it lies below the limit. -/
theorem roundRatio_lt_iff (num : Nat) {den : Nat} (positive' : 0 < den) :
    single.roundRatio num den < single.infinityBits ↔ num < Single.limit * den := by
  by_cases zero : num = 0
  · have : 0 < Single.limit * den := Nat.mul_pos (by decide) positive'
    rw [zero, roundRatio_zero]
    exact ⟨fun _ => this, fun _ => by decide⟩
  obtain ⟨short, full⟩ := unitExponent_spec single (p := 23) rfl (Nat.pos_of_ne_zero zero) positive'
  rw [roundRatio_eq single zero]
  rw [show single.infinityBits = 255 * 2 ^ 23 from rfl, show single.fractionBits = 23 from rfl,
    show single.minExponent = -149 from rfl]
  rw [show single.minExponent = -149 from rfl] at full
  generalize single.unitExponent num den = e at short full
  have positive : 0 < (scaled num den e).2 := by
    rw [scaled_eq]
    exact Nat.mul_pos positive' (Nat.two_pow_pos _)
  obtain ⟨high, low⟩ := roundHalfEven_near (scaled num den e).1 positive
  have tie := roundHalfEven_lt_iff (scaled num den e).1 positive (2 ^ 23)
  generalize roundHalfEven (scaled num den e).1 (scaled num den e).2 = r at high low tie
  rw [scaled_eq] at short full positive high low tie
  simp only at short full positive high low tie
  -- The unit of the greatest finite values is the one with the exponent 104.
  rcases Int.lt_trichotomy e 104 with less | rfl | more
  · have few : r ≤ 2 ^ 24 := by
      have doubled : 2 * r * (den * 2 ^ e.toNat) < (2 ^ 25 + 1) * (den * 2 ^ e.toNat) := by omega
      have := Nat.lt_of_mul_lt_mul_right doubled
      omega
    have small : num < Single.limit * den := by
      calc num
          ≤ num * 2 ^ (-e).toNat := Nat.le_mul_of_pos_right _ (Nat.two_pow_pos _)
        _ < den * 2 ^ e.toNat * 2 ^ 24 := short
        _ ≤ den * 2 ^ 103 * 2 ^ 24 :=
          Nat.mul_le_mul_right _ (Nat.mul_le_mul_left _ (Nat.pow_le_pow_right (by decide) (by omega)))
        _ ≤ Single.limit * den := by simp only [Single.limit]; omega
    refine iff_of_true ?_ small
    omega
  · rw [show (-104 : Int).toNat = 0 from rfl, show (104 : Int).toNat = 104 from rfl, Nat.pow_zero, Nat.mul_one] at tie
    simp only [Single.limit]
    omega
  · have many : 2 ^ 23 ≤ r := by
      have doubled : 2 ^ 24 * (den * 2 ^ e.toNat) ≤ (2 * r + 1) * (den * 2 ^ e.toNat) := by
        have := full (by omega)
        omega
      have := Nat.le_of_mul_le_mul_right doubled positive
      omega
    have large : Single.limit * den ≤ num := by
      have full := full (by omega)
      rw [show (-e).toNat = 0 by omega, Nat.pow_zero, Nat.mul_one] at full
      calc Single.limit * den
          ≤ den * 2 ^ 105 * 2 ^ 23 := by simp only [Single.limit]; omega
        _ ≤ den * 2 ^ e.toNat * 2 ^ 23 :=
          Nat.mul_le_mul_right _ (Nat.mul_le_mul_left _ (Nat.pow_le_pow_right (by decide) (by omega)))
        _ ≤ num := full
    refine iff_of_false ?_ (Nat.not_lt.mpr large)
    omega

/-- However far the decimal point of a number is from its digits, it is rounded to a finite value exactly if it lies
    below the limit. -/
theorem roundDecimal_lt_iff (mantissa : Nat) (exponent : Int) :
    single.roundDecimal mantissa exponent < single.infinityBits ↔
      mantissa * 10 ^ exponent.toNat < Single.limit * 10 ^ (-exponent).toNat := by
  have ten {a b : Nat} (le : a ≤ b) : 10 ^ a ≤ 10 ^ b := Nat.pow_le_pow_right (by decide) le
  have room : Single.limit ≤ 10 ^ 39 := by decide
  by_cases zero : mantissa = 0
  · have positive : 0 < Single.limit * 10 ^ (-exponent).toNat := Nat.mul_pos (by decide) (Nat.pow_pos (by decide))
    simp only [roundDecimal, if_pos zero]
    rw [zero, Nat.zero_mul]
    exact iff_of_true (by decide) positive
  have longest : mantissa < 10 ^ (Nat.toDigits 10 mantissa).length :=
    (Nat.length_toDigits_le_iff (by decide) Nat.length_toDigits_pos).mp (Nat.le_refl _)
  have shortest : 10 ^ ((Nat.toDigits 10 mantissa).length - 1) ≤ mantissa := by
    refine Nat.le_of_not_lt fun below => ?_
    by_cases single_ : (Nat.toDigits 10 mantissa).length = 1
    · rw [single_] at below
      omega
    · have positive : 0 < (Nat.toDigits 10 mantissa).length := Nat.length_toDigits_pos
      have := (Nat.length_toDigits_le_iff (by decide) (by omega)).mpr below
      omega
  have positive : 0 < (Nat.toDigits 10 mantissa).length := Nat.length_toDigits_pos
  have reach : decimalReach = 400 := rfl
  simp only [roundDecimal, if_neg zero]
  generalize (Nat.toDigits 10 mantissa).length = size at longest shortest positive
  by_cases far : decimalReach < exponent + size
  · rw [if_pos far]
    refine iff_of_false (Nat.lt_irrefl _) (Nat.not_lt.mpr ?_)
    calc Single.limit * 10 ^ (-exponent).toNat
        ≤ 10 ^ 39 * 10 ^ (-exponent).toNat := Nat.mul_le_mul_right _ room
      _ = 10 ^ (39 + (-exponent).toNat) := (Nat.pow_add ..).symm
      _ ≤ 10 ^ (size - 1 + exponent.toNat) := ten (by omega)
      _ = 10 ^ (size - 1) * 10 ^ exponent.toNat := Nat.pow_add ..
      _ ≤ mantissa * 10 ^ exponent.toNat := Nat.mul_le_mul_right _ shortest
  rw [if_neg far]
  by_cases tiny : exponent + size < -decimalReach
  · rw [if_pos tiny]
    refine iff_of_true (by decide) ?_
    calc mantissa * 10 ^ exponent.toNat
        < 10 ^ size * 10 ^ exponent.toNat := Nat.mul_lt_mul_of_pos_right longest (Nat.pow_pos (by decide))
      _ = 10 ^ (size + exponent.toNat) := (Nat.pow_add ..).symm
      _ ≤ 10 ^ (-exponent).toNat := ten (by omega)
      _ ≤ Single.limit * 10 ^ (-exponent).toNat := Nat.le_mul_of_pos_left _ (by decide)
  rw [if_neg tiny]
  by_cases whole : 0 ≤ exponent
  · rw [if_pos whole, roundRatio_lt_iff _ (by decide), show (-exponent).toNat = 0 by omega, Nat.pow_zero]
  · rw [if_neg whole, roundRatio_lt_iff _ (Nat.pow_pos (by decide)), show exponent.toNat = 0 by omega, Nat.pow_zero,
      Nat.mul_one]

theorem roundDecimal_le_infinityBits (mantissa : Nat) (exponent : Int) :
    single.roundDecimal mantissa exponent ≤ single.infinityBits := by
  simp only [roundDecimal]
  split
  · exact Nat.zero_le _
  · split
    · exact Nat.le_refl _
    · split
      · exact Nat.zero_le _
      · split
        · exact roundRatio_le_infinityBits ..
        · exact roundRatio_le_infinityBits ..

end BinaryFormat

/-! ## Literals -/

namespace Literal

/-- The number that the literal spells, its sign aside, is below all that is rounded to infinity. -/
def IsBelowLimit : Literal → Prop
  | .finite _ mantissa exponent => mantissa * 10 ^ exponent.toNat < Single.limit * 10 ^ (-exponent).toNat
  | .infinite _ | .nan => False

/-- A literal is read as a finite value exactly if it spells a number below the limit. -/
theorem isFinite_toSingle (l : Literal) : l.toSingle.isFinite = true ↔ l.IsBelowLimit := by
  show (Single.ofPattern (l.toBits .single)).isFinite = true ↔ _
  cases l with
  | finite negative mantissa exponent =>
    have most := BinaryFormat.roundDecimal_le_infinityBits mantissa exponent
    rw [IsBelowLimit, ← BinaryFormat.roundDecimal_lt_iff, toBits, BinaryFormat.withSign,
      show BinaryFormat.single.signBit = 2147483648 by decide]
    rw [show BinaryFormat.single.infinityBits = 2139095040 by decide] at most ⊢
    generalize BinaryFormat.single.roundDecimal mantissa exponent = bits at most
    cases negative with
    | false =>
      rw [if_neg (by decide), Single.isFinite_ofPattern (by omega)]
      omega
    | true =>
      rw [if_pos rfl, Single.isFinite_ofPattern (by omega)]
      omega
  | infinite negative =>
    refine iff_of_false ?_ id
    cases negative <;> decide +kernel
  | nan => exact iff_of_false (by decide +kernel) id

end Literal

end DiagramStudio.Number
