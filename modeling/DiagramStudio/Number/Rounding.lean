import DiagramStudio.Instances

/-!
Rounding to binary floating point: which value of a format is nearest to a rational number, and
what a bit pattern of the format stands for. Ties go to the even neighbour. All of it is exact
arithmetic on natural numbers.
-/

namespace DiagramStudio.Number

/-- A binary interchange format: the bits of precision, the hidden one included, and the bits of
    the exponent field. -/
structure BinaryFormat where
  precision : Nat
  exponentBits : Nat
deriving Repr, DecidableEq

namespace BinaryFormat

/-- Four bytes. -/
def single : BinaryFormat := ⟨24, 8⟩

/-- Eight bytes. -/
def double : BinaryFormat := ⟨53, 11⟩

/-- The bits of the fraction field. -/
def fractionBits (f : BinaryFormat) : Nat := f.precision - 1

/-- The exponent of the last bit of the smallest positive value. -/
def minExponent (f : BinaryFormat) : Int :=
  3 - (2 ^ (f.exponentBits - 1) : Nat) - f.precision

/-- The pattern of positive infinity: the exponent field full, the fraction empty. -/
def infinityBits (f : BinaryFormat) : Nat :=
  (2 ^ f.exponentBits - 1) * 2 ^ f.fractionBits

/-- The weight of the sign bit. -/
def signBit (f : BinaryFormat) : Nat :=
  2 ^ (f.exponentBits + f.fractionBits)

/-- The integer nearest to `num / den`, an exact half going to the even neighbour. -/
def roundHalfEven (num den : Nat) : Nat :=
  let whole := num / den
  let twice := 2 * (num % den)
  if twice < den then whole
  else if den < twice then whole + 1
  else whole + whole % 2

/-- `num * 2 ^ -e / den` as a quotient of naturals. -/
def scaled (num den : Nat) (e : Int) : Nat × Nat :=
  if 0 ≤ e then (num, den * 2 ^ e.toNat) else (num * 2 ^ (-e).toNat, den)

/-- The exponent of the last bit of the value of the format just below `num / den`. -/
def unitExponent (f : BinaryFormat) (num den : Nat) : Int :=
  let guess := max f.minExponent ((num.log2 : Int) - den.log2 - f.precision)
  let (n, d) := scaled num den guess
  if d * 2 ^ f.precision ≤ n then guess + 1 else guess

/-- The pattern of the value nearest to `num / den`; what lies beyond the largest finite value by
    half a unit or more becomes infinity. Rounding up past a power of two carries into the exponent
    field by itself. -/
def roundRatio (f : BinaryFormat) (num den : Nat) : Nat :=
  if num = 0 then 0
  else
    let e := f.unitExponent num den
    let (n, d) := scaled num den e
    min f.infinityBits ((e - f.minExponent).toNat * 2 ^ f.fractionBits + roundHalfEven n d)

/-- A bit pattern read: a sign and either a multiple of a power of two, infinity or no number. -/
inductive Reading where
  /-- `mantissa * 2 ^ exponent`, negated where `negative`. -/
  | finite (negative : Bool) (mantissa : Nat) (exponent : Int)
  | infinite (negative : Bool)
  | nan
deriving Repr, DecidableEq

/-- What a pattern of the format stands for. -/
def read (f : BinaryFormat) (bits : Nat) : Reading :=
  let negative := f.signBit ≤ bits
  let field := bits % f.signBit / 2 ^ f.fractionBits
  let fraction := bits % 2 ^ f.fractionBits
  if field = 2 ^ f.exponentBits - 1 then
    if fraction = 0 then .infinite negative else .nan
  else if field = 0 then .finite negative fraction f.minExponent
  else .finite negative (fraction + 2 ^ f.fractionBits) (f.minExponent + field - 1)

/-- The pattern with its sign bit set where `negative`. -/
def withSign (f : BinaryFormat) (negative : Bool) (bits : Nat) : Nat :=
  if negative then bits + f.signBit else bits

/-- A pattern of the format that is no number. -/
def nanBits (f : BinaryFormat) : Nat :=
  f.infinityBits + 2 ^ (f.fractionBits - 1)

/-- Numbers of the form `mantissa * 10 ^ exponent` whose decimal point stands further than this
    from their first digit round to zero or to infinity in every format here. -/
def decimalReach : Int := 400

/-- The pattern of the value nearest to `mantissa * 10 ^ exponent`. -/
def roundDecimal (f : BinaryFormat) (mantissa : Nat) (exponent : Int) : Nat :=
  let size := exponent + (Nat.toDigits 10 mantissa).length
  if mantissa = 0 then 0
  else if decimalReach < size then f.infinityBits
  else if size < -decimalReach then 0
  else if 0 ≤ exponent then f.roundRatio (mantissa * 10 ^ exponent.toNat) 1
  else f.roundRatio mantissa (10 ^ (-exponent).toNat)

/-- The pattern of the value nearest to `mantissa * 2 ^ exponent`. -/
def roundBinary (f : BinaryFormat) (mantissa : Nat) (exponent : Int) : Nat :=
  if 0 ≤ exponent then f.roundRatio (mantissa * 2 ^ exponent.toNat) 1
  else f.roundRatio mantissa (2 ^ (-exponent).toNat)

/-- The pattern in format `g` nearest to what `bits` stands for in format `f`. -/
def convert (f g : BinaryFormat) (bits : Nat) : Nat :=
  match f.read bits with
  | .finite negative m e => g.withSign negative (g.roundBinary m e)
  | .infinite negative => g.withSign negative g.infinityBits
  | .nan => g.nanBits

theorem roundRatio_zero (f : BinaryFormat) (den : Nat) : f.roundRatio 0 den = 0 := by
  simp [roundRatio]

/-- Nothing rounds beyond infinity. -/
theorem roundRatio_le_infinityBits (f : BinaryFormat) (num den : Nat) :
    f.roundRatio num den ≤ f.infinityBits := by
  unfold roundRatio
  split
  · exact Nat.zero_le _
  · exact Nat.min_le_left _ _

/-- Rounding to an integer errs by at most a half. -/
theorem roundHalfEven_near (num : Nat) {den : Nat} (positive : 0 < den) :
    2 * num ≤ (2 * roundHalfEven num den + 1) * den ∧
      2 * roundHalfEven num den * den ≤ 2 * num + den := by
  have division := Nat.div_add_mod num den
  rw [Nat.mul_comm] at division
  have small := Nat.mod_lt num positive
  have parity : num / den % 2 = 0 ∨ num / den % 2 = 1 := by omega
  simp only [roundHalfEven]
  split
  · simp only [Nat.add_mul, Nat.mul_assoc]; omega
  · split
    · simp only [Nat.add_mul, Nat.mul_add, Nat.mul_assoc]; omega
    · rcases parity with h | h <;> rw [h] <;> simp only [Nat.add_mul, Nat.mul_add, Nat.mul_assoc] <;> omega

end BinaryFormat

end DiagramStudio.Number
