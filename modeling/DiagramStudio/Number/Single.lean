import DiagramStudio.Number.Shortest
import DiagramStudio.Number.Literal

/-!
Single-precision numbers: the lesser and the greater of two where one may be no number, conversions,
whole parts, percentages, and the decimal text of a value.
-/

namespace DiagramStudio.Number.Single

/-- The value is not a number: it differs from itself. -/
def isNaN (x : Float32) : Bool := !(x == x)

/-- The greater of two values; one that is not a number gives way to the other. -/
def greater (x y : Float32) : Float32 :=
  if isNaN x then y else if x < y then y else x

/-- The lesser of two values; one that is not a number gives way to the other. -/
def lesser (x y : Float32) : Float32 :=
  if isNaN x then y else if y < x then y else x

/-- What the value stands for. -/
def reading (x : Float32) : BinaryFormat.Reading :=
  BinaryFormat.single.read x.toBits.toNat

def ofPattern (bits : Nat) : Float32 :=
  Float32.ofBits (UInt32.ofNat bits)

/-- The single-precision value nearest to a double-precision one. -/
def ofDouble (x : Float) : Float32 :=
  ofPattern (BinaryFormat.convert .double .single x.toBits.toNat)

/-- The single-precision value nearest to an integer. -/
def ofInt (i : Int) : Float32 :=
  ofPattern (BinaryFormat.single.withSign (i < 0) (BinaryFormat.single.roundRatio i.natAbs 1))

/-- The greatest whole number that is not above the value. -/
def floor (x : Float32) : Float32 :=
  match reading x with
  | .finite negative m e =>
    if 0 ≤ e then x
    else
      let whole := m >>> (-e).toNat
      let exact := whole <<< (-e).toNat == m
      let magnitude := if negative && !exact then whole + 1 else whole
      ofPattern (BinaryFormat.single.withSign negative (BinaryFormat.single.roundRatio magnitude 1))
  | _ => x

/-- The value rounded to a whole number, halves away from zero, and held between `0` and `bound`. No
    number counts as zero. -/
def roundClamped (bound : Nat) (x : Float32) : Nat :=
  match reading x with
  | .finite true _ _ => 0
  | .finite false m e =>
    if 0 ≤ e then min bound (m <<< e.toNat)
    else min bound ((m + 1 <<< ((-e).toNat - 1)) >>> (-e).toNat)
  | .infinite negative => if negative then 0 else bound
  | .nan => 0

/-- The value with the fewest decimal digits that read back as the same value, always in positional
    notation; a whole number has no point, and negative zero keeps its sign. -/
def text (x : Float32) : List Char :=
  match reading x with
  | .nan => "NaN".toList
  | .infinite negative => if negative then "-inf".toList else "inf".toList
  | .finite negative m e =>
    let body := if m = 0 then ['0'] else (Shortest.decimal .single m e).positional
    if negative then '-' :: body else body

end DiagramStudio.Number.Single
