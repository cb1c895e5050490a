import DiagramStudio.Number.Rounding

/-!
The shortest decimal of a binary value: the number with the fewest digits that reads back as the
same value, and of those the nearest to it. It is found on the coarsest decimal grid that has a
point among the numbers that round to the value. A point of a grid that lies in an interval around
a value has one of the value's two neighbours on the grid with it, so only these two are tried.
-/

namespace DiagramStudio.Number

/-- A decimal without its sign: `digits * 10 ^ exponent`. -/
structure Decimal where
  digits : Nat
  exponent : Int
deriving Repr, DecidableEq

namespace Shortest

/-- The numbers that round to one value, in units of a quarter of its last bit: `low` and `high`
    enclose `middle`, and belong to it themselves where `closed`. -/
structure Basin where
  low : Nat
  middle : Nat
  high : Nat
  exponent : Int
  closed : Bool

/-- The numbers that round to `mantissa * 2 ^ exponent`. Just above a power of two the neighbour
    below is half as far away as the one above. -/
def basin (f : BinaryFormat) (mantissa : Nat) (exponent : Int) : Basin :=
  let edge := mantissa == 2 ^ f.fractionBits && f.minExponent < exponent
  { low := 4 * mantissa - (if edge then 1 else 2)
    middle := 4 * mantissa
    high := 4 * mantissa + 2
    exponent := exponent - 2
    closed := mantissa % 2 == 0 }

/-- The factors that bring quarters of `2 ^ e` and points of the grid `10 ^ k` to one unit. -/
def factors (e k : Int) : Nat × Nat :=
  (2 ^ e.toNat * 10 ^ (-k).toNat, 2 ^ (-e).toNat * 10 ^ k.toNat)

/-- The point of the grid `10 ^ k` nearest to the middle of the basin, if one lies in the basin. Of
    two at one distance the greater is taken. -/
def onGrid (b : Basin) (k : Int) : Option Nat :=
  let (unit, step) := factors b.exponent k
  let inside (d : Nat) : Bool :=
    if b.closed then b.low * unit ≤ d * step && d * step ≤ b.high * unit
    else b.low * unit < d * step && d * step < b.high * unit
  let below := b.middle * unit / step
  let above := below + 1
  if inside below then
    if inside above && above * step - b.middle * unit ≤ b.middle * unit - below * step then some above
    else some below
  else if inside above then some above
  else none

/-- The first grid, from `10 ^ k` to finer ones, with a point in the basin; `steps` grids are
    tried. -/
def search (b : Basin) : Nat → Int → Option Decimal
  | 0, _ => none
  | steps + 1, k =>
    match onGrid b k with
    | some digits => some ⟨digits, k⟩
    | none => search b steps (k - 1)

/-- No value of the format reaches `10 ^ coarsest`. -/
def coarsest (f : BinaryFormat) : Int := 2 ^ (f.exponentBits - 1) / 3

/-- No basin of the format is narrower than the finest of so many grids. -/
def grids (f : BinaryFormat) : Nat :=
  (coarsest f).toNat + 2 ^ (f.exponentBits - 1) + f.precision

/-- The shortest decimal of `mantissa * 2 ^ exponent`, a positive value of the format. -/
def decimal (f : BinaryFormat) (mantissa : Nat) (exponent : Int) : Decimal :=
  (search (basin f mantissa exponent) (grids f) (coarsest f)).getD ⟨0, 0⟩

end Shortest

namespace Decimal

/-- The decimal written without an exponent: zeros fill up to the point on either side. A whole
    number has no point. -/
def positional (d : Decimal) : List Char :=
  let ds := Nat.toDigits 10 d.digits
  if 0 ≤ d.exponent then ds ++ List.replicate d.exponent.toNat '0'
  else
    let places := (-d.exponent).toNat
    let padded := List.replicate (places + 1 - ds.length) '0' ++ ds
    padded.take (padded.length - places) ++ '.' :: padded.drop (padded.length - places)

end Decimal

end DiagramStudio.Number
