import DiagramStudio.Number.Rounding
import DiagramStudio.Text.Case

/-!
Decimal literals: an optional sign, digits with an optional point among, before or after them, and
an optional exponent; or a word for infinity or for no number, in any case.
-/

namespace DiagramStudio.Number

/-- ASCII digits only. -/
def isDigit (c : Char) : Bool :=
  '0' ≤ c && c ≤ '9'

/-- The value of a row of decimal digits; the empty row is zero. -/
def ofDigits (ds : List Char) : Nat :=
  ds.foldl (fun n d => 10 * n + (d.toNat - '0'.toNat)) 0

/-- A decimal literal that has been read, its value exact. -/
inductive Literal where
  /-- `mantissa * 10 ^ exponent`, negated where `negative`. -/
  | finite (negative : Bool) (mantissa : Nat) (exponent : Int)
  | infinite (negative : Bool)
  | nan
deriving Repr, DecidableEq

namespace Literal

/-- A sign taken from the front: whether it is a minus, and the rest. Without a sign the text is
    positive. -/
def sign : List Char → Bool × List Char
  | '-' :: rest => (true, rest)
  | '+' :: rest => (false, rest)
  | rest => (false, rest)

/-- The exponent that ends a literal: nothing at all is zero, `none` if it is malformed. -/
def exponent? : List Char → Option Int
  | [] => some 0
  | c :: rest =>
    if c == 'e' || c == 'E' then
      let (negative, digits) := sign rest
      if digits.isEmpty || !digits.all isDigit then none
      else if negative then some (-(ofDigits digits : Int)) else some (ofDigits digits)
    else none

/-- A literal without its sign: digits, point and exponent. At least one digit stands around the
    point. -/
def unsigned? (negative : Bool) (s : List Char) : Option Literal :=
  let whole := s.takeWhile isDigit
  let rest := s.dropWhile isDigit
  let (fraction, rest) :=
    match rest with
    | '.' :: more => (more.takeWhile isDigit, more.dropWhile isDigit)
    | _ => ([], rest)
  if whole.isEmpty && fraction.isEmpty then none
  else (exponent? rest).map fun e =>
    .finite negative (ofDigits (whole ++ fraction)) (e - fraction.length)

/-- The words that stand for infinity. -/
def infinityWords : List (List Char) := ["inf".toList, "infinity".toList]

/-- The word that stands for no number. -/
def nanWord : List Char := "nan".toList

/-- The literal that the whole of the text spells. -/
def read? (s : List Char) : Option Literal :=
  let (negative, body) := sign s
  if infinityWords.any (Text.sameFolded body) then some (.infinite negative)
  else if Text.sameFolded body nanWord then some .nan
  else unsigned? negative body

/-- The pattern of the value of format `f` nearest to the literal. -/
def toBits (f : BinaryFormat) : Literal → Nat
  | .finite negative m e => f.withSign negative (f.roundDecimal m e)
  | .infinite negative => f.withSign negative f.infinityBits
  | .nan => f.nanBits

/-- The nearest single-precision value. -/
def toSingle (l : Literal) : Float32 :=
  Float32.ofBits (UInt32.ofNat (l.toBits .single))

/-- The nearest double-precision value. -/
def toDouble (l : Literal) : Float :=
  Float.ofBits (UInt64.ofNat (l.toBits .double))

end Literal

end DiagramStudio.Number
