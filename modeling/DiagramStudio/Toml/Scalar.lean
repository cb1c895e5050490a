import DiagramStudio.Config.Setting
import DiagramStudio.Toml.Strings

/-!
Values of the TOML format that stand without quotes: booleans, integers, floats, dates and times.
-/

namespace DiagramStudio.Toml

open Number

/-- The digits of a row in which single underscores may stand between digits. -/
def joined? (isDigit : Char → Bool) (s : List Char) : Option (List Char) :=
  let parts := Text.pieces (· == '_') s
  if parts.all fun part => !part.isEmpty && part.all isDigit then some parts.flatten else none

/-- A row of decimal digits without a zero in front of others. -/
def whole? (s : List Char) : Option (List Char) :=
  (joined? isDigit s).filter fun ds => ds.length == 1 || ds.head? != some '0'

/-- The number that digits spell in the given base. -/
def inBase (base : Nat) (ds : List Char) : Nat :=
  ds.foldl (fun n c => base * n + (hexValue? c).getD 0) 0

/-- Digits of the given base. -/
def isDigitOf (base : Nat) (c : Char) : Bool :=
  ((hexValue? c).map fun d => decide (d < base)).getD false

/-- An integer, decimal with an optional sign or in another base without one. -/
def integer? (s : List Char) : Option Int :=
  match s with
  | '0' :: 'x' :: ds => (joined? (isDigitOf 16) ds).map fun ds => (inBase 16 ds : Int)
  | '0' :: 'o' :: ds => (joined? (isDigitOf 8) ds).map fun ds => (inBase 8 ds : Int)
  | '0' :: 'b' :: ds => (joined? (isDigitOf 2) ds).map fun ds => (inBase 2 ds : Int)
  | _ =>
    let (negative, ds) := Literal.sign s
    (whole? ds).map fun ds => if negative then -(ofDigits ds : Int) else ofDigits ds

/-- The digits of an exponent, with their sign, as a number without underscores. -/
def exponentDigits? (s : List Char) : Option (List Char) :=
  match s with
  | '-' :: ds => (joined? isDigit ds).map ('-' :: ·)
  | '+' :: ds => joined? isDigit ds
  | ds => joined? isDigit ds

/-- A number with digits on both sides of a point, an exponent, or both, without its sign. -/
def decimal? (s : List Char) : Option (List Char) := do
  let (mantissa, exponent) ← match Text.cut? (fun c => c == 'e' || c == 'E') s with
    | some (front, behind) => (exponentDigits? behind).map fun e => (front, some e)
    | none => some (s, none)
  let (whole, fraction) ← match Text.cut? (· == '.') mantissa with
    | some (front, behind) => (joined? isDigit behind).map fun ds => (front, some ds)
    | none => some (mantissa, none)
  if exponent.isNone && fraction.isNone then none
  else
    let whole ← whole? whole
    return whole ++ ((fraction.map ('.' :: ·)).getD []) ++ ((exponent.map ('e' :: ·)).getD [])

/-- A float: a decimal number, infinity, or no number. -/
def float? (s : List Char) : Option Setting :=
  let (negative, body) := Literal.sign s
  if body = "inf".toList then some (.real (Literal.toDouble (.infinite negative)))
  else if body = "nan".toList then some (.real (Literal.toDouble .nan))
  else
    ((decimal? body).bind (Literal.unsigned? negative)).map fun l =>
      let x := l.toDouble
      if x.isInf then .outsized else .real x

/-! ## Dates and times -/

/-- The number that exactly `count` digits at the front spell, and what follows them. -/
def count? (count : Nat) (s : List Char) : Option (Nat × List Char) :=
  if s.length < count ∨ !(s.take count).all isDigit then none
  else some (ofDigits (s.take count), s.drop count)

/-- The text behind a character at the front. -/
def after? (c : Char) : List Char → Option (List Char)
  | d :: rest => if d = c then some rest else none
  | [] => none

/-- How many days the month of a year has. -/
def monthLength (year month : Nat) : Nat :=
  if month = 2 then
    if year % 4 = 0 ∧ (year % 100 ≠ 0 ∨ year % 400 = 0) then 29 else 28
  else if month = 4 ∨ month = 6 ∨ month = 9 ∨ month = 11 then 30
  else 31

/-- A date at the front: what follows it. -/
def afterDate? (s : List Char) : Option (List Char) := do
  let (year, s) ← count? 4 s
  let (month, s) ← count? 2 (← after? '-' s)
  let (day, s) ← count? 2 (← after? '-' s)
  if 1 ≤ month ∧ month ≤ 12 ∧ 1 ≤ day ∧ day ≤ monthLength year month then return s else none

/-- Seconds, with a fraction or without: what follows them. They may be left out. -/
def afterSeconds? (s : List Char) : Option (List Char) :=
  match s with
  | ':' :: rest => do
    let (second, rest) ← count? 2 rest
    if 60 < second then none
    else
      match rest with
      | '.' :: ds => if (ds.takeWhile isDigit).isEmpty then none else some (ds.dropWhile isDigit)
      | _ => return rest
  | _ => some s

/-- A time of day at the front: what follows it. -/
def afterTime? (s : List Char) : Option (List Char) := do
  let (hour, s) ← count? 2 s
  let (minute, s) ← count? 2 (← after? ':' s)
  if 23 < hour ∨ 59 < minute then none else afterSeconds? s

/-- The text is the distance to universal time, or empty. -/
def isOffset (s : List Char) : Bool :=
  match s with
  | [] => true
  | [c] => c == 'Z' || c == 'z'
  | c :: rest =>
    (c == '+' || c == '-') &&
      (do
        let (hour, s) ← count? 2 rest
        let (minute, s) ← count? 2 (← after? ':' s)
        return decide (hour ≤ 23 ∧ minute ≤ 59) && s.isEmpty).getD false

/-- What stands between a date and a time. -/
def isDateSeparator (c : Char) : Bool :=
  c == 'T' || c == 't' || c == ' '

/-- The text is a date, a time, or both, then with or without the distance to universal time. -/
def isMoment (s : List Char) : Bool :=
  match afterDate? s with
  | some [] => true
  | some (c :: rest) => isDateSeparator c && ((afterTime? rest).map isOffset).getD false
  | none => afterTime? s == some []

/-! ## The value -/

/-- Below this an integer can be held with either sign, and below twice this without one. -/
def integerMax : Int := 2 ^ 127

/-- The value that a text without quotes stands for. -/
def scalar? (s : List Char) : Option Setting :=
  if s = "true".toList then some (.flag true)
  else if s = "false".toList then some (.flag false)
  else
    match integer? s with
    | some i => some (if -integerMax ≤ i ∧ i < 2 * integerMax then .integer i else .outsized)
    | none =>
      match float? s with
      | some x => some x
      | none => if isMoment s then some (.moment (String.ofList s)) else none

/-- A character at which a value without quotes ends. -/
def endsScalar (c : Char) : Bool :=
  isBlank c || c == '\n' || c == '\r' || c == ',' || c == ']' || c == '\x7d' || c == '#' || c == '='

/-- The spelling of a value without quotes at the front, and what follows it. A space between a date
    and a time belongs to it. -/
def scalarSpan (s : List Char) : List Char × List Char :=
  let front := s.takeWhile (!endsScalar ·)
  let behind := s.dropWhile (!endsScalar ·)
  match behind with
  | ' ' :: d :: rest =>
    if afterDate? front == some [] && isDigit d then
      (front ++ ' ' :: (d :: rest).takeWhile (!endsScalar ·), (d :: rest).dropWhile (!endsScalar ·))
    else (front, behind)
  | _ => (front, behind)

end DiagramStudio.Toml
