import DiagramStudio.Script.Format

/-!
Values of programs that go through lines: numbers, texts, and texts that may count as numbers because they come
from outside.
-/

namespace DiagramStudio.Script.Awk

open Number

inductive Value where
  /-- The value of what has never been set. -/
  | missing
  | number (x : Float)
  | text (s : List Char)
  /-- A text from outside. -/
  | input (s : List Char)
deriving Repr, Inhabited

/-! ## Numbers in texts -/

def isHex (c : Char) : Bool := c.isDigit || ('a' ≤ c.toLower && c.toLower ≤ 'f')

def hexValue (c : Char) : Nat :=
  if c.isDigit then c.toNat - '0'.toNat else c.toLower.toNat - 'a'.toNat + 10

def isGap (c : Char) : Bool := c == ' ' || ('\t' ≤ c && c ≤ '\r')

/-- The number of digits with a point among them and an exponent at the front of a text, and what follows it. -/
def decimalFront? (s : List Char) : Option (Literal × List Char) :=
  let whole := s.takeWhile Char.isDigit
  let rest := s.drop whole.length
  let (fraction, rest) := match rest with
    | '.' :: more =>
      let digits := more.takeWhile Char.isDigit
      if whole.isEmpty && digits.isEmpty then ([], rest) else (digits, more.drop digits.length)
    | _ => ([], rest)
  if whole.isEmpty && fraction.isEmpty then none
  else
    let (exponent, rest) : Int × List Char := match rest with
      | e :: more =>
        if e = 'e' ∨ e = 'E' then
          let (negative, digits) := Literal.sign more
          let found := digits.takeWhile Char.isDigit
          if found.isEmpty then (0, rest)
          else (if negative then -(ofDigits found : Int) else ofDigits found, digits.drop found.length)
        else (0, rest)
      | [] => (0, [])
    some (.finite false (ofDigits (whole ++ fraction)) (exponent - fraction.length), rest)

/-- The number that a text begins with, zero if with none, and what follows it. -/
def numberFront (s : List Char) : Float × List Char :=
  let body := s.dropWhile isGap
  let (negative, body) := Literal.sign body
  let signed (x : Float) : Float := if negative then -x else x
  let hex := match body with
    | '0' :: 'x' :: rest => some rest
    | '0' :: 'X' :: rest => some rest
    | _ => none
  match hex.map fun rest => (rest.takeWhile isHex, rest) with
  | some (digit :: digits, rest) =>
    (signed (Float.ofNat ((digit :: digits).foldl (fun n c => n * 16 + hexValue c) 0)), rest.drop (digits.length + 1))
  | _ =>
    match decimalFront? body with
    | some (l, rest) => (signed l.toDouble, rest)
    | none =>
      let word (w : String) : Option (List Char) := Text.dropFront? w.toList (body.map Char.toLower)
      match word "infinity", word "inf", word "nan" with
      | some _, _, _ => (signed (1 / 0), body.drop 8)
      | none, some _, _ => (signed (1 / 0), body.drop 3)
      | none, none, some _ => (0 / 0, body.drop 3)
      | none, none, none => (0, s)

/-- A text that spells a number and nothing else, and has no digits of another base. -/
def looksNumeric (s : List Char) : Bool :=
  let body := s.dropWhile isGap
  let rest := (numberFront body).2
  rest.length < body.length && rest.all isGap && !body.any fun c => c == 'x' || c == 'X'

/-- The whole number that a number is, if it is one. -/
def whole? (x : Float) : Option Int :=
  match BinaryFormat.double.read x.toBits.toNat with
  | .finite negative mantissa exponent =>
    let signed (n : Nat) : Int := if negative then -(n : Int) else n
    if 0 ≤ exponent then some (signed (mantissa * 2 ^ exponent.toNat))
    else
      let unit := 2 ^ (-exponent).toNat
      if mantissa % unit = 0 then some (signed (mantissa / unit)) else none
  | _ => none

/-- A number without what stands behind its point, which is cut if it is too large. -/
def truncated (x : Float) : Int :=
  match BinaryFormat.double.read x.toBits.toNat with
  | .finite negative mantissa exponent =>
    let n : Nat := if 0 ≤ exponent then mantissa * 2 ^ exponent.toNat else mantissa / 2 ^ (-exponent).toNat
    if negative then -(n : Int) else n
  | .infinite negative => if negative then -(2 ^ 63) else 2 ^ 64
  | .nan => -(2 ^ 63)

/-- A number as a whole one is written in a format. -/
def clamped (x : Float) : Int := min (max (truncated x) (-(2 ^ 63) + 1)) (2 ^ 64 - 1)

/-! ## Formats -/

/-- What a value is for a format, as a number and as a text. -/
structure Shown where
  number : Float
  text : List Char
  /-- It is a number, and nothing else. -/
  isNumber : Bool

/-- Why a format cannot be followed. -/
inductive FormatFault where
  | tooFew
  | improper (place : Nat)
deriving Repr, DecidableEq, Inhabited

/-- The words for numbers that are none. -/
def realText (slot : Slot) (kind : Char) (x : Float) : List Char :=
  if x == x then slot.real kind x
  else slot.pad (if kind.isUpper then "-NAN".toList else "-nan".toList)

/-- A value at a place of some kind. -/
def placed? (slot : Slot) (kind : Char) (v : Shown) : Option (List Char) :=
  let cut (s : List Char) : List Char := (slot.precision.map (s.take ·)).getD s
  match kind with
  | 'd' | 'i' => some (slot.integer (clamped v.number))
  | 'u' | 'o' | 'x' | 'X' =>
    let n := clamped v.number
    some (slot.based kind (if n < 0 then (n % 2 ^ 64).toNat else n.toNat))
  | 'e' | 'E' | 'f' | 'F' | 'g' | 'G' => some (realText slot kind v.number)
  | 'c' =>
    some (slot.pad (if v.isNumber then [Char.ofNat (truncated v.number % 256).toNat] else [v.text.headD '\x00']))
  | 's' => some (slot.pad (cut v.text))
  | _ => none

/-- A format filled in with values; `count` is the number of the place. What has been written stands with a fault
    as well. Every unit of fuel pays for a character. -/
def formatted : Nat → (count : Nat) → List Char → List Shown → List Char × Option FormatFault
  | 0, _, _, _ => ([], none)
  | _ + 1, _, [], _ => ([], none)
  | fuel + 1, count, '%' :: '%' :: rest, args =>
    let (out, fault) := formatted fuel count rest args
    ('%' :: out, fault)
  | fuel + 1, count, '%' :: rest, args =>
    let flags := rest.takeWhile Printed.isFlag
    let extent (s : List Char) (args : List Shown) : Option (Option Int) × List Char × List Shown :=
      match s, args with
      | '*' :: rest, v :: more => (some (some (truncated v.number)), rest, more)
      | '*' :: rest, [] => (none, rest, [])
      | s, args =>
        let digits := s.takeWhile Char.isDigit
        (some (if digits.isEmpty then none else some (ofDigits digits : Nat)), s.drop digits.length, args)
    match extent (rest.drop flags.length) args with
    | (none, _, _) => ([], some .tooFew)
    | (some width, body, args) =>
      let (precision, body, args) := match body with
        | '.' :: body =>
          let (found, body, args) := extent body args
          (some ((found.getD none).getD 0), body, args)
        | body => (none, body, args)
      let width := width.getD 0
      let slot : Slot := ⟨if width < 0 then '-' :: flags else flags, width.natAbs,
        (precision.filter (0 ≤ ·)).map Int.toNat⟩
      let body := body.dropWhile fun c => c == 'l' || c == 'h'
      match args, body with
      | [], _ => ([], some .tooFew)
      | _, [] => ([], some (.improper count))
      | v :: more, kind :: after =>
        match placed? slot kind v with
        | none => ([], some (.improper count))
        | some s =>
          let (out, fault) := formatted fuel (count + 1) after more
          (s ++ out, fault)
  | fuel + 1, count, c :: rest, args =>
    let (out, fault) := formatted fuel count rest args
    (c :: out, fault)

/-- A number as a text: whole numbers have no point, others are written in a format. -/
def numeral (format : List Char) (x : Float) : List Char :=
  let other (_ : Unit) : List Char := (formatted (format.length + 1) 1 format [⟨x, [], true⟩]).1
  match whole? x with
  | some n =>
    if 0 ≤ n ∧ n ≤ 2 ^ 64 then shown (min n.toNat (2 ^ 64 - 1))
    else if n < 0 ∧ -(2 ^ 63) ≤ n then '-' :: shown n.natAbs
    else other ()
  | none => other ()
where
  /-- A number as it is written. -/
  shown (n : Nat) : List Char := (toString n).toList

/-! ## Views -/

namespace Value

def toNumber : Value → Float
  | missing => 0
  | number x => x
  | text s => (numberFront s).1
  | input s => (numberFront s).1

/-- The value as a text; numbers are written in a format. -/
def toText (format : List Char) : Value → List Char
  | missing => []
  | number x => numeral format x
  | text s => s
  | input s => s

def isTrue : Value → Bool
  | missing => false
  | number x => x != 0
  | text s => !s.isEmpty
  | input s => if looksNumeric s then (numberFront s).1 != 0 else !s.isEmpty

/-- The value counts as a number where two are compared. -/
def isNumeric : Value → Bool
  | missing => true
  | number _ => true
  | text _ => false
  | input s => looksNumeric s

def ofBool (b : Bool) : Value := number (if b then 1 else 0)

def ofNat (n : Nat) : Value := number (Float.ofNat n)

def ofInt (n : Int) : Value := number (Float.ofInt n)

/-- Two values compared: as numbers if both are, as texts otherwise. -/
def compare (format : List Char) (a b : Value) : Ordering :=
  if a.isNumeric && b.isNumeric then
    let (x, y) := (a.toNumber, b.toNumber)
    if x < y then .lt else if y < x then .gt else .eq
  else Ord.compare (a.toText format) (b.toText format)

/-- The value for a format. -/
def shownBy (format : List Char) (v : Value) : Shown :=
  ⟨v.toNumber, v.toText format, match v with
    | .number _ => true
    | .input s => looksNumeric s
    | _ => false⟩

end Value

end DiagramStudio.Script.Awk
