import DiagramStudio.Number.Literal
import DiagramStudio.Script.Sum

/-!
Formatted output of scripts: backslash escapes, and places in a format at which arguments stand.
-/

namespace DiagramStudio.Script

open Number

/-! ## Escapes -/

def isOctal (c : Char) : Bool := '0' ≤ c && c ≤ '7'

/-- The character that octal digits spell. -/
def octal (digits : List Char) : Char :=
  Char.ofNat (digits.foldl (fun n c => 8 * n + (c.toNat - '0'.toNat)) 0 % 256)

/-- What one character behind a backslash stands for. -/
def escaped? (c : Char) : Option Char :=
  match c with
  | 'a' => some '\x07'
  | 'b' => some '\x08'
  | 'e' => some '\x1b'
  | 'f' => some '\x0c'
  | 'n' => some '\n'
  | 'r' => some '\r'
  | 't' => some '\t'
  | 'v' => some '\x0b'
  | '\\' => some '\\'
  | _ => none

/-- The character that the text behind a backslash begins with, and what follows it. Up to three octal
    digits make up a character; a backslash in front of anything else stands for itself. -/
def escape (s : List Char) : Char × List Char :=
  match s with
  | [] => ('\\', [])
  | c :: rest =>
    match escaped? c with
    | some d => (d, rest)
    | none =>
      let row := (s.take 3).takeWhile isOctal
      if row.isEmpty then ('\\', s) else (octal row, s.drop row.length)

/-- A text with its escapes resolved, in which octal digits may be led by one more zero; whether nothing
    more shall be written. Every unit of fuel pays for a character. -/
def unescape : Nat → List Char → List Char × Bool
  | 0, _ => ([], false)
  | _ + 1, [] => ([], false)
  | fuel + 1, c :: rest =>
    let more (c : Char) (rest : List Char) : List Char × Bool :=
      let (s, stop) := unescape fuel rest
      (c :: s, stop)
    if c = '\\' then
      match rest with
      | 'c' :: _ => ([], true)
      | '0' :: d :: after =>
        let (c, after) := escape (if isOctal d then d :: after else rest)
        more c after
      | _ =>
        let (c, after) := escape rest
        more c after
    else more c rest

/-! ## Places -/

/-- A place in a format. -/
structure Slot where
  flags : List Char
  width : Nat
  precision : Option Nat

namespace Slot

def has (p : Slot) (flag : Char) : Bool := p.flags.contains flag

/-- A text as wide as its place. -/
def pad (p : Slot) (s : List Char) : List Char :=
  let gap := List.replicate (p.width - s.length) ' '
  if p.has '-' then s ++ gap else gap ++ s

/-- A number as wide as its place: zeros may fill it behind the sign. -/
def padNumber (p : Slot) (zeros : Bool) (front digits : List Char) : List Char :=
  if p.has '0' && !p.has '-' && zeros then
    front ++ List.replicate (p.width - front.length - digits.length) '0' ++ digits
  else p.pad (front ++ digits)

def signOf (p : Slot) (negative : Bool) : List Char :=
  if negative then ['-'] else if p.has '+' then ['+'] else if p.has ' ' then [' '] else []

/-- The digits of a whole number, as many as are asked for. -/
def wholeDigits (p : Slot) (digits : List Char) : List Char :=
  match p.precision with
  | none => digits
  | some n =>
    if n = 0 ∧ digits = ['0'] then []
    else List.replicate (n - digits.length) '0' ++ digits

def integer (p : Slot) (n : Int) : List Char :=
  p.padNumber p.precision.isNone (p.signOf (n < 0)) (p.wholeDigits (shownNat n.natAbs))
where
  shownNat (n : Nat) : List Char := (toString n).toList

/-- A whole number without a sign in a base. -/
def based (p : Slot) (kind : Char) (n : Nat) : List Char :=
  let digits := match kind with
    | 'o' => Nat.toDigits 8 n
    | 'x' => Nat.toDigits 16 n
    | 'X' => (Nat.toDigits 16 n).map Char.toUpper
    | _ => Nat.toDigits 10 n
  let digits := p.wholeDigits digits
  let front :=
    if !p.has '#' || n = 0 then []
    else if kind = 'x' then ['0', 'x']
    else if kind = 'X' then ['0', 'X']
    else []
  let digits := if kind == 'o' && p.has '#' && digits.head? != some '0' then '0' :: digits else digits
  p.padNumber p.precision.isNone front digits

/-- The digits of `num / den` with so many behind the point. -/
def fixed (p : Slot) (num den places : Nat) : List Char :=
  let n := BinaryFormat.roundHalfEven (num * 10 ^ places) den
  let digits := (toString n).toList
  let digits := List.replicate (places + 1 - digits.length) '0' ++ digits
  let whole := digits.take (digits.length - places)
  if places = 0 then whole ++ (if p.has '#' then ['.'] else [])
  else whole ++ '.' :: digits.drop (digits.length - places)

/-- The exponent of the first digit of `num / den`, found between two bounds. -/
def leading (num den : Nat) : Int :=
  let candidates := (List.range 700).map fun (i : Nat) => (330 : Int) - (i : Int)
  (candidates.find? fun e =>
    if 0 ≤ e then den * 10 ^ e.toNat ≤ num else den ≤ num * 10 ^ (-e).toNat).getD 0

/-- The digits of `num / den` with an exponent and so many digits behind the point, and the exponent. -/
def scientific (p : Slot) (kind : Char) (num den places : Nat) : List Char × Int :=
  let scaledTo (e : Int) : Nat :=
    let shift := (places : Int) - e
    if 0 ≤ shift then BinaryFormat.roundHalfEven (num * 10 ^ shift.toNat) den
    else BinaryFormat.roundHalfEven num (den * 10 ^ (-shift).toNat)
  let e := if num = 0 then 0 else leading num den
  let n := scaledTo e
  let (n, e) := if 10 ^ (places + 1) ≤ n then (n / 10, e + 1) else (n, e)
  let digits := (toString n).toList
  let digits := digits ++ List.replicate (places + 1 - digits.length) '0'
  let mantissa :=
    if places = 0 then digits.take 1 ++ (if p.has '#' then ['.'] else [])
    else digits.take 1 ++ '.' :: digits.drop 1
  let exponent := (toString e.natAbs).toList
  let exponent := if exponent.length < 2 then '0' :: exponent else exponent
  (mantissa ++ kind :: (if e < 0 then '-' else '+') :: exponent, e)

/-- A text without the zeros that end its digits behind the point. -/
def withoutZeros (s : List Char) : List Char :=
  if s.contains '.' then
    let kept := (s.reverse.dropWhile (· == '0')).reverse
    if kept.getLast? = some '.' then kept.dropLast else kept
  else s

/-- A number with or without an exponent, whichever is shorter, of so many digits at most. -/
def general (p : Slot) (kind : Char) (num den digits : Nat) : List Char :=
  let digits := max digits 1
  let (long, e) := p.scientific (if kind = 'G' then 'E' else 'e') num den (digits - 1)
  let strip (s : List Char) : List Char := if p.has '#' then s else withoutZeros s
  if e < -4 ∨ (digits : Int) ≤ e then
    let mantissa := long.takeWhile fun c => c != 'e' && c != 'E'
    strip mantissa ++ long.drop mantissa.length
  else strip (p.fixed num den ((digits : Int) - 1 - e).toNat)

/-- A number of double precision. -/
def real (p : Slot) (kind : Char) (x : Float) : List Char :=
  let upper := kind.isUpper
  let word (s : String) : List Char := if upper then s.toUpper.toList else s.toList
  match BinaryFormat.double.read x.toBits.toNat with
  | .finite negative mantissa exponent =>
    let (num, den) := if 0 ≤ exponent then (mantissa * 2 ^ exponent.toNat, 1)
      else (mantissa, 2 ^ (-exponent).toNat)
    let places := p.precision.getD 6
    let digits :=
      if kind = 'e' ∨ kind = 'E' then (p.scientific kind num den places).1
      else if kind = 'g' ∨ kind = 'G' then p.general kind num den places
      else p.fixed num den places
    p.padNumber true (p.signOf negative) digits
  | .infinite negative => p.padNumber false (p.signOf negative) (word "inf")
  | .nan => p.padNumber false (p.signOf false) (word "nan")

end Slot

/-! ## Formats -/

/-- What came of a format so far. -/
structure Printed where
  out : List Char
  args : List (List Char)
  /-- What is said of arguments that are not of the kind that is asked for. -/
  complaints : List (List Char)
  /-- Nothing more shall be written. -/
  stop : Bool
  /-- The format cannot be followed. -/
  broken : Bool

namespace Printed

def write (p : Printed) (s : List Char) : Printed := { p with out := p.out ++ s }

def complain (p : Printed) (arg what : List Char) : Printed :=
  { p with complaints := p.complaints ++ [arg ++ what] }

/-- The next argument, which is used up. -/
def next (p : Printed) : List Char × Printed := (p.args.headD [], { p with args := p.args.tail })

def isGap (c : Char) : Bool := c == ' ' || ('\t' ≤ c && c ≤ '\r')

/-- The printed text after a look at what is left of an argument whose front was read as a number. -/
def checked (p : Printed) (arg rest : List Char) (any : Bool) : Printed :=
  if !any then
    if arg.isEmpty then p else p.complain arg ": expected numeric value".toList
  else if rest.isEmpty then p
  else p.complain arg ": not completely converted".toList

/-- The integer that an argument begins with. -/
def integerArg (p : Printed) : Int × Printed :=
  let (arg, p) := p.next
  match arg with
  | '"' :: c :: _ => (c.toNat, p)
  | '\'' :: c :: _ => (c.toNat, p)
  | ['"'] => (0, p)
  | ['\''] => (0, p)
  | _ =>
    let body := arg.dropWhile isGap
    let (negative, body) := match body with
      | '-' :: rest => (true, rest)
      | '+' :: rest => (false, rest)
      | _ => (false, body)
    let any := (body.head?.map Char.isDigit).getD false
    let (n, rest) := if any then Sum.number body else (0, arg)
    (if negative then -(n : Int) else n, p.checked arg rest any)

/-- The number at the front of a text: the longest front that spells one. -/
def realFront? (s : List Char) : Option (Float × List Char) :=
  ((List.range (s.length + 1)).reverse.findSome? fun n =>
    (Literal.read? (s.take n)).map fun l => (l.toDouble, s.drop n))

/-- The number of double precision that an argument begins with. -/
def realArg (p : Printed) : Float × Printed :=
  let (arg, p) := p.next
  match arg with
  | '"' :: c :: _ => (Float.ofNat c.toNat, p)
  | '\'' :: c :: _ => (Float.ofNat c.toNat, p)
  | _ =>
    match realFront? (arg.dropWhile isGap) with
    | some (x, rest) => (x, p.checked arg rest true)
    | none => (0, p.checked arg arg false)

/-- A width or a precision: digits, or an asterisk for an argument. -/
def extent (p : Printed) (s : List Char) : Option Int × List Char × Printed :=
  match s with
  | '*' :: rest =>
    let (n, p) := p.integerArg
    (some n, rest, p)
  | _ =>
    let ds := s.takeWhile Char.isDigit
    (if ds.isEmpty then none else some (ofDigits ds : Nat), s.drop ds.length, p)

/-- The next argument written at a place of some kind; nothing if there is no such kind. -/
def place? (p : Printed) (slot : Slot) (kind : Char) : Option Printed :=
  let cut (s : List Char) : List Char := (slot.precision.map (s.take ·)).getD s
  match kind with
  | 's' =>
    let (arg, p) := p.next
    some (p.write (slot.pad (cut arg)))
  | 'b' =>
    let (arg, p) := p.next
    let (s, stop) := unescape (arg.length + 1) arg
    some { p.write (slot.pad (cut s)) with stop }
  | 'c' =>
    let (arg, p) := p.next
    some (p.write (slot.pad [arg.headD '\x00']))
  | 'd' | 'i' =>
    let (n, p) := p.integerArg
    some (p.write (slot.integer (Sum.clamp n)))
  | 'u' | 'o' | 'x' | 'X' =>
    let (n, p) := p.integerArg
    let n : Nat := if n < 0 then (n % 2 ^ 64).toNat else min n.toNat (2 ^ 64 - 1)
    some (p.write (slot.based kind n))
  | 'e' | 'E' | 'f' | 'F' | 'g' | 'G' =>
    let (x, p) := p.realArg
    some (p.write (slot.real kind x))
  | _ => none

/-- The flags of a place. -/
def isFlag (c : Char) : Bool := ['#', '-', '+', ' ', '0'].contains c

/-- A format gone through once; whether it has a place for an argument. Every unit of fuel pays for a
    character. -/
def once : Nat → List Char → Printed → Bool × Printed
  | 0, _, p => (false, p)
  | _ + 1, [], p => (false, p)
  | fuel + 1, '\\' :: rest, p =>
    let (c, after) := escape rest
    once fuel after (p.write [c])
  | fuel + 1, '%' :: '%' :: rest, p => once fuel rest (p.write ['%'])
  | fuel + 1, '%' :: rest, p =>
    let flags := rest.takeWhile isFlag
    let (width, body, p) := p.extent (rest.drop flags.length)
    let (precision, body, p) := match body with
      | '.' :: body =>
        let (n, body, p) := p.extent body
        (some (n.getD 0), body, p)
      | _ => (none, body, p)
    let width := width.getD 0
    let slot : Slot := ⟨if width < 0 then '-' :: flags else flags, width.natAbs,
      (precision.filter (0 ≤ ·)).map Int.toNat⟩
    match body with
    | [] => (false, { p.complain [] "missing format character".toList with broken := true })
    | kind :: after =>
      match p.place? slot kind with
      | none =>
        let spelling := '%' :: rest.take (rest.length - after.length)
        (false, { p.complain spelling ": invalid directive".toList with broken := true })
      | some p => if p.stop then (true, p) else (true, (once fuel after p).2)
  | fuel + 1, c :: rest, p => once fuel rest (p.write [c])

/-- A format gone through until the arguments are used up, at least once. Every unit of fuel pays for an
    argument. -/
def all : Nat → List Char → Printed → Printed
  | 0, _, p => p
  | fuel + 1, format, p =>
    let (placed, p) := once (format.length + 1) format p
    if p.stop || p.broken || !placed || p.args.isEmpty then p else all fuel format p

/-- A format with arguments. -/
def ofFormat (format : List Char) (args : List (List Char)) : Printed :=
  all (args.length + 1) format ⟨[], args, [], false, false⟩

end Printed

end DiagramStudio.Script
