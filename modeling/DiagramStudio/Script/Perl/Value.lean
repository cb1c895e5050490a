import DiagramStudio.Script.Awk.Value
import DiagramStudio.Script.Perl.Basic

/-!
Values of programs in Perl, what they are as numbers and as texts, and what is computed with them.
-/

namespace DiagramStudio.Script.Perl

open Number

/-- What a reference leads to. -/
inductive Kind where
  | scalar
  | array
  | hash
  | code
  | handle
  | pattern
deriving Repr, DecidableEq, Inhabited

inductive Value where
  | missing
  | whole (n : Int)
  | real (x : Float)
  | text (s : List Char)
  /-- A number with a text that need not spell it. -/
  | both (n : Int) (s : List Char)
  | refer (kind : Kind) (id : Nat)
deriving Repr, Inhabited

namespace Value

/-- A whole number, which is kept as it is if it is not too large. -/
def ofInt (n : Int) : Value := if -(2 ^ 63) ≤ n ∧ n < 2 ^ 64 then whole n else real (Float.ofInt n)

def ofNat (n : Nat) : Value := ofInt n

def ofBool (b : Bool) : Value := if b then whole 1 else both 0 []

/-! ## Numbers -/

def realText (x : Float) : List Char :=
  if x == 0 then ['0']
  else if x == x then
    if x.isInf then (if x < 0 then "-Inf" else "Inf").toList else (Slot.real ⟨[], 0, some 15⟩ 'g' x)
  else "NaN".toList

/-- The number that a text begins with, and what follows it. -/
def front (s : List Char) : Value × List Char :=
  let body := s.dropWhile Awk.isGap
  let (negative, digits) := Literal.sign body
  let plain := digits.takeWhile Char.isDigit
  let rest := digits.drop plain.length
  let isWhole := !plain.isEmpty && !(match rest with
    | '.' :: _ => true
    | 'e' :: _ | 'E' :: _ => true
    | _ => false)
  let n : Int := ofDigits plain
  let n := if negative then -n else n
  if isWhole && -(2 ^ 63) ≤ n && n < 2 ^ 64 then (whole n, rest)
  else
    match Awk.decimalFront? digits with
    | some (l, rest) => (real (if negative then -l.toDouble else l.toDouble), rest)
    | none =>
      let word (w : String) : Option (List Char) := Text.dropFront? w.toList (digits.map Char.toLower)
      let infinite : Value := real (if negative then -1 / 0 else 1 / 0)
      match word "infinity", word "inf", word "nan" with
      | some _, _, _ => (infinite, digits.drop 8)
      | none, some _, _ => (infinite, digits.drop 3)
      | none, none, some _ => (real (0 / 0), digits.drop 3)
      | none, none, none => (whole 0, s)

/-- A text spells a number and nothing else. -/
def looksNumeric (s : List Char) : Bool :=
  let rest := (front s).2
  rest.length < s.length && rest.all Awk.isGap

/-- The value as a number: a whole one, or one that is not. -/
def toNumber : Value → Value
  | missing => whole 0
  | whole n => whole n
  | real x => real x
  | text s => (front s).1
  | both n _ => whole n
  | refer _ id => whole (94000000000000 + 24 * id)

def toFloat (v : Value) : Float :=
  match v.toNumber with
  | real x => x
  | whole n => Float.ofInt n
  | _ => 0

/-- The value as a whole number: what stands behind the point is left out. -/
def toInt (v : Value) : Int :=
  match v.toNumber with
  | real x => Awk.truncated x
  | whole n => n
  | _ => 0

def toNat (v : Value) : Nat := v.toInt.toNat

/-- The value as 64 bits. -/
def toBits (v : Value) : Nat := (v.toInt % 2 ^ 64).toNat

/-! ## Texts -/

def Kind.name : Kind → String
  | .scalar => "SCALAR"
  | .array => "ARRAY"
  | .hash => "HASH"
  | .code => "CODE"
  | .handle => "GLOB"
  | .pattern => "Regexp"

/-- The value as a text; what a pattern is written as is told from outside. -/
def toText : Value → List Char
  | missing => []
  | whole n => (toString n).toList
  | real x => realText x
  | text s => s
  | both _ s => s
  | refer kind id => (Kind.name kind).toList ++ "(0x".toList ++ Nat.toDigits 16 (94000000000000 + 24 * id) ++ [')']

def isTrue : Value → Bool
  | missing => false
  | whole n => n != 0
  | real x => x != 0
  | text s => !s.isEmpty && s != ['0']
  | both _ s => !s.isEmpty && s != ['0']
  | refer .. => true

def isSet : Value → Bool
  | missing => false
  | _ => true

/-! ## Computing -/

/-- Two numbers computed with exactly if both are whole, and with double precision otherwise. -/
def combined (exact : Int → Int → Int) (rough : Float → Float → Float) (a b : Value) : Value :=
  match a.toNumber, b.toNumber with
  | whole m, whole n => ofInt (exact m n)
  | a, b => real (rough a.toFloat b.toFloat)

def add : Value → Value → Value := combined (· + ·) (· + ·)

def subtract : Value → Value → Value := combined (· - ·) (· - ·)

def multiply : Value → Value → Value := combined (· * ·) (· * ·)

/-- Nothing if it is divided by zero. -/
def divide? (a b : Value) : Option Value :=
  if b.toFloat == 0 then none
  else
    match a.toNumber, b.toNumber with
    | whole m, whole n => some (if m % n = 0 then ofInt (m / n) else real (Float.ofInt m / Float.ofInt n))
    | a, b => some (real (a.toFloat / b.toFloat))

/-- What is left of a division, with the sign of what is divided by. -/
def remainder? (a b : Value) : Option Value :=
  let n := b.toInt
  if n = 0 then none else some (ofInt (a.toInt.fmod n))

/-- How many bits a number has. -/
def bitCount (n : Nat) : Nat := if n = 0 then 0 else n.log2 + 1

def power (a b : Value) : Value :=
  match a.toNumber, b.toNumber with
  | whole m, whole n =>
    let base := m.natAbs
    let isPowerOfTwo := base != 0 && base == 2 ^ base.log2
    let exact := 0 ≤ n && !isPowerOfTwo && bitCount base * n.toNat ≤ 64
    if exact then ofInt (m ^ n.toNat) else real (Float.pow (Float.ofInt m) (Float.ofInt n))
  | a, b => real (Float.pow a.toFloat b.toFloat)

def negate (v : Value) : Value :=
  match v with
  | text s =>
    match s with
    | [] => whole 0
    | '-' :: rest => if (rest.head?.map fun c => c.isAlpha || c == '_').getD false then text ('+' :: rest) else
        subtract (whole 0) v
    | '+' :: rest => if (rest.head?.map fun c => c.isAlpha || c == '_').getD false then text ('-' :: rest) else
        subtract (whole 0) v
    | c :: _ => if c.isAlpha || c == '_' then text ('-' :: s) else subtract (whole 0) v
  | v =>
    match v.toNumber with
    | real x => real (-x)
    | v => subtract (whole 0) v

/-- Two numbers compared; nothing if one of them is none. -/
def order? (a b : Value) : Option Ordering :=
  match a.toNumber, b.toNumber with
  | whole m, whole n => some (compare m n)
  | a, b =>
    let (x, y) := (a.toFloat, b.toFloat)
    if x < y then some .lt else if y < x then some .gt else if x == y then some .eq else none

/-! ## Steps -/

/-- A text of letters with digits behind them one step on, from its end on; whether one more place is needed. -/
def stepped : List Char → List Char × Bool
  | [] => ([], true)
  | c :: rest =>
    let carry (first : Char) : List Char × Bool :=
      let (more, over_) := stepped rest
      (first :: more, over_)
    if c = 'z' then carry 'a'
    else if c = 'Z' then carry 'A'
    else if c = '9' then carry '0'
    else (Char.ofNat (c.toNat + 1) :: rest, false)

def isStepped (s : List Char) : Bool :=
  let letters := s.takeWhile Char.isAlpha
  !letters.isEmpty && (s.drop letters.length).all Char.isDigit

/-- The value one step on. -/
def next (v : Value) : Value :=
  match v with
  | text s =>
    if isStepped s then
      let (back, over_) := stepped s.reverse
      let first := s.headD 'a'
      let new := if first.isDigit then '1' else if first.isUpper then 'A' else 'a'
      text (if over_ then new :: back.reverse else back.reverse)
    else add v (whole 1)
  | v => add v (whole 1)

/-! ## Formats -/

/-- A value at a place of some kind, if there is such a kind. -/
def placed? (slot : Slot) (kind : Char) (v : Value) (shown : List Char) : Option (List Char) :=
  let cut (s : List Char) : List Char := (slot.precision.map (s.take ·)).getD s
  let filledUp (s : List Char) : List Char :=
    if slot.has '0' && !slot.has '-' then List.replicate (slot.width - s.length) '0' ++ s else slot.pad s
  match kind with
  | 'd' | 'i' =>
    match v.toNumber with
    | .real x =>
      if x == x && !x.isInf then some (slot.integer (min (max (Awk.truncated x) (-(2 ^ 63))) (2 ^ 63 - 1)))
      else some (slot.pad (realText x))
    | v => some (slot.integer v.toInt)
  | 'u' | 'o' | 'x' | 'X' => some (slot.based kind v.toBits)
  | 'b' | 'B' =>
    let digits := slot.wholeDigits (Nat.toDigits 2 v.toBits)
    some (slot.padNumber slot.precision.isNone (if slot.has '#' && v.toBits != 0 then ['0', kind] else []) digits)
  | 'e' | 'E' | 'f' | 'F' | 'g' | 'G' =>
    let x := v.toFloat
    if x == x && !x.isInf then some (slot.real kind x) else some (slot.pad (realText x))
  | 'c' => some (slot.pad [Char.ofNat v.toNat])
  | 's' => some (filledUp (cut shown))
  | _ => none

/-- A format filled in with values, each with its text. Every unit of fuel pays for a character. -/
def formatted (all : List (Value × List Char)) : Nat → List Char → List (Value × List Char) → List Char
  | 0, _, _ => []
  | _ + 1, [], _ => []
  | fuel + 1, '%' :: '%' :: rest, args => '%' :: formatted all fuel rest args
  | fuel + 1, '%' :: rest, args =>
    let number := rest.takeWhile Char.isDigit
    let (chosen, rest) := match number, rest.drop number.length with
      | _ :: _, '$' :: rest => (some (ofDigits number), rest)
      | _, _ => (none, rest)
    let flags := rest.takeWhile fun c => "-+ 0#".toList.contains c
    let extent (s : List Char) (args : List (Value × List Char)) : Option Int × List Char × List (Value × List Char) :=
      match s, args with
      | '*' :: rest, (v, _) :: more => (some v.toInt, rest, more)
      | '*' :: rest, [] => (some 0, rest, [])
      | s, args =>
        let digits := s.takeWhile Char.isDigit
        (if digits.isEmpty then none else some (ofDigits digits : Nat), s.drop digits.length, args)
    let (width, body, args) := extent (rest.drop flags.length) args
    let (precision, body, args) := match body with
      | '.' :: body =>
        let (found, body, args) := extent body args
        (some (found.getD 0), body, args)
      | body => (none, body, args)
    let width := width.getD 0
    let slot : Slot := ⟨if width < 0 then '-' :: flags else flags, width.natAbs,
      (precision.filter (0 ≤ ·)).map Int.toNat⟩
    let body := body.dropWhile fun c => c == 'l' || c == 'h' || c == 'q' || c == 'L' || c == 'V'
    match body with
    | [] => '%' :: rest
    | kind :: after =>
      let (v, s) := match chosen with
        | some n => all.getD (n - 1) (.missing, [])
        | none => args.headD (.missing, [])
      match placed? slot kind v s with
      | some s => s ++ formatted all fuel after (if chosen.isSome then args else args.tail)
      | none => '%' :: formatted all fuel rest args
  | fuel + 1, c :: rest, args => c :: formatted all fuel rest args

end Value

end DiagramStudio.Script.Perl
