/-!
Base 64: bytes as characters of an alphabet of sixty-four, three bytes to four characters. The
reader takes exactly what the writer gives: no foreign character, no bits left over, and padding
where, and only where, the alphabet pads.
-/

namespace DiagramStudio.Text

/-- An alphabet: the letters and digits first, then the two characters given, and the character that
    fills the last group up to four, if any does. -/
structure Base64 where
  symbol62 : Char
  symbol63 : Char
  padding : Option Char
deriving Repr, DecidableEq

namespace Base64

/-- The alphabet of links: nothing that a link could mistake for its own punctuation. -/
def urlSafe : Base64 := ⟨'-', '_', none⟩

/-- The alphabet of data embedded in documents. -/
def standard : Base64 := ⟨'+', '/', some '='⟩

/-- The character for six bits. -/
def symbol (alphabet : Base64) (n : Nat) : Char :=
  if n < 26 then Char.ofNat ('A'.toNat + n)
  else if n < 52 then Char.ofNat ('a'.toNat + (n - 26))
  else if n < 62 then Char.ofNat ('0'.toNat + (n - 52))
  else if n = 62 then alphabet.symbol62
  else alphabet.symbol63

/-- The six bits that a character stands for. -/
def value? (alphabet : Base64) (c : Char) : Option Nat :=
  if 'A' ≤ c ∧ c ≤ 'Z' then some (c.toNat - 'A'.toNat)
  else if 'a' ≤ c ∧ c ≤ 'z' then some (c.toNat - 'a'.toNat + 26)
  else if '0' ≤ c ∧ c ≤ '9' then some (c.toNat - '0'.toNat + 52)
  else if c = alphabet.symbol62 then some 62
  else if c = alphabet.symbol63 then some 63
  else none

/-- The bits of the bytes in groups of six; the last group is filled up with zeros. -/
def sextets : List UInt8 → List Nat
  | [] => []
  | [a] => [a.toNat / 4, a.toNat % 4 * 16]
  | [a, b] => [a.toNat / 4, a.toNat % 4 * 16 + b.toNat / 16, b.toNat % 16 * 4]
  | a :: b :: c :: rest =>
    a.toNat / 4 :: (a.toNat % 4 * 16 + b.toNat / 16) :: (b.toNat % 16 * 4 + c.toNat / 64) ::
      c.toNat % 64 :: sextets rest

/-- The bytes whose bits the groups hold. A single group is too few for a byte, and the bits that
    fill up the last group must be zero. -/
def ofSextets? : List Nat → Option (List UInt8)
  | [] => some []
  | [_] => none
  | [p, q] => if q % 16 = 0 then some [UInt8.ofNat (p * 4 + q / 16)] else none
  | [p, q, r] =>
    if r % 4 = 0 then some [UInt8.ofNat (p * 4 + q / 16), UInt8.ofNat (q % 16 * 16 + r / 4)] else none
  | p :: q :: r :: s :: rest =>
    (ofSextets? rest).map fun bytes =>
      UInt8.ofNat (p * 4 + q / 16) :: UInt8.ofNat (q % 16 * 16 + r / 4) ::
        UInt8.ofNat (r % 4 * 64 + s) :: bytes

/-- The padding behind so many characters. -/
def fill (alphabet : Base64) (count : Nat) : List Char :=
  match alphabet.padding with
  | some c => List.replicate ((4 - count % 4) % 4) c
  | none => []

/-- The characters for the bytes. -/
def encode (alphabet : Base64) (bytes : List UInt8) : List Char :=
  let body := (sextets bytes).map alphabet.symbol
  body ++ alphabet.fill body.length

/-- The characters of a text in front of its padding. -/
def body (alphabet : Base64) (s : List Char) : List Char :=
  match alphabet.padding with
  | some c => s.takeWhile (· != c)
  | none => s

/-- The bytes that the characters stand for. -/
def decode? (alphabet : Base64) (s : List Char) : Option (List UInt8) :=
  let body := alphabet.body s
  if s = body ++ alphabet.fill body.length then (body.mapM alphabet.value?).bind ofSextets? else none

end Base64

end DiagramStudio.Text
