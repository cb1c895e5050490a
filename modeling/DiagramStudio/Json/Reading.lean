import DiagramStudio.Json.Value

/-!
Reading JSON: the grammar of RFC 8259 over bytes, without extensions. White space is space, tab, line
feed and carriage return; nothing but white space may follow the document; strings are checked for
raw control characters and for their escapes, not for what the escapes and bytes amount to.
-/

namespace DiagramStudio.Json

/-- White space between the tokens of a document. -/
def isSpace (b : UInt8) : Bool :=
  b == 0x20 || b == 0x09 || b == 0x0A || b == 0x0D

def skipSpace (s : List UInt8) : List UInt8 :=
  s.dropWhile isSpace

def isDigit (b : UInt8) : Bool :=
  byte '0' ≤ b && b ≤ byte '9'

/-- The rest of a string behind its opening quote: the bytes up to the closing quote and what follows
    that. -/
def quoted? : List UInt8 → Option (List UInt8 × List UInt8)
  | [] => none
  | 0x22 :: rest => some ([], rest)
  | 0x5C :: 0x75 :: a :: b :: c :: d :: rest =>
    if (Quoted.hex4? a b c d).isSome then
      (quoted? rest).map fun (raw, after) => (0x5C :: 0x75 :: a :: b :: c :: d :: raw, after)
    else none
  | 0x5C :: b :: rest =>
    if (Quoted.escapeOf? b).isSome then
      (quoted? rest).map fun (raw, after) => (0x5C :: b :: raw, after)
    else none
  | b :: rest =>
    if b < 0x20 || b == 0x5C then none
    else (quoted? rest).map fun (raw, after) => (b :: raw, after)

/-- A row of at least one digit. -/
def digits? (s : List UInt8) : Option (List UInt8 × List UInt8) :=
  if (s.takeWhile isDigit).isEmpty then none else some (s.takeWhile isDigit, s.dropWhile isDigit)

/-- The whole part of a number: no zero in front of another digit. -/
def whole? (s : List UInt8) : Option (List UInt8 × List UInt8) :=
  match s with
  | 0x30 :: rest =>
    match rest with
    | d :: _ => if isDigit d then none else some ([0x30], rest)
    | [] => some ([0x30], [])
  | _ => digits? s

/-- A point and the digits behind it, or nothing. -/
def fraction? (s : List UInt8) : Option (List UInt8 × List UInt8) :=
  match s with
  | 0x2E :: rest => (digits? rest).map fun (ds, after) => (0x2E :: ds, after)
  | _ => some ([], s)

/-- The mark of an exponent, its sign and digits, or nothing. -/
def exponent? (s : List UInt8) : Option (List UInt8 × List UInt8) :=
  match s with
  | b :: rest =>
    if b == byte 'e' || b == byte 'E' then
      match rest with
      | c :: more =>
        if c == byte '+' || c == byte '-' then
          (digits? more).map fun (ds, after) => (b :: c :: ds, after)
        else (digits? rest).map fun (ds, after) => (b :: ds, after)
      | [] => none
    else some ([], s)
  | [] => some ([], s)

/-- A minus, or nothing. -/
def minus (s : List UInt8) : List UInt8 × List UInt8 :=
  match s with
  | 0x2D :: rest => ([0x2D], rest)
  | _ => ([], s)

/-- A number and what follows it. -/
def number? (s : List UInt8) : Option (List UInt8 × List UInt8) := do
  let (sign, s) := minus s
  let (whole, s) ← whole? s
  let (fraction, s) ← fraction? s
  let (exponent, s) ← exponent? s
  return (sign ++ whole ++ fraction ++ exponent, s)

/-- The words that are documents of their own. -/
def words : List (List UInt8 × Json) :=
  [(word "null", .null), (word "true", .bool true), (word "false", .bool false)]

/-- A word or a number and what follows it. -/
def plain? (s : List UInt8) : Option (Json × List UInt8) :=
  match words.find? fun (spelling, _) => spelling.isPrefixOf s with
  | some (spelling, document) => some (document, s.drop spelling.length)
  | none => (number? s).map fun (literal, after) => (.number literal, after)

mutual

/-- A document at the front, after white space, and what follows it. Every two units of fuel pay for
    a byte that is read. -/
def document? : Nat → List UInt8 → Option (Json × List UInt8)
  | 0, _ => none
  | fuel + 1, s =>
    match skipSpace s with
    | [] => none
    | 0x22 :: rest => (quoted? rest).map fun (raw, after) => (.string ⟨raw⟩, after)
    | 0x5B :: rest =>
      match skipSpace rest with
      | 0x5D :: after => some (.array [], after)
      | _ => (items? fuel rest).map fun (found, after) => (.array found, after)
    | 0x7B :: rest =>
      match skipSpace rest with
      | 0x7D :: after => some (.object [], after)
      | _ => (members? fuel rest).map fun (found, after) => (.object found, after)
    | b :: rest => plain? (b :: rest)

/-- The items of an array, at least one, and what follows the closing bracket. -/
def items? : Nat → List UInt8 → Option (List Json × List UInt8)
  | 0, _ => none
  | fuel + 1, s =>
    match document? fuel s with
    | none => none
    | some (item, rest) =>
      match skipSpace rest with
      | 0x5D :: after => some ([item], after)
      | 0x2C :: more => (items? fuel more).map fun (found, after) => (item :: found, after)
      | _ => none

/-- The members of an object, at least one, and what follows the closing brace. -/
def members? : Nat → List UInt8 → Option (List (Quoted × Json) × List UInt8)
  | 0, _ => none
  | fuel + 1, s =>
    match skipSpace s with
    | 0x22 :: rest =>
      match quoted? rest with
      | none => none
      | some (key, rest) =>
        match skipSpace rest with
        | 0x3A :: rest =>
          match document? fuel rest with
          | none => none
          | some (value, rest) =>
            match skipSpace rest with
            | 0x7D :: after => some ([(⟨key⟩, value)], after)
            | 0x2C :: more =>
              (members? fuel more).map fun (found, after) => ((⟨key⟩, value) :: found, after)
            | _ => none
        | _ => none
    | _ => none

end

/-- The one document that the bytes spell. -/
def read? (s : List UInt8) : Option Json :=
  match document? (2 * s.length + 2) s with
  | some (document, rest) => if (skipSpace rest).isEmpty then some document else none
  | none => none

end DiagramStudio.Json
