import DiagramStudio.Text.Utf8

/-!
JSON documents with their spellings kept. A string holds the bytes between its quotes as they were
written, so that a document can be looked into without every string in it being valid; its text is
read off by `Quoted.text?`. Writing a document puts no space anywhere.
-/

namespace DiagramStudio

/-- The bytes between the quotes of a JSON string. -/
structure Quoted where
  raw : List UInt8
deriving Repr, DecidableEq, Inhabited

/-- A JSON document. -/
inductive Json where
  | null
  | bool (value : Bool)
  /-- A number as it is spelled. -/
  | number (literal : List UInt8)
  | string (quoted : Quoted)
  | array (items : List Json)
  | object (members : List (Quoted × Json))
deriving Repr, Inhabited

/-- The byte of an ASCII character. -/
def byte (c : Char) : UInt8 := UInt8.ofNat c.toNat

namespace Quoted

/-- The value of a hexadecimal digit. -/
def hexValue? (b : UInt8) : Option Nat :=
  if byte '0' ≤ b ∧ b ≤ byte '9' then some (b.toNat - '0'.toNat)
  else if byte 'a' ≤ b ∧ b ≤ byte 'f' then some (b.toNat - 'a'.toNat + 10)
  else if byte 'A' ≤ b ∧ b ≤ byte 'F' then some (b.toNat - 'A'.toNat + 10)
  else none

/-- The value of four hexadecimal digits. -/
def hex4? (a b c d : UInt8) : Option Nat := do
  return (((← hexValue? a) * 16 + (← hexValue? b)) * 16 + (← hexValue? c)) * 16 + (← hexValue? d)

/-- The characters that a backslash and one letter stand for. -/
def escapeOf? (b : UInt8) : Option Char :=
  if b = byte '"' then some '"'
  else if b = byte '\\' then some '\\'
  else if b = byte '/' then some '/'
  else if b = byte 'b' then some '\x08'
  else if b = byte 'f' then some '\x0c'
  else if b = byte 'n' then some '\n'
  else if b = byte 'r' then some '\r'
  else if b = byte 't' then some '\t'
  else none

/-- The first of two escapes that make up one character. -/
def isLeading (n : Nat) : Bool := 0xD800 ≤ n && n ≤ 0xDBFF

/-- The second of two escapes that make up one character. -/
def isTrailing (n : Nat) : Bool := 0xDC00 ≤ n && n ≤ 0xDFFF

/-- The bytes of the string with every escape replaced. Half of a pair of escapes has none. -/
def unescape? : List UInt8 → Option (List UInt8)
  | [] => some []
  | 0x5C :: 0x75 :: a :: b :: c :: d :: rest =>
    match hex4? a b c d with
    | none => none
    | some n =>
      if isTrailing n then none
      else if isLeading n then
        match rest with
        | 0x5C :: 0x75 :: a' :: b' :: c' :: d' :: rest' =>
          match hex4? a' b' c' d' with
          | none => none
          | some m =>
            if isTrailing m then
              (unescape? rest').map
                (String.utf8EncodeChar (Char.ofNat (0x10000 + (n - 0xD800) * 0x400 + (m - 0xDC00))) ++ ·)
            else none
        | _ => none
      else (unescape? rest).map (String.utf8EncodeChar (Char.ofNat n) ++ ·)
  | 0x5C :: b :: rest =>
    match escapeOf? b with
    | some c => (unescape? rest).map (String.utf8EncodeChar c ++ ·)
    | none => none
  | b :: rest => if b = 0x5C then none else (unescape? rest).map (b :: ·)

/-- The text of the string, if it has one. -/
def text? (q : Quoted) : Option String :=
  ((unescape? q.raw).bind Text.Utf8.decode?).map String.ofList

/-- A hexadecimal digit, in small letters. -/
def hexDigit (n : Nat) : UInt8 :=
  if n < 10 then UInt8.ofNat ('0'.toNat + n) else UInt8.ofNat ('a'.toNat + (n - 10))

/-- A character as it is written in a string: quote, backslash and control characters escaped, those
    that have one by their letter, and all else as it is. -/
def escape (c : Char) : List UInt8 :=
  if c = '"' then [byte '\\', byte '"']
  else if c = '\\' then [byte '\\', byte '\\']
  else if c = '\x08' then [byte '\\', byte 'b']
  else if c = '\x0c' then [byte '\\', byte 'f']
  else if c = '\n' then [byte '\\', byte 'n']
  else if c = '\r' then [byte '\\', byte 'r']
  else if c = '\t' then [byte '\\', byte 't']
  else if c.toNat < 0x20 then
    [byte '\\', byte 'u', byte '0', byte '0', hexDigit (c.toNat / 16), hexDigit (c.toNat % 16)]
  else String.utf8EncodeChar c

/-- The string that spells a text. -/
def ofText (s : String) : Quoted :=
  ⟨s.toList.flatMap escape⟩

/-- The string with its quotes. -/
def render (q : Quoted) : List UInt8 :=
  byte '"' :: q.raw ++ [byte '"']

end Quoted

namespace Json

/-- The bytes of an ASCII word. -/
def word (s : String) : List UInt8 :=
  s.toList.map byte

mutual

/-- The document on one line, without a space. -/
def render : Json → List UInt8
  | .null => word "null"
  | .bool true => word "true"
  | .bool false => word "false"
  | .number literal => literal
  | .string q => q.render
  | .array items => byte '[' :: renderItems items
  | .object members => byte '\x7b' :: renderMembers members

/-- The items of an array and its end. -/
def renderItems : List Json → List UInt8
  | [] => [byte ']']
  | [item] => render item ++ [byte ']']
  | item :: more => render item ++ byte ',' :: renderItems more

/-- The members of an object and its end. -/
def renderMembers : List (Quoted × Json) → List UInt8
  | [] => [byte '\x7d']
  | [(key, value)] => key.render ++ byte ':' :: (render value ++ [byte '\x7d'])
  | (key, value) :: more => key.render ++ byte ':' :: (render value ++ byte ',' :: renderMembers more)

end

/-- A string with the given text. -/
def ofText (s : String) : Json := .string (.ofText s)

/-- A number without fraction. -/
def ofNat (n : Nat) : Json := .number (word (toString n))

/-- An object with the given names. -/
def ofMembers (members : List (String × Json)) : Json :=
  .object (members.map fun (name, value) => (.ofText name, value))

/-- The text of a string; nothing for any other document. -/
def text? : Json → Option String
  | .string q => q.text?
  | _ => none

end Json

end DiagramStudio
