import DiagramStudio.Text.White
import DiagramStudio.Number.Literal

/-!
Strings of the TOML format: between double quotes with escapes, between single quotes without, each
on one line or, between three quotes, on several; and how a text is written as such a string.
-/

namespace DiagramStudio.Toml

open Number

/-- Spaces and tabs. -/
def isBlank (c : Char) : Bool :=
  c == ' ' || c == '\t'

/-- A character that may not stand in a document as it is. -/
def isControl (c : Char) : Bool :=
  (c.toNat < 0x20 && c != '\t') || c.toNat == 0x7F

/-- What follows the end of a line, if one stands at the front. -/
def afterNewline? : List Char → Option (List Char)
  | '\n' :: rest => some rest
  | '\r' :: '\n' :: rest => some rest
  | _ => none

/-- The value of a hexadecimal digit. -/
def hexValue? (c : Char) : Option Nat :=
  if '0' ≤ c ∧ c ≤ '9' then some (c.toNat - '0'.toNat)
  else if 'a' ≤ c ∧ c ≤ 'f' then some (c.toNat - 'a'.toNat + 10)
  else if 'A' ≤ c ∧ c ≤ 'F' then some (c.toNat - 'A'.toNat + 10)
  else none

/-- The number that hexadecimal digits spell, behind the digits of `n`. -/
def hexNumber? (n : Nat) : List Char → Option Nat
  | [] => some n
  | c :: rest => (hexValue? c).bind fun d => hexNumber? (16 * n + d) rest

/-- The character that `count` hexadecimal digits at the front stand for, and what follows them. -/
def codePoint? (count : Nat) (s : List Char) : Option (Char × List Char) :=
  if s.length < count then none
  else
    (hexNumber? 0 (s.take count)).bind fun n =>
      if n.isValidChar then some (Char.ofNat n, s.drop count) else none

/-- The character that the text behind a backslash stands for, and what follows it. -/
def escape? : List Char → Option (Char × List Char)
  | 'b' :: rest => some ('\x08', rest)
  | 't' :: rest => some ('\t', rest)
  | 'n' :: rest => some ('\n', rest)
  | 'f' :: rest => some ('\x0c', rest)
  | 'r' :: rest => some ('\r', rest)
  | 'e' :: rest => some ('\x1b', rest)
  | '"' :: rest => some ('"', rest)
  | '\\' :: rest => some ('\\', rest)
  | 'x' :: rest => codePoint? 2 rest
  | 'u' :: rest => codePoint? 4 rest
  | 'U' :: rest => codePoint? 8 rest
  | _ => none

theorem length_escape? {s rest : List Char} {c : Char} (h : escape? s = some (c, rest)) :
    rest.length < s.length := by
  unfold escape? at h
  split at h <;>
    first
      | (cases h; simp)
      | (simp only [codePoint?] at h
         split at h
         · cases h
         · simp only [Option.bind_eq_some_iff] at h
           obtain ⟨n, _, h⟩ := h
           split at h
           · cases h; simp only [List.length_drop, List.length_cons]; omega
           · cases h)
      | cases h

/-- Blanks and ends of lines at the front left out. -/
def skipLines : List Char → List Char
  | [] => []
  | '\r' :: '\n' :: rest => skipLines rest
  | c :: rest => if isBlank c || c == '\n' then skipLines rest else c :: rest

theorem length_skipLines_le (s : List Char) : (skipLines s).length ≤ s.length := by
  fun_induction skipLines s with
  | case1 => simp
  | case2 rest ih => simp only [List.length_cons]; omega
  | case3 c rest _ _ ih => simp only [List.length_cons]; omega
  | case4 => simp

/-- The rest of a string on one line behind its opening quote: its text, and what follows the closing
    quote. -/
def basic? : List Char → Option (List Char × List Char)
  | [] => none
  | '"' :: rest => some ([], rest)
  | '\\' :: rest =>
    match _h : escape? rest with
    | some (c, after) => (basic? after).map fun (text, behind) => (c :: text, behind)
    | none => none
  | c :: rest =>
    if isControl c then none else (basic? rest).map fun (text, behind) => (c :: text, behind)
termination_by s => s.length
decreasing_by
  · have := length_escape? _h; simp only [List.length_cons]; omega
  · simp

/-- The rest of a string on several lines: up to two quotes may stand in front of the three that
    close it, and a backslash at the end of a line takes all white space behind it away. -/
def basicLines? : List Char → Option (List Char × List Char)
  | [] => none
  | '"' :: '"' :: '"' :: '"' :: '"' :: rest => some (['"', '"'], rest)
  | '"' :: '"' :: '"' :: '"' :: rest => some (['"'], rest)
  | '"' :: '"' :: '"' :: rest => some ([], rest)
  | '\\' :: rest =>
    match _h : escape? rest with
    | some (c, after) => (basicLines? after).map fun (text, behind) => (c :: text, behind)
    | none =>
      if (afterNewline? (rest.dropWhile isBlank)).isSome then basicLines? (skipLines rest) else none
  | '\r' :: '\n' :: rest => (basicLines? rest).map fun (text, behind) => ('\r' :: '\n' :: text, behind)
  | c :: rest =>
    if isControl c && c != '\n' then none
    else (basicLines? rest).map fun (text, behind) => (c :: text, behind)
termination_by s => s.length
decreasing_by
  · have := length_escape? _h; simp only [List.length_cons]; omega
  · have := length_skipLines_le rest; simp only [List.length_cons]; omega
  · simp only [List.length_cons]; omega
  · simp

/-- The rest of a string without escapes on one line. -/
def literal? : List Char → Option (List Char × List Char)
  | [] => none
  | c :: rest =>
    if c = '\'' then some ([], rest)
    else if isControl c then none
    else (literal? rest).map fun (text, behind) => (c :: text, behind)

/-- The rest of a string without escapes on several lines. -/
def literalLines? : List Char → Option (List Char × List Char)
  | [] => none
  | '\'' :: '\'' :: '\'' :: '\'' :: '\'' :: rest => some (['\'', '\''], rest)
  | '\'' :: '\'' :: '\'' :: '\'' :: rest => some (['\''], rest)
  | '\'' :: '\'' :: '\'' :: rest => some ([], rest)
  | '\r' :: '\n' :: rest => (literalLines? rest).map fun (text, behind) => ('\r' :: '\n' :: text, behind)
  | c :: rest =>
    if isControl c && c != '\n' then none
    else (literalLines? rest).map fun (text, behind) => (c :: text, behind)

/-- A string on one line at the front, and what follows it. -/
def lineString? : List Char → Option (List Char × List Char)
  | '"' :: rest => basic? rest
  | '\'' :: rest => literal? rest
  | _ => none

/-- A string of any kind at the front, and what follows it. The end of a line directly behind three
    opening quotes is not part of the text. -/
def string? (s : List Char) : Option (List Char × List Char) :=
  match s with
  | '"' :: '"' :: '"' :: rest => basicLines? ((afterNewline? rest).getD rest)
  | '\'' :: '\'' :: '\'' :: rest => literalLines? ((afterNewline? rest).getD rest)
  | _ => lineString? s

/-! ## Writing -/

def hexDigit (n : Nat) : Char :=
  if n < 10 then Char.ofNat ('0'.toNat + n) else Char.ofNat ('A'.toNat + (n - 10))

/-- A character as it is written between double quotes. -/
def quoteChar (c : Char) : List Char :=
  if c = '"' then ['\\', '"']
  else if c = '\\' then ['\\', '\\']
  else if c = '\n' then ['\\', 'n']
  else if isControl c then ['\\', 'u', '0', '0', hexDigit (c.toNat / 16), hexDigit (c.toNat % 16)]
  else [c]

/-- A text as a string on one line. -/
def quote (s : List Char) : List Char :=
  '"' :: s.flatMap quoteChar ++ ['"']

end DiagramStudio.Toml
