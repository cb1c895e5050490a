import DiagramStudio.Script.Awk.Basic
import DiagramStudio.Script.Awk.Value

/-!
The words of programs that go through lines.
-/

namespace DiagramStudio.Script.Awk

inductive Token where
  | newline
  /-- A sign of punctuation or an operator. -/
  | mark (s : String)
  | number (x : Float) (spelling : List Char)
  | text (s : List Char)
  | regex (s : List Char)
  | name (s : List Char)
  /-- A name with a parenthesis right behind it. -/
  | call (s : List Char)
  | word (s : String)
deriving Repr, Inhabited

namespace Token

/-- The words of the language. -/
def words : List String :=
  ["BEGIN", "END", "function", "if", "else", "while", "for", "do", "break", "continue", "next", "nextfile", "exit",
    "return", "delete", "in", "getline", "print", "printf"]

/-- The names of what can be called. -/
def builtins : List String :=
  ["length", "sub", "gsub", "index", "split", "substr", "sprintf", "sin", "cos", "atan2", "exp", "log", "sqrt", "int",
    "rand", "srand", "close", "system", "match", "tolower", "toupper", "fflush", "mktime", "strftime", "systime"]

/-- Operators and punctuation; the longer ones come first. -/
def marks : List String :=
  ["+=", "-=", "*=", "/=", "%=", "^=", "==", "<=", ">=", "!=", "++", "--", "&&", "||", ">>", "!~", "\x7b", "\x7d",
    "(", ")", "[", "]", ";", ",", "+", "-", "*", "/", "%", "^", "!", ">", "<", "|", "?", ":", "~", "$", "="]

/-- The token as it is told. -/
def shown : Token → List Char
  | newline => "end of line".toList
  | mark s => s.toList
  | number _ spelling => spelling
  | text s => '"' :: s ++ ['"']
  | regex s => '/' :: s ++ ['/']
  | name s => s
  | call s => s
  | word s => s.toList

/-- The token ends an operand, so that a slash behind it divides. -/
def endsOperand : Token → Bool
  | number .. | text _ | regex _ | name _ => true
  | mark s => s == ")" || s == "]" || s == "$" || s == "++" || s == "--"
  | word s => builtins.contains s
  | _ => false

/-- What a backslash in a text stands for, and what follows it. -/
def escape (s : List Char) : List Char × List Char :=
  match s with
  | '"' :: rest => (['"'], rest)
  | '\\' :: rest => (['\\'], rest)
  | 'n' :: rest => (['\n'], rest)
  | 't' :: rest => (['\t'], rest)
  | 'r' :: rest => (['\r'], rest)
  | 'a' :: rest => (['\x07'], rest)
  | 'b' :: rest => (['\x08'], rest)
  | 'f' :: rest => (['\x0c'], rest)
  | 'v' :: rest => (['\x0b'], rest)
  | '\n' :: rest => ([], rest)
  | 'x' :: rest =>
    let digits := (rest.take 2).takeWhile isHex
    if digits.isEmpty then (['\\', 'x'], rest)
    else ([Char.ofNat (digits.foldl (fun n c => n * 16 + hexValue c) 0)], rest.drop digits.length)
  | c :: rest =>
    let digits := (s.take 3).takeWhile fun d => '0' ≤ d && d ≤ '7'
    if digits.isEmpty then (['\\', c], rest)
    else ([Char.ofNat (digits.foldl (fun n d => n * 8 + (d.toNat - '0'.toNat)) 0 % 256)], s.drop digits.length)
  | [] => (['\\'], [])

/-- A text up to the quote that closes it, and what follows; nothing if none does. Every unit of fuel pays for a
    character. -/
def textBody : Nat → List Char → Option (List Char × List Char)
  | 0, _ => none
  | _ + 1, [] => none
  | _ + 1, '"' :: rest => some ([], rest)
  | _ + 1, '\n' :: _ => none
  | fuel + 1, '\\' :: rest =>
    let (found, rest) := escape rest
    (textBody fuel rest).map fun (s, rest) => (found ++ s, rest)
  | fuel + 1, c :: rest => (textBody fuel rest).map fun (s, rest) => (c :: s, rest)

/-- An expression up to the slash that closes it, and what follows; nothing if none does. `inside` says that it
    stands between brackets. Every unit of fuel pays for a character. -/
def regexBody : Nat → (inside : Bool) → List Char → Option (List Char × List Char)
  | 0, _, _ => none
  | _ + 1, _, [] => none
  | _ + 1, _, '\n' :: _ => none
  | fuel + 1, inside, '\\' :: c :: rest =>
    (regexBody fuel inside rest).map fun (s, rest) => ((if c = '/' then [c] else ['\\', c]) ++ s, rest)
  | fuel + 1, inside, c :: rest =>
    if c = '/' ∧ !inside then some ([], rest)
    else
      let next := if inside then c != ']' else c == '[' && rest.contains ']'
      let (front, rest) := if c = '[' ∧ next ∧ rest.head? = some ']' then ([c, ']'], rest.tail) else ([c], rest)
      (regexBody fuel next rest).map fun (s, rest) => (front ++ s, rest)

/-- The mark at the front of a text. -/
def mark? (s : List Char) : Option (String × List Char) :=
  marks.findSome? fun m => (Text.dropFront? m.toList s).map fun rest => (m, rest)

/-- The tokens of a text, each with its line. `last` is the token before. Every unit of fuel pays for a
    character. -/
def readFrom : Nat → (line : Nat) → (last : Option Token) → List Char → Except ProgramFault (List (Token × Nat))
  | 0, _, _, _ => .ok []
  | fuel + 1, line, last, s =>
    let go (t : Token) (rest : List Char) : Except ProgramFault (List (Token × Nat)) :=
      (readFrom fuel line (some t) rest).map ((t, line) :: ·)
    match s with
    | [] => .ok []
    | '\n' :: rest => (readFrom fuel (line + 1) (some .newline) rest).map ((.newline, line) :: ·)
    | '\\' :: '\n' :: rest => readFrom fuel (line + 1) last rest
    | '\\' :: '\r' :: '\n' :: rest => readFrom fuel (line + 1) last rest
    | '#' :: rest => readFrom fuel line last (rest.dropWhile (· != '\n'))
    | c :: rest =>
      if c = ' ' ∨ c = '\t' ∨ c = '\r' ∨ c = '\x0c' ∨ c = '\x0b' then readFrom fuel line last rest
      else if c = '"' then
        match textBody (rest.length + 1) rest with
        | some (body, rest) => go (.text body) rest
        | none =>
          .error ⟨line, false, "runaway string constant \"".toList ++ (rest.takeWhile (· != '\n')).take 10 ++ " ...".toList⟩
      else if c = '/' ∧ !(last.map endsOperand).getD false then
        match regexBody (rest.length + 1) false rest with
        | some (body, rest) => go (.regex body) rest
        | none =>
          .error ⟨line, false, "runaway regular expression /".toList ++ (rest.takeWhile (· != '\n')).take 10 ++ " ...".toList⟩
      else if c.isDigit ∨ (c = '.' ∧ (rest.head?.map Char.isDigit).getD false) then
        let (x, after) := ((decimalFront? s).map fun (l, after) => (l.toDouble, after)).getD (0, rest)
        go (.number x (s.take (s.length - after.length))) after
      else if c.isAlpha ∨ c = '_' then
        let name := s.takeWhile fun d => d.isAlphanum || d == '_'
        let after := s.drop name.length
        let word := String.ofList name
        if words.contains word || builtins.contains word then go (.word word) after
        else if after.head? = some '(' then go (.call name) after
        else go (.name name) after
      else
        match mark? s with
        | some (m, rest) => go (.mark m) rest
        | none => .error ⟨line, true, "unexpected character '".toList ++ [c, '\'']⟩

/-- The tokens of a program, which a line end follows. -/
def read (s : List Char) : Except ProgramFault (List (Token × Nat)) :=
  let s := if s.getLast? = some '\n' then s else s ++ ['\n']
  readFrom (s.length + 1) 1 none s

end Token

end DiagramStudio.Script.Awk
