import DiagramStudio.Script.Perl.Basic

/-!
Reading Perl character by character: blanks and remarks, names, and what stands between quotes.
-/

namespace DiagramStudio.Script.Perl

structure Reading where
  rest : List Char
  line : Nat
  /-- The text from the last word on that has been read. -/
  last : List Char
  /-- The name of the program. -/
  file : List Char
  /-- The functions that are known. -/
  functions : List (List Char)
  /-- Names have to be declared, and those that are. -/
  strict : Bool
  declared : List Variable
  /-- What is said of names that are not. -/
  undeclared : List (List Char)
  /-- Braces that are open. -/
  braces : Nat
  /-- Lines that have been read ahead of the line that is read now, and come behind it. -/
  ahead : Nat

abbrev Reader := StateT Reading (Except ProgramFault)

namespace Reader

def place (r : Reading) : List Char := " at ".toList ++ r.file ++ " line ".toList ++ (toString r.line).toList

def aborted (r : Reading) : List Char :=
  "Execution of ".toList ++ r.file ++ " aborted due to compilation errors.".toList

/-- How long the word, the number, the text or the sign in front is. -/
def tokenLength (s : List Char) : Nat :=
  match s with
  | [] => 0
  | c :: rest =>
    if c.isAlphanum || c == '_' then (s.takeWhile fun c => c.isAlphanum || c == '_').length
    else if c = '"' ∨ c = '\'' then (rest.takeWhile (· != c)).length + 2
    else if c = '$' ∨ c = '@' ∨ c = '%' ∨ c = '&' then (rest.takeWhile fun c => c.isAlphanum || c == '_').length + 1
    else if ["=>", "==", "!=", "<=", ">=", "&&", "||", "//", "..", "++", "--", "->", "=~", "**"].any
        fun sign => sign.toList.isPrefixOf s then 2
    else 1

/-- The program cannot be read from here on. -/
def unexpected {α : Type} : Reader α := do
  let r ← get
  let blank (c : Char) : Bool := c == ' ' || c == '\n' || c == '\t'
  let behind := r.rest.dropWhile blank
  if behind.isEmpty then
    let first := if 0 < r.braces then
        ["Missing right curly or square bracket".toList ++ place r ++ ", at end of line".toList] else []
    throw ⟨first ++ ["syntax error".toList ++ place r ++ ", at EOF".toList, aborted r]⟩
  else
    let near := r.last.take (r.last.length - behind.length + tokenLength behind)
    let first := if behind.head? = some '\x7d' ∧ r.braces = 0 then
        ["Unmatched right curly bracket".toList ++ place r ++ ", at end of line".toList] else []
    throw ⟨first ++ ["syntax error".toList ++ place r ++ ", near \"".toList ++ near ++ "\"".toList, aborted r]⟩

def fault {α : Type} (what : List Char) : Reader α := do
  let r ← get
  throw ⟨[what ++ place r ++ ['.']]⟩

def isNamePart (c : Char) : Bool := c.isAlphanum || c == '_'

/-- The text behind blanks, remarks and documentation, and the line that it is in. `start` says that a line
    begins. Every unit of fuel pays for a character. -/
def skipFrom : Nat → (start : Bool) → Nat → List Char → Nat × List Char
  | 0, _, line, s => (line, s)
  | _ + 1, _, line, [] => (line, [])
  | fuel + 1, _, line, '\n' :: rest => skipFrom fuel true (line + 1) rest
  | fuel + 1, start, line, c :: rest =>
    if c = ' ' ∨ c = '\t' ∨ c = '\r' ∨ c = '\x0c' then skipFrom fuel false line rest
    else if c = '#' then skipFrom fuel start line (rest.dropWhile (· != '\n'))
    else if c = '=' ∧ start ∧ (rest.head?.map Char.isAlpha).getD false then
      match Text.cutAt? "\n=cut".toList rest with
      | some (front, rest) =>
        skipFrom fuel false (line + 1 + front.count '\n') (rest.dropWhile (· != '\n'))
      | none => (line, [])
    else (line, c :: rest)

/-- The state behind so many lines more. -/
def after (r : Reading) (lines : Nat) (rest : List Char) : Reading :=
  if lines = 0 then { r with rest } else { r with rest, line := r.line + lines + r.ahead, ahead := 0 }

def skip : Reader Unit := modify fun r =>
  let (line, rest) := skipFrom (r.rest.length + 1) false r.line r.rest
  after r (line - r.line) rest

/-- So many characters are used up. -/
def take (n : Nat) : Reader Unit := modify fun r =>
  after { r with last := r.rest } ((r.rest.take n).count '\n') (r.rest.drop n)

def peek : Reader (Option Char) := return (← get).rest.head?

/-- A text stands in front, which is used up then. -/
def accept (s : String) : Reader Bool := do
  skip
  if s.toList.isPrefixOf (← get).rest then
    take s.length
    return true
  else return false

def expect (s : String) : Reader Unit := do
  if !(← accept s) then unexpected

/-- The word in front, without using it up. -/
def word : Reader (List Char) := do
  skip
  let rest := (← get).rest
  match rest with
  | c :: _ => return if c.isAlpha || c == '_' then rest.takeWhile isNamePart else []
  | [] => return []

/-- A word stands in front, which is used up then. -/
def acceptWord (w : String) : Reader Bool := do
  if (← word) = w.toList then
    take w.length
    return true
  else return false

/-- The name in front, of which the parts are cut by two colons. -/
def qualified (s : List Char) : List Char :=
  let rec more (fuel : Nat) (s : List Char) : List Char :=
    match fuel with
    | 0 => []
    | fuel + 1 =>
      let front := s.takeWhile isNamePart
      match s.drop front.length with
      | ':' :: ':' :: c :: rest =>
        if c.isAlpha || c == '_' then front ++ "::".toList ++ more fuel (c :: rest) else front
      | _ => front
  more (s.length + 1) s

/-- The sign that closes what another one opens. -/
def closing (c : Char) : Char :=
  match c with
  | '(' => ')'
  | '[' => ']'
  | '\x7b' => '\x7d'
  | '<' => '>'
  | c => c

/-- The text up to a sign that closes it, and what follows. Backslashes stay, but for those in front of the signs
    unless these are brackets. Every unit of fuel pays for a character. -/
def quotedBody (open_ close : Char) : Nat → (depth : Nat) → List Char → Option (List Char × List Char)
  | 0, _, _ => none
  | _ + 1, _, [] => none
  | fuel + 1, depth, '\\' :: c :: rest =>
    (quotedBody open_ close fuel depth rest).map fun (s, rest) =>
      ((if c = close ∧ open_ = close ∧ c ≠ '\\' then [c] else ['\\', c]) ++ s, rest)
  | fuel + 1, depth, c :: rest =>
    if c = close then
      if depth = 0 then some ([], rest)
      else (quotedBody open_ close fuel (depth - 1) rest).map fun (s, rest) => (c :: s, rest)
    else
      let depth := if c = open_ then depth + 1 else depth
      (quotedBody open_ close fuel depth rest).map fun (s, rest) => (c :: s, rest)

/-- What stands between the sign in front and the one that closes it; and the sign. -/
def quoted : Reader (Char × List Char) := do
  let r ← get
  match r.rest with
  | [] => unexpected
  | open_ :: rest =>
    let close := closing open_
    match quotedBody open_ close (rest.length + 1) 0 rest with
    | none =>
      let sign := if close = '"' then "'\"'".toList else ['"', close, '"']
      fault ("Can't find string terminator ".toList ++ sign ++ " anywhere before EOF".toList)
    | some (body, after) =>
      take (rest.length + 1 - after.length)
      return (open_, body)

/-- A text between single quotes: a backslash stands for itself unless another one follows. -/
def singleQuoted : List Char → List Char
  | '\\' :: '\\' :: rest => '\\' :: singleQuoted rest
  | c :: rest => c :: singleQuoted rest
  | [] => []

end Reader

end DiagramStudio.Script.Perl
