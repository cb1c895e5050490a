import DiagramStudio.Script.Basic

/-!
Patterns of scripts, for names of files and for the ends of values: an asterisk matches any text, a
question mark any character, and brackets one of the characters between them.
-/

namespace DiagramStudio.Script

/-- A character, and whether it stands for itself even in a pattern. -/
abbrev Letter := Char × Bool

/-- A sign of a pattern. -/
inductive Sign where
  | one (c : Char)
  | any
  | many
  /-- A character in one of the ranges, or in none of them. -/
  | among (negated : Bool) (ranges : List (Char × Char))
deriving Repr, DecidableEq, Inhabited

namespace Sign

/-- The characters of a named class, as ranges. -/
def classOf? (name : String) : Option (List (Char × Char)) :=
  match name with
  | "alnum" => some [('a', 'z'), ('A', 'Z'), ('0', '9')]
  | "alpha" => some [('a', 'z'), ('A', 'Z')]
  | "blank" => some [(' ', ' '), ('\t', '\t')]
  | "cntrl" => some [('\x00', '\x1f'), ('\x7f', '\x7f')]
  | "digit" => some [('0', '9')]
  | "graph" => some [('!', '~')]
  | "lower" => some [('a', 'z')]
  | "print" => some [(' ', '~')]
  | "punct" => some [('!', '/'), (':', '@'), ('[', '\x60'), ('\x7b', '~')]
  | "space" => some [('\t', '\r'), (' ', ' ')]
  | "upper" => some [('A', 'Z')]
  | "xdigit" => some [('0', '9'), ('a', 'f'), ('A', 'F')]
  | _ => none

/-- The class named at the front of the text behind `[:`, and what follows it. -/
def namedClass? (s : List Char) : Option (List (Char × Char) × List Char) :=
  (Text.cutAt? ":]".toList s).bind fun (name, rest) =>
    (classOf? (String.ofList name)).map fun ranges => (ranges, rest)

/-- The ranges up to the bracket that closes them, and what follows that. `first` says that a bracket
    would be the first character, which does not close. Every unit of fuel pays for a letter. -/
def ranges? (first : Bool) : Nat → List Letter → Option (List (Char × Char) × List Letter)
  | 0, _ => none
  | fuel + 1, s =>
    let more (found : List (Char × Char)) (rest : List Letter) :=
      (ranges? false fuel rest).map fun (others, after) => (found ++ others, after)
    match s with
    | [] => none
    | (c, literal) :: rest =>
      if c = ']' ∧ !literal ∧ !first then some ([], rest)
      else
        match if c = '[' ∧ !literal then
            match rest with
            | (':', _) :: inside => (namedClass? (inside.map (·.1))).map fun (found, after) =>
              (found, inside.drop (inside.length - after.length))
            | _ => none
          else none with
        | some (found, rest) => more found rest
        | none =>
          match rest with
          | ('-', false) :: (d, quoted) :: after =>
            if d = ']' ∧ !quoted then more [(c, c)] rest else more [(c, d)] after
          | _ => more [(c, c)] rest

/-- The signs of a pattern. A bracket that is not closed stands for itself. Every unit of fuel pays for
    a letter. -/
def read : Nat → List Letter → List Sign
  | 0, _ => []
  | _ + 1, [] => []
  | fuel + 1, (c, literal) :: rest =>
    if literal then one c :: read fuel rest
    else
      match c with
      | '*' => many :: read fuel rest
      | '?' => any :: read fuel rest
      | '[' =>
        let (negated, inside) := match rest with
          | ('!', false) :: inside => (true, inside)
          | ('^', false) :: inside => (true, inside)
          | _ => (false, rest)
        match ranges? true (inside.length + 1) inside with
        | some (found, after) => among negated found :: read fuel after
        | none => one c :: read fuel rest
      | _ => one c :: read fuel rest

/-- The signs of a pattern. -/
def ofLetters (s : List Letter) : List Sign := read s.length s

/-- The ranges hold a character. -/
def within (ranges : List (Char × Char)) (c : Char) : Bool :=
  ranges.any fun (low, high) => low ≤ c && c ≤ high

/-- The parts of a text from each of its places on. -/
def suffixes : List Char → List (List Char)
  | [] => [[]]
  | c :: rest => (c :: rest) :: suffixes rest

/-- A pattern matches the whole of a text. -/
def matchAll : List Sign → List Char → Bool
  | [], s => s.isEmpty
  | many :: more, s => (suffixes s).any fun rest => matchAll more rest
  | one c :: more, d :: rest => c == d && matchAll more rest
  | any :: more, _ :: rest => matchAll more rest
  | among negated ranges :: more, d :: rest => (within ranges d != negated) && matchAll more rest
  | _, [] => false

/-- A text without the shortest or longest part at its front or end that a pattern matches. -/
def trim (signs : List Sign) (atEnd longest : Bool) (s : List Char) : List Char :=
  let lengths := List.range (s.length + 1)
  let lengths := if longest then lengths.reverse else lengths
  let part (n : Nat) : List Char := if atEnd then s.drop (s.length - n) else s.take n
  match lengths.find? fun n => matchAll signs (part n) with
  | some n => if atEnd then s.take (s.length - n) else s.drop n
  | none => s

/-- The letters have a sign of a pattern among them. -/
def isPattern (s : List Letter) : Bool :=
  s.any fun (c, literal) => !literal && (c == '*' || c == '?' || c == '[')

end Sign

end DiagramStudio.Script
