import DiagramStudio.Script.Machine
import DiagramStudio.Script.Sum

/-!
Conditions: words that ask about texts, numbers and files. A word may be an operator or an operand,
which its neighbours tell.
-/

namespace DiagramStudio.Script.Condition

/-- What kind of operator a word can be. -/
inductive Kind where
  /-- An operator in front of its only operand. -/
  | unary
  /-- An operator between its operands. -/
  | binary
  | not_
  | and_
  | or_
  | open_
  | close
deriving DecidableEq

def unaries : List String :=
  ["-r", "-w", "-x", "-e", "-f", "-d", "-c", "-b", "-p", "-u", "-g", "-k", "-s", "-t", "-z", "-n", "-h",
    "-O", "-G", "-L", "-S"]

def binaries : List String :=
  ["=", "!=", "<", ">", "-eq", "-ne", "-ge", "-gt", "-le", "-lt", "-nt", "-ot", "-ef"]

def kind? (word : List Char) : Option Kind :=
  let s := String.ofList word
  if unaries.contains s then some .unary
  else if binaries.contains s then some .binary
  else
    match s with
    | "!" => some .not_
    | "-a" => some .and_
    | "-o" => some .or_
    | "(" => some .open_
    | ")" => some .close
    | _ => none

/-- A word with nothing behind it is an operand, and so is one in front of an operator with something
    behind it. -/
def isOperand : List (List Char) → Bool
  | [] => true
  | [_] => true
  | [_, _] => false
  | _ :: next :: _ => kind? next == some .binary

/-- What the first word is, as an operator. -/
def operator? (words : List (List Char)) : Option Kind :=
  match words with
  | [] => none
  | w :: rest =>
    match kind? w with
    | some .unary => if isOperand words then none else some .unary
    | some .open_ => if rest.isEmpty then none else some .open_
    | k => k

/-- Why a condition cannot be told. -/
abbrev Fault := List Char

/-- The number that a word spells in base ten. -/
def number (word : List Char) : Except Fault Int :=
  let isGap (c : Char) : Bool := c == ' ' || ('\t' ≤ c && c ≤ '\r')
  let s := ((word.dropWhile isGap).reverse.dropWhile isGap).reverse
  let (negative, digits) := match s with
    | '-' :: rest => (true, rest)
    | '+' :: rest => (false, rest)
    | _ => (false, s)
  if !digits.isEmpty && digits.all Char.isDigit then
    let n : Int := (Sum.digits 10 0 digits).1
    .ok (Sum.clamp (if negative then -n else n))
  else .error ("Illegal number: ".toList ++ word)

/-- What a path leads to. -/
def node? (disk : Disk) (path : List Char) : Option Node :=
  (disk.locate (pathOf path)).toOption.bind disk.nodeAt?

/-- What a path leads to fits a test. -/
def fits (disk : Disk) (path : List Char) (test : Node → Bool) : Bool := ((node? disk path).map test).getD false

/-- A file, a queue, or whatever else a content is, by a letter. -/
def kindLetter : Content → Char
  | .file _ => 'f'
  | .directory => 'd'
  | .link _ => 'l'
  | .queue => 'p'
  | .device _ => 'c'

/-- What is asked of one operand. -/
def ofOne (disk : Disk) (op : String) (operand : List Char) : Except Fault Bool :=
  let has (test : Node → Bool) : Except Fault Bool := .ok (fits disk operand test)
  let isA (letter : Char) : Except Fault Bool := has fun n => kindLetter n.content == letter
  match op with
  | "-z" => .ok operand.isEmpty
  | "-n" => .ok !operand.isEmpty
  | "-t" => (number operand).map fun _ => false
  | "-e" => has fun _ => true
  | "-d" => isA 'd'
  | "-f" => isA 'f'
  | "-c" => isA 'c'
  | "-p" => isA 'p'
  | "-r" => has (·.allows .read)
  | "-w" => has (·.allows .write)
  | "-x" => has (·.allows .enter)
  | "-s" => has fun n =>
    match n.content with
    | .file bytes => !bytes.isEmpty
    | .directory => true
    | _ => false
  | "-h" | "-L" => .ok (match (disk.locateSelf (pathOf operand)).toOption.bind disk.at? with
    | some (.link _) => true
    | _ => false)
  | "-O" | "-G" => has (·.owned)
  | "-u" => has fun n => n.mode / 0o4000 % 2 == 1
  | "-g" => has fun n => n.mode / 0o2000 % 2 == 1
  | "-k" => has fun n => n.mode / 0o1000 % 2 == 1
  | _ => .ok false

/-- How a file that is there compares with one that is not. -/
inductive Ages where
  /-- It does not. -/
  | strict
  /-- It is newer. -/
  | lenient
deriving DecidableEq

/-- A file is newer than another. -/
def isNewer (disk : Disk) (ages : Ages) (left right : List Char) : Bool :=
  match node? disk left, node? disk right with
  | some a, some b => b.changed < a.changed
  | some _, none => ages == .lenient
  | _, _ => false

/-- What is asked of two operands. -/
def ofTwo (disk : Disk) (ages : Ages) (op : String) (left right : List Char) : Except Fault Bool :=
  let compare (holds : Int → Int → Bool) : Except Fault Bool := do
    return holds (← number left) (← number right)
  match op with
  | "=" => .ok (left == right)
  | "!=" => .ok (left != right)
  | "<" => .ok (left < right)
  | ">" => .ok (right < left)
  | "-eq" => compare (· == ·)
  | "-ne" => compare (· != ·)
  | "-ge" => compare fun a b => decide (a ≥ b)
  | "-gt" => compare fun a b => decide (a > b)
  | "-le" => compare fun a b => decide (a ≤ b)
  | "-lt" => compare fun a b => decide (a < b)
  | "-ef" => .ok (match disk.locate (pathOf left), disk.locate (pathOf right) with
    | .ok a, .ok b => disk.numberAt? a == disk.numberAt? b
    | _, _ => false)
  | "-nt" => .ok (isNewer disk ages left right)
  | "-ot" => .ok (isNewer disk ages right left)
  | _ => .ok false

def missing (op : List Char) : Fault := op ++ ": argument expected".toList

mutual

/-- Conditions of which one has to hold. The words that are given back begin with the last that was
    used. Every unit of fuel pays for a step. -/
def some_ (disk : Disk) (ages : Ages) : Nat → List (List Char) → Except Fault (Bool × List (List Char))
  | 0, words => .ok (false, words)
  | fuel + 1, words => do
    let (a, rest) ← every disk ages fuel words
    if operator? rest.tail = some .or_ then
      let (b, rest) ← some_ disk ages fuel (rest.drop 2)
      return (a || b, rest)
    else return (a, rest)

/-- Conditions that all have to hold. -/
def every (disk : Disk) (ages : Ages) : Nat → List (List Char) → Except Fault (Bool × List (List Char))
  | 0, words => .ok (false, words)
  | fuel + 1, words => do
    let (a, rest) ← negated disk ages fuel words
    if operator? rest.tail = some .and_ then
      let (b, rest) ← every disk ages fuel (rest.drop 2)
      return (a && b, rest)
    else return (a, rest)

def negated (disk : Disk) (ages : Ages) : Nat → List (List Char) → Except Fault (Bool × List (List Char))
  | 0, words => .ok (false, words)
  | fuel + 1, words => do
    if operator? words = some .not_ then
      if words.tail.isEmpty then return (true, words)
      let (a, rest) ← negated disk ages fuel words.tail
      return (!a, rest)
    else primary disk ages fuel words

def primary (disk : Disk) (ages : Ages) : Nat → List (List Char) → Except Fault (Bool × List (List Char))
  | 0, words => .ok (false, words)
  | fuel + 1, words =>
    match words with
    | [] => .ok (false, words)
    | w :: rest =>
      match operator? words with
      | some .open_ =>
        if operator? rest = some .close then .ok (false, rest)
        else do
          let (a, rest) ← some_ disk ages fuel rest
          if operator? rest.tail = some .close then return (a, rest.tail)
          else throw "closing paren expected".toList
      | some .unary =>
        match rest with
        | [] => .error (missing w)
        | operand :: _ => (ofOne disk (String.ofList w) operand).map fun a => (a, rest)
      | _ =>
        if operator? rest = some .binary then
          match rest with
          | op :: right :: more =>
            (ofTwo disk ages (String.ofList op) w right).map fun a => (a, right :: more)
          | op :: [] => .error (missing op)
          | [] => .ok (false, rest)
        else .ok (!w.isEmpty, words)

end

/-- A comparison of which the outer words are operands whatever they look like. -/
def compared (disk : Disk) (ages : Ages) (left op right : List Char) : Except Fault Bool :=
  ofTwo disk ages (String.ofList op) left right

/-- Words read as a condition from the first on. -/
def whole (disk : Disk) (ages : Ages) (words : List (List Char)) : Except Fault Bool := do
  let (a, rest) ← some_ disk ages (4 * words.length + 4) words
  match rest with
  | w :: _ :: _ => throw (if w.isEmpty then "unexpected operator".toList
      else w ++ ": unexpected operator".toList)
  | _ => return a

/-- What words say as a condition. -/
def holds (disk : Disk) (ages : Ages) (words : List (List Char)) : Except Fault Bool :=
  let short (words : List (List Char)) : Except Fault Bool :=
    if words.head? = some ['('] ∧ words.getLast? = some [')'] then whole disk ages words.tail.dropLast
    else if words.head? = some ['!'] then (whole disk ages words.tail).map (!·)
    else whole disk ages words
  match words with
  | [] => .ok false
  | [a, op, b] => if kind? op = some .binary then compared disk ages a op b else short words
  | [_, _, _, _] => short words
  | _ => whole disk ages words

end DiagramStudio.Script.Condition
