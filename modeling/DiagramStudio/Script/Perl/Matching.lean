import DiagramStudio.Script.Perl.State

/-!
Patterns of programs in Perl: searching, replacing, cutting, and exchanging single characters.
-/

namespace DiagramStudio.Script.Perl

open Work

/-! ## Texts with marks -/

/-- A piece of a text that has been filled in. -/
inductive Filled where
  | text (s : List Char)
  | mark (c : Char)
deriving Repr, DecidableEq, Inhabited

/-- The character counts for itself in a pattern without a backslash. -/
def isPlain (c : Char) : Bool := c.isAlphanum || c == '_' || 127 < c.toNat

def quotedMeta (s : List Char) : List Char := s.flatMap fun c => if isPlain c then [c] else ['\\', c]

/-- A text under marks, the innermost first. -/
def underMarks (marks : List Char) (s : List Char) : List Char :=
  marks.foldl (fun s mark =>
    match mark with
    | 'U' => s.map Char.toUpper
    | 'L' => s.map Char.toLower
    | 'Q' => quotedMeta s
    | _ => s) s

/-- A text made of pieces. `once` is for the first character that comes. -/
def joined : (marks : List Char) → (once : Option Char) → List Filled → List Char
  | _, _, [] => []
  | marks, once, .mark c :: more =>
    if c = 'E' then joined marks.tail once more
    else if c = 'u' ∨ c = 'l' then joined marks (some c) more
    else if (c = 'U' ∨ c = 'L') ∧ (marks.head? = some 'U' ∨ marks.head? = some 'L') then
      joined (c :: marks.tail) once more
    else joined (c :: marks) once more
  | marks, once, .text s :: more =>
    let s := underMarks marks s
    match once, s with
    | some mark, c :: rest => ((if mark = 'u' then c.toUpper else c.toLower) :: rest) ++ joined marks none more
    | once, s => s ++ joined marks once more

/-! ## Patterns -/

def flagsOf (letters : Letters) : Expression.Flags :=
  ⟨letters.contains 'i', letters.contains 'm', letters.contains 's', letters.contains 'x'⟩

/-- What is said of a pattern that cannot be read. -/
def patternComplaint (s : List Char) (fault : Expression.ExpressionFault) : List Char :=
  let marked (what : String) (behind : Nat) : List Char :=
    let front := s.take (s.length - behind)
    what.toList ++ " in regex; marked by <-- HERE in m/".toList ++ front ++ " <-- HERE ".toList ++ s.drop front.length
      ++ ['/']
  match fault with
  | .unmatchedOpen behind => marked "Unmatched (" behind
  | .unmatchedClose behind => marked "Unmatched )" behind
  | .unmatchedBracket behind => marked "Unmatched [" behind
  | .nothingToRepeat behind => marked "Quantifier follows nothing" behind
  | .trailingBackslash => "Trailing \\ in regex m/".toList ++ s ++ ['/']
  | .badRange behind => marked "Invalid [] range" behind
  | .badReference behind => marked "Reference to nonexistent group" behind
  | .badCount behind => marked "Can't do \x7bn,m\x7d with n > m" behind
  | .badGroup behind => marked "Sequence (?... not recognized" behind
  | .badClass behind => marked "POSIX class unknown" behind

def compile (s : List Char) (letters : Letters) : Work Expression.Named := do
  match Expression.read (flagsOf letters) s with
  | .ok e => return e
  | .error fault => die (patternComplaint s fault)

/-- How a pattern is written that has been made a value. -/
def patternText (s : List Char) (letters : Letters) : List Char :=
  "(?^".toList ++ (['m', 's', 'i', 'x'].filter letters.contains) ++ ':' :: s ++ [')']

/-- Where a pattern matches in a text, at a place or behind it. -/
def find (e : Expression.Named) (text : List Char) (chars : Array Char) (low : Nat) : Option Matched :=
  (e.body.find? chars low).map fun r => ⟨text, r.start, r.place, r.groups, e.names, e.groups⟩

namespace Matched

def slice (m : Matched) (low high : Nat) : List Char := (m.text.drop low).take (high - low)

def whole (m : Matched) : List Char := m.slice m.low m.high

def group (m : Matched) (n : Nat) : Value :=
  match m.groups.find? (·.1 == n) with
  | some (_, low, high) => .text (m.slice low high)
  | none => .missing

/-- The values of the groups. -/
def values (m : Matched) : List Value := (List.range m.count).map fun i => m.group (i + 1)

end Matched

/-- What a name stands for that is set by matching. -/
def matchedValue? (name : List Char) (m? : Option Matched) : Option Value :=
  let with_ (f : Matched → Value) : Option Value := some ((m?.map f).getD .missing)
  match name with
  | ['&'] => with_ fun m => .text m.whole
  | ['\x60'] => with_ fun m => .text (m.text.take m.low)
  | ['\''] => with_ fun m => .text (m.text.drop m.high)
  | ['+'] => with_ fun m => m.group ((m.groups.map (·.1)).foldl max 0)
  | _ =>
    if name.all Char.isDigit && name.head? != some '0' && !name.isEmpty then
      with_ fun m => m.group (((String.ofList name).toNat?).getD 0)
    else none

/-- All places where a pattern matches, one behind the other. Every unit of fuel pays for one. -/
def findAll (e : Expression.Named) (text : List Char) (chars : Array Char) : Nat → (low : Nat) → List Matched
  | 0, _ => []
  | fuel + 1, low =>
    match find e text chars low with
    | none => []
    | some m =>
      let next := if m.high = m.low then m.high + 1 else m.high
      m :: (if chars.size < next then [] else findAll e text chars fuel next)

/-! ## Cutting -/

/-- A text without the empty parts at the end. -/
def withoutEmpty (parts : List Value) : List Value :=
  (parts.reverse.dropWhile fun v => match v with
    | .missing => true
    | v => v.toText.isEmpty).reverse

/-- A text cut where a pattern matches, with what its groups have matched. `most` is the most parts. -/
def cut (text : List Char) (most : Option Nat) : (parts : Nat) → (from_ : Nat) → List Matched → List Value
  | _, from_, [] => [.text (text.drop from_)]
  | parts, from_, m :: more =>
    let full := (most.map fun n => decide (n ≤ parts + 1)).getD false
    if full then [.text (text.drop from_)]
    else if m.high = m.low ∧ (m.low = 0 ∨ m.low = text.length) then cut text most parts from_ more
    else if m.high = 0 then cut text most parts from_ more
    else .text ((text.drop from_).take (m.low - from_)) :: m.values ++ cut text most (parts + 1) m.high more

/-- A text cut into parts. A limit of zero leaves out empty parts at the end, one below zero keeps all. -/
def split (e : Expression.Named) (text : List Char) (limit : Int) : List Value :=
  if text.isEmpty then []
  else
    let chars := text.toArray
    let found := findAll e text chars (chars.size + 2) 0
    let parts := cut text (if 0 < limit then some limit.toNat else none) 0 0 found
    if limit = 0 then withoutEmpty parts else parts

/-- A text cut into words. -/
def splitWords (text : List Char) (limit : Int) : List Value :=
  let blank : Expression.Named := ⟨.many 1 none .most (.among false false [Expression.whiteMembers false]), 0, []⟩
  split blank (text.dropWhile Awk.isGap) limit

/-! ## Single characters -/

/-- The characters of a text exchanged: the text, and how many were. -/
def translated (from_ to_ : List Char) (letters : Letters) (text : List Char) : List Char × Nat :=
  let negated := letters.contains 'c'
  let deletes := letters.contains 'd'
  let goal := if to_.isEmpty && !deletes then from_ else to_
  let place? (c : Char) : Option Nat :=
    if negated then (if from_.contains c then none else some goal.length)
    else
      let i := from_.takeWhile (· != c)
      if i.length < from_.length then some i.length else none
  let step (state : List Char × Nat × Option Char) (c : Char) : List Char × Nat × Option Char :=
    let (out, n, last) := state
    match place? c with
    | none => (c :: out, n, none)
    | some i =>
      let new : Option Char :=
        if negated && to_.isEmpty && !deletes then some c
        else if i < goal.length then goal[i]? else if deletes then none else goal.getLast?
      match new with
      | none => (out, n + 1, last)
      | some d => if letters.contains 's' && last == some d then (out, n + 1, last) else (d :: out, n + 1, some d)
  let (out, n, _) := text.foldl step ([], 0, none)
  (out.reverse, n)

end DiagramStudio.Script.Perl
