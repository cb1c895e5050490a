import DiagramStudio.Script.Pattern

/-!
Regular expressions, in the basic and the extended spelling, and where they match: at the first place
possible, and there as long a text as possible.
-/

namespace DiagramStudio.Script

inductive Regular where
  | empty
  | one (c : Char)
  | any
  /-- A character in one of the ranges, or in none of them. -/
  | among (negated : Bool) (ranges : List (Char × Char))
  | start
  | finish
  /-- A place where a word begins or ends, as told. -/
  | edge (begins ends : Bool)
  | group (number : Nat) (inner : Regular)
  /-- What a group has matched, once more. -/
  | again (number : Nat)
  | both (first second : Regular)
  | either (first second : Regular)
  | many (least : Nat) (most : Option Nat) (inner : Regular)
deriving Repr, Inhabited

namespace Regular

/-! ## Reading -/

/-- Why an expression cannot be read. -/
inductive RegularFault where
  | unmatchedBracket
  | badClass
  | badRange
  | unmatchedGroup
  | unmatchedClose
  | unmatchedBraces
  | badBraces
  | badRepetition
  | badReference
  | trailingBackslash
deriving Repr, DecidableEq, Inhabited

def RegularFault.message : RegularFault → String
  | unmatchedBracket => "Unmatched [, [^, [:, [., or [="
  | badClass => "Invalid character class name"
  | badRange => "Invalid range end"
  | unmatchedGroup => "Unmatched ( or \\("
  | unmatchedClose => "Unmatched ) or \\)"
  | unmatchedBraces => "Unmatched \\\x7b"
  | badBraces => "Invalid content of \\\x7b\\\x7d"
  | badRepetition => "Invalid preceding regular expression"
  | badReference => "Invalid back reference"
  | trailingBackslash => "Trailing backslash"

structure Reading where
  rest : List Char
  /-- How many groups have been opened. -/
  groups : Nat

abbrev Reader := StateT Reading (Except RegularFault)

/-- What a sign with a meaning of its own stands for. -/
inductive Mark where
  | open_
  | close
  | bar
  | star
  | plus
  | question
  | braces
deriving DecidableEq

/-- A brace in front of the text opens the bounds of a repetition, where it may stand for itself
    otherwise. -/
def opensBounds (s : List Char) : Bool :=
  match Text.cut? (· == '\x7d') s with
  | some (body, _) => body != [] && body != [','] && body.all fun c => c.isDigit || c == ','
  | none => false

/-- The mark at the front of the text, and what follows it. -/
def mark? (extended : Bool) : List Char → Option (Mark × List Char)
  | '*' :: rest => some (.star, rest)
  | '\\' :: c :: rest =>
    if extended then none
    else
      match c with
      | '(' => some (.open_, rest)
      | ')' => some (.close, rest)
      | '|' => some (.bar, rest)
      | '+' => some (.plus, rest)
      | '?' => some (.question, rest)
      | '\x7b' => some (.braces, rest)
      | _ => none
  | c :: rest =>
    if !extended then none
    else
      match c with
      | '(' => some (.open_, rest)
      | ')' => some (.close, rest)
      | '|' => some (.bar, rest)
      | '+' => some (.plus, rest)
      | '?' => some (.question, rest)
      | '\x7b' => if opensBounds rest then some (.braces, rest) else none
      | _ => none
  | [] => none

/-- The expression ends in front of the text, or goes on with an alternative. -/
def endsBranch (extended : Bool) (s : List Char) : Bool :=
  s.isEmpty || (match mark? extended s with
    | some (.close, _) => true
    | some (.bar, _) => true
    | _ => false)

/-- The characters of words. -/
def wordRanges : List (Char × Char) := [('a', 'z'), ('A', 'Z'), ('0', '9'), ('_', '_')]

def whiteRanges : List (Char × Char) := [('\t', '\r'), (' ', ' ')]

/-- What a backslash makes of the character behind it. -/
def escaped (c : Char) : Regular :=
  match c with
  | 'w' => .among false wordRanges
  | 'W' => .among true wordRanges
  | 's' => .among false whiteRanges
  | 'S' => .among true whiteRanges
  | 'b' => .edge true true
  | '<' => .edge true false
  | '>' => .edge false true
  | 'n' => .one '\n'
  | 't' => .one '\t'
  | '\x60' => .start
  | '\'' => .finish
  | _ => if c.isDigit && c != '0' then .again (c.toNat - '0'.toNat) else .one c

/-- A class that has no name which is known stands between brackets. -/
def hasBadClass : List Char → Bool
  | '[' :: ':' :: rest =>
    match Text.cutAt? ":]".toList rest with
    | some (name, _) => (Sign.classOf? (String.ofList name)).isNone || hasBadClass rest
    | none => hasBadClass rest
  | _ :: rest => hasBadClass rest
  | [] => false

/-- The ranges between brackets, of which the first has been read. -/
def brackets : Reader Regular := do
  let r ← get
  let (negated, inside) := match r.rest with
    | '^' :: inside => (true, inside)
    | _ => (false, r.rest)
  match Sign.ranges? true (inside.length + 1) (inside.map fun c => (c, false)) with
  | none => throw .unmatchedBracket
  | some (ranges, after) =>
    let body := inside.take (inside.length - after.length)
    if hasBadClass body then throw .badClass
    if ranges.any fun (low, high) => high < low then throw .badRange
    set { r with rest := inside.drop body.length }
    return .among negated ranges

/-- The bounds of a repetition between braces, of which the first has been read. -/
def bounds (extended : Bool) : Reader (Nat × Option Nat) := do
  let r ← get
  let closing := if extended then ['\x7d'] else ['\\', '\x7d']
  match Text.cutAt? closing r.rest with
  | none => throw .unmatchedBraces
  | some (body, rest) =>
    set { r with rest }
    let number? (s : List Char) : Option Nat := if s.all Char.isDigit then (String.ofList s).toNat? else none
    match Text.cut? (· == ',') body with
    | none =>
      match number? body with
      | some n => return (n, some n)
      | none => throw .badBraces
    | some (low, []) =>
      match if low.isEmpty then some 0 else number? low with
      | some n => return (n, none)
      | none => throw .badBraces
    | some (low, high) =>
      match if low.isEmpty then some 0 else number? low, number? high with
      | some a, some b => if a ≤ b then return (a, some b) else throw .badBraces
      | _, _ => throw .badBraces

/-- An expression repeated as the marks behind it say. Every unit of fuel pays for a mark. -/
def repeated (extended : Bool) : Nat → Regular → Reader Regular
  | 0, e => return e
  | fuel + 1, e => do
    match mark? extended (← get).rest with
    | some (.star, rest) =>
      modify fun r => { r with rest }
      repeated extended fuel (.many 0 none e)
    | some (.plus, rest) =>
      modify fun r => { r with rest }
      repeated extended fuel (.many 1 none e)
    | some (.question, rest) =>
      modify fun r => { r with rest }
      repeated extended fuel (.many 0 (some 1) e)
    | some (.braces, rest) =>
      modify fun r => { r with rest }
      let (least, most) ← bounds extended
      repeated extended fuel (.many least most e)
    | _ => return e

/-- What stands in front of marks of repetition. `first` says that nothing stands in front of it, and
    `inner` reads the inside of a group. -/
def atom (extended first : Bool) (inner : Reader Regular) : Reader Regular := do
  let r ← get
  match mark? extended r.rest, r.rest with
  | some (.open_, rest), _ =>
    let number := r.groups + 1
    set (⟨rest, number⟩ : Reading)
    let e ← inner
    match mark? extended (← get).rest with
    | some (.close, rest) =>
      modify fun r => { r with rest }
      return .group number e
    | _ => throw .unmatchedGroup
  | some (.star, rest), _ =>
    if first then
      set { r with rest }
      return if extended then .empty else .one '*'
    else throw .badRepetition
  | some (_, rest), c :: more =>
    if extended && first then throw .badRepetition
    else
      set { r with rest := if extended then rest else more.drop 1 }
      return .one (if extended then c else more.headD c)
  | _, '[' :: rest =>
    set { r with rest }
    brackets
  | _, '.' :: rest =>
    set { r with rest }
    return .any
  | _, '^' :: rest =>
    set { r with rest }
    return if extended || first then .start else .one '^'
  | _, '$' :: rest =>
    set { r with rest }
    return if extended || endsBranch extended rest then .finish else .one '$'
  | _, ['\\'] => throw .trailingBackslash
  | _, '\\' :: c :: rest =>
    set { r with rest }
    match escaped c with
    | .again n => if r.groups < n then throw .badReference else return .again n
    | e => return e
  | _, c :: rest =>
    set { r with rest }
    return .one c
  | _, [] => return .empty

/-- Expressions one after another. Every unit of fuel pays for one. -/
def branch (extended : Bool) (inner : Reader Regular) : Nat → Bool → Reader Regular
  | 0, _ => return .empty
  | fuel + 1, first => do
    if endsBranch extended (← get).rest then return .empty
    let e ← atom extended first inner
    let anchored := match e with
      | .start => true
      | _ => false
    let e ← if anchored && !extended then pure e else repeated extended ((← get).rest.length + 1) e
    return .both e (← branch extended inner fuel (first && anchored))

/-- Alternatives up to the end, or to the end of their group. Every unit of fuel pays for one, or for a
    group around. -/
def alternatives (extended : Bool) : Nat → Reader Regular
  | 0 => return .empty
  | fuel + 1 => do
    let e ← branch extended (alternatives extended fuel) ((← get).rest.length + 1) true
    match mark? extended (← get).rest with
    | some (.bar, rest) =>
      modify fun r => { r with rest }
      return .either e (← alternatives extended fuel)
    | _ => return e

/-- The expression that a text spells. -/
def read (extended : Bool) (s : List Char) : Except RegularFault Regular := do
  let (e, r) ← (alternatives extended (s.length + 1)).run ⟨s, 0⟩
  if r.rest.isEmpty then return e else throw .unmatchedClose

/-- The expression that matches a text as it is. -/
def ofText (s : List Char) : Regular := s.foldr (fun c e => .both (.one c) e) .empty

/-! ## Matching -/

/-- How far a text has been matched, and from where to where each group has. -/
structure Reached where
  place : Nat
  groups : List (Nat × Nat × Nat)
deriving DecidableEq

/-- Of several ways to the same place the first. -/
def distinct (ways : List Reached) : List Reached :=
  ways.foldr (fun w found => w :: found.filter fun other => other.place != w.place) []

def isWord (c : Char) : Bool := Sign.within wordRanges c

/-- The word begins or ends at a place. -/
def isEdge (text : Array Char) (place : Nat) (begins ends : Bool) : Bool :=
  let before := place != 0 && ((text[place - 1]?).map isWord).getD false
  let behind := ((text[place]?).map isWord).getD false
  (begins && !before && behind) || (ends && before && !behind)

def same (folded : Bool) (a b : Char) : Bool :=
  a == b || (folded && a.toLower == b.toLower)

/-- The ways on after `least` to `most` repetitions of a step, the longer first. Every unit of fuel pays
    for one. -/
def repeating (step : Reached → List Reached) : Nat → Nat → Option Nat → Reached → List Reached
  | 0, _, _, w => [w]
  | fuel + 1, least, most, w =>
    let further :=
      if most = some 0 then []
      else
        (step w).flatMap fun next =>
          if next.place = w.place ∧ least = 0 then []
          else repeating step fuel (least - 1) (most.map (· - 1)) next
    distinct (if least = 0 then further ++ [w] else further)

/-- The ways in which an expression matches from a place on. -/
def ways (folded : Bool) (text : Array Char) : Regular → Reached → List Reached
  | .empty, w => [w]
  | .one c, w =>
    match text[w.place]? with
    | some d => if same folded c d then [{ w with place := w.place + 1 }] else []
    | none => []
  | .any, w => if w.place < text.size then [{ w with place := w.place + 1 }] else []
  | .among negated ranges, w =>
    match text[w.place]? with
    | some d =>
      let found := Sign.within ranges d
        || (folded && (Sign.within ranges d.toLower || Sign.within ranges d.toUpper))
      if found != negated then [{ w with place := w.place + 1 }] else []
    | none => []
  | .start, w => if w.place = 0 then [w] else []
  | .finish, w => if w.place = text.size then [w] else []
  | .edge begins ends, w => if isEdge text w.place begins ends then [w] else []
  | .group number inner, w =>
    (ways folded text inner w).map fun next =>
      { next with groups := (number, w.place, next.place) :: next.groups.filter (·.1 != number) }
  | .again number, w =>
    match w.groups.find? (·.1 == number) with
    | none => []
    | some (_, low, high) =>
      let matched := (List.range (high - low)).all fun i =>
        match text[low + i]?, text[w.place + i]? with
        | some a, some b => same folded a b
        | _, _ => false
      if matched then [{ w with place := w.place + (high - low) }] else []
  | .both first second, w =>
    distinct ((ways folded text first w).flatMap (ways folded text second))
  | .either first second, w => distinct (ways folded text first w ++ ways folded text second w)
  | .many least most inner, w =>
    repeating (ways folded text inner) (text.size + least + 1) least most w

/-- Where an expression matches. -/
structure Match where
  start : Nat
  finish : Nat
  groups : List (Nat × Nat × Nat)

/-- The longest match at the first place possible, at a place or behind it. -/
def find? (folded : Bool) (e : Regular) (text : Array Char) (low : Nat) : Option Match :=
  ((List.range (text.size + 1)).drop low).findSome? fun place =>
    let found := ways folded text e ⟨place, []⟩
    let longest := found.foldl (fun (best : Option Reached) w =>
      match best with
      | none => some w
      | some b => if b.place < w.place then some w else some b) none
    longest.map fun w => ⟨place, w.place, w.groups⟩

/-- The text between two places. -/
def between (text : Array Char) (low high : Nat) : List Char := (text.extract low high).toList

end Regular

end DiagramStudio.Script
