import DiagramStudio.Script.Expression
import DiagramStudio.Script.Regular
import DiagramStudio.Script.Awk.Token

/-!
Search expressions of programs that go through lines: the extended spelling, in which a backslash has a meaning
between brackets as well. Where texts are cut, and parts of them replaced.
-/

namespace DiagramStudio.Script.Awk

/-! ## Reading -/

abbrev RegexReader := StateT (List Char × Nat) Option

/-- What stands in front of repetitions; `inner` reads the inside of a group. -/
def regexAtom (inner : RegexReader Regular) : RegexReader Regular := do
  let (s, groups) ← get
  match s with
  | '(' :: ')' :: rest =>
    set (rest, groups)
    return .empty
  | '(' :: rest =>
    set (rest, groups + 1)
    let e ← inner
    match (← get).1 with
    | ')' :: rest =>
      modify fun r => (rest, r.2)
      return .group (groups + 1) e
    | _ => failure
  | '[' :: rest =>
    let (negated, inside) := match rest with
      | '^' :: inside => (true, inside)
      | inside => (false, inside)
    match Expression.members 0 true (inside.length + 1) inside with
    | .ok (found, after) =>
      set (after, groups)
      return .among negated (found.flatMap (·.ranges))
    | .error _ => failure
  | '.' :: rest =>
    set (rest, groups)
    return .any
  | '^' :: rest =>
    set (rest, groups)
    return .start
  | '$' :: rest =>
    set (rest, groups)
    return .finish
  | '\\' :: c :: rest =>
    let (found, after) := Token.escape (c :: rest)
    match found with
    | [d] =>
      set (after, groups)
      return .one d
    | _ =>
      set (rest, groups)
      return .one c
  | c :: rest =>
    set (rest, groups)
    return .one c
  | [] => return .empty

/-- An expression repeated as the signs behind it say. Every unit of fuel pays for a sign. -/
def regexRepeated : Nat → Regular → RegexReader Regular
  | 0, e => return e
  | fuel + 1, e => do
    let (s, groups) ← get
    match Expression.repetition? s with
    | some (least, most, rest) =>
      set (rest, groups)
      regexRepeated fuel (.many least most e)
    | none => return e

/-- Expressions one after another. Every unit of fuel pays for one. -/
def regexBranch (inner : RegexReader Regular) : Nat → RegexReader Regular
  | 0 => return .empty
  | fuel + 1 => do
    match (← get).1 with
    | [] | ')' :: _ | '|' :: _ => return .empty
    | s =>
      let e ← regexRepeated (s.length + 1) (← regexAtom inner)
      return .both e (← regexBranch inner fuel)

/-- Alternatives up to the end, or to the end of their group. Every unit of fuel pays for one, or for a group
    around. -/
def regexAlternatives : Nat → RegexReader Regular
  | 0 => return .empty
  | fuel + 1 => do
    let e ← regexBranch (regexAlternatives fuel) ((← get).1.length + 1)
    match (← get).1 with
    | '|' :: rest =>
      modify fun r => (rest, r.2)
      return .either e (← regexAlternatives fuel)
    | _ => return e

/-- The expression that a text spells; one that cannot be read matches only itself. -/
def regexOf (s : List Char) : Regular :=
  match (regexAlternatives (s.length + 1)).run (s, 0) with
  | some (e, [], _) => e
  | _ => Regular.ofText s

/-! ## Searching -/

/-- The text in front of the first match, the match, and what follows it. -/
def found? (e : Regular) (s : List Char) : Option (List Char × List Char × List Char) :=
  (Regular.find? false e s.toArray 0).map fun m =>
    (s.take m.start, (s.drop m.start).take (m.finish - m.start), s.drop m.finish)

def isFound (e : Regular) (s : List Char) : Bool := (Regular.find? false e s.toArray 0).isSome

/-- The text that takes the place of a match: an ampersand stands for the match, unless a backslash is in front
    of it. -/
def replacement (matched : List Char) : List Char → List Char
  | '\\' :: '&' :: rest => '&' :: replacement matched rest
  | '\\' :: '\\' :: rest => '\\' :: replacement matched rest
  | '&' :: rest => matched ++ replacement matched rest
  | c :: rest => c :: replacement matched rest
  | [] => []

/-- A text with the matches from a place on replaced, all or only the first, and how many there are. `behind` says
    that a match ends at the place. Every unit of fuel pays for a match or a character. -/
def replaced (e : Regular) (text : Array Char) (by_ : List Char) (all : Bool) :
    Nat → (place : Nat) → (behind : Bool) → List Char × Nat
  | 0, place, _ => (Regular.between text place text.size, 0)
  | fuel + 1, place, behind =>
    match Regular.find? false e text place with
    | none => (Regular.between text place text.size, 0)
    | some m =>
      let front := Regular.between text place m.start
      if m.start = m.finish then
        let skips := behind && m.start == place
        let new := if skips then [] else replacement [] by_
        let count := if skips then 0 else 1
        match text[m.start]? with
        | none => (front ++ new, count)
        | some c =>
          if !all && !skips then (front ++ new ++ Regular.between text m.start text.size, count)
          else
            let (rest, n) := replaced e text by_ all fuel (m.start + 1) false
            (front ++ new ++ c :: rest, n + count)
      else
        let new := replacement (Regular.between text m.start m.finish) by_
        if !all then (front ++ new ++ Regular.between text m.finish text.size, 1)
        else
          let (rest, n) := replaced e text by_ all fuel m.finish true
          (front ++ new ++ rest, n + 1)

/-! ## Cutting -/

/-- What cuts a text into fields. -/
inductive Separator where
  | blanks
  | sign (c : Char)
  | letters
  | regex (e : Regular)
deriving Inhabited

def Separator.ofText (s : List Char) : Separator :=
  match s with
  | [' '] => .blanks
  | [] => .letters
  | [c] => .sign c
  | s => .regex (regexOf s)

def isWhite (c : Char) : Bool := c == ' ' || c == '\t' || c == '\n'

/-- A text cut where an expression matches something. Every unit of fuel pays for a piece. -/
def cutAt (e : Regular) (text : Array Char) : Nat → (place : Nat) → List (List Char)
  | 0, place => [Regular.between text place text.size]
  | fuel + 1, place =>
    let found := (List.range (text.size - place)).findSome? fun d =>
      (Regular.find? false e text (place + d)).filter fun m => m.start < m.finish
    match found with
    | none => [Regular.between text place text.size]
    | some m => Regular.between text place m.start :: cutAt e text fuel m.finish

/-- The fields of a text; lines end fields as well if that is told. -/
def Separator.cut (sep : Separator) (lines : Bool) (s : List Char) : List (List Char) :=
  if s.isEmpty then []
  else
    match sep with
    | .blanks => Text.words isWhite s
    | .letters => s.map ([·])
    | .sign c => Text.pieces (fun d => d == c || (lines && d == '\n')) s
    | .regex e => (if lines then Text.lines s else [s]).flatMap fun part =>
        cutAt e part.toArray (part.length + 1) 0

end DiagramStudio.Script.Awk
