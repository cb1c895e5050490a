import DiagramStudio.Keyed
import DiagramStudio.Script.Pattern

/-!
Search expressions in the rich spelling, with classes behind backslashes, groups of many kinds, and repetitions
that take as much as possible, as little as possible, or give nothing back. Of the ways in which one matches the
first counts, in the order in which its parts are tried.
-/

namespace DiagramStudio.Script

/-- Characters in one of the ranges, or in none of them. -/
structure Members where
  negated : Bool
  ranges : List (Char × Char)
deriving Repr, Inhabited

def Members.has (m : Members) (c : Char) : Bool := Sign.within m.ranges c != m.negated

/-- How much a repetition takes. -/
inductive Greed where
  | most
  | least
  /-- As much as possible, and nothing of it is given back. -/
  | all
deriving Repr, DecidableEq, Inhabited

inductive Expression where
  | empty
  | one (folded : Bool) (c : Char)
  /-- Any character, a line feed only if that is told. -/
  | any (feeds : Bool)
  | among (folded negated : Bool) (members : List Members)
  /-- The start of the text, or of each line. -/
  | start (lines : Bool)
  /-- The end of the text, in front of a line feed that ends it, or of each line. -/
  | finish (lines : Bool)
  | lastPlace
  | edge (negated : Bool)
  | group (number : Nat) (inner : Expression)
  /-- What a group has matched, once more. -/
  | again (folded : Bool) (number : Nat)
  | both (first second : Expression)
  | either (first second : Expression)
  | many (least : Nat) (most : Option Nat) (greed : Greed) (inner : Expression)
  /-- Something that stands, or does not stand, in front of a place or behind it. -/
  | around (before negated : Bool) (inner : Expression)
  /-- The first way in which something matches, and no other. -/
  | only (inner : Expression)
  /-- What has been matched so far does not belong to the match. -/
  | forget
deriving Repr, Inhabited

namespace Expression

/-! ## Reading -/

/-- Why an expression cannot be read. -/
inductive ExpressionFault where
  | unmatchedOpen (behind : Nat)
  | unmatchedClose (behind : Nat)
  | unmatchedBracket (behind : Nat)
  | nothingToRepeat (behind : Nat)
  | trailingBackslash
  | badRange (behind : Nat)
  | badReference (behind : Nat)
  | badCount (behind : Nat)
  | badGroup (behind : Nat)
  | badClass (behind : Nat)
deriving Repr, DecidableEq, Inhabited

def ExpressionFault.message : ExpressionFault → String
  | unmatchedOpen _ => "missing closing parenthesis"
  | unmatchedClose _ => "unmatched closing parenthesis"
  | unmatchedBracket _ => "missing terminating ] for character class"
  | nothingToRepeat _ => "quantifier does not follow a repeatable item"
  | trailingBackslash => "\\ at end of pattern"
  | badRange _ => "range out of order in character class"
  | badReference _ => "reference to non-existent subpattern"
  | badCount _ => "numbers out of order in \x7b\x7d quantifier"
  | badGroup _ => "unrecognized character after (? or (?-"
  | badClass _ => "unknown POSIX class name"

/-- What letters in front of an expression, or in it, ask for. -/
structure Flags where
  folded : Bool
  lines : Bool
  feeds : Bool
  spaced : Bool
deriving Repr, DecidableEq, Inhabited

def Flags.none_ : Flags := ⟨false, false, false, false⟩

def Flags.with_ (f : Flags) (on : Bool) (letter : Char) : Flags :=
  match letter with
  | 'i' => { f with folded := on }
  | 'm' => { f with lines := on }
  | 's' => { f with feeds := on }
  | 'x' => { f with spaced := on }
  | _ => f

structure Reading where
  rest : List Char
  /-- How many groups have been opened. -/
  groups : Nat
  names : List (List Char × Nat)
  flags : Flags

abbrev Reader := StateT Reading (Except ExpressionFault)

def digitMembers (negated : Bool) : Members := ⟨negated, [('0', '9')]⟩

def wordMembers (negated : Bool) : Members := ⟨negated, [('a', 'z'), ('A', 'Z'), ('0', '9'), ('_', '_')]⟩

def whiteMembers (negated : Bool) : Members := ⟨negated, [('\t', '\r'), (' ', ' ')]⟩

def gapMembers (negated : Bool) : Members := ⟨negated, [('\t', '\t'), (' ', ' ')]⟩

def feedMembers (negated : Bool) : Members := ⟨negated, [('\n', '\r')]⟩

/-- The class that a letter behind a backslash names. -/
def class? (c : Char) : Option Members :=
  match c with
  | 'd' => some (digitMembers false)
  | 'D' => some (digitMembers true)
  | 'w' => some (wordMembers false)
  | 'W' => some (wordMembers true)
  | 's' => some (whiteMembers false)
  | 'S' => some (whiteMembers true)
  | 'h' => some (gapMembers false)
  | 'H' => some (gapMembers true)
  | 'v' => some (feedMembers false)
  | 'V' => some (feedMembers true)
  | 'N' => some ⟨true, [('\n', '\n')]⟩
  | _ => none

def digitValue (c : Char) : Nat :=
  if c.isDigit then c.toNat - '0'.toNat else c.toLower.toNat - 'a'.toNat + 10

def isHexDigit (c : Char) : Bool := c.isDigit || ('a' ≤ c.toLower && c.toLower ≤ 'f')

def numberIn (base : Nat) (digits : List Char) : Nat := digits.foldl (fun n c => n * base + digitValue c) 0

/-- The character that the text behind a backslash spells, and what follows it. -/
def character (s : List Char) : Char × List Char :=
  match s with
  | 'n' :: rest => ('\n', rest)
  | 't' :: rest => ('\t', rest)
  | 'r' :: rest => ('\r', rest)
  | 'f' :: rest => ('\x0c', rest)
  | 'e' :: rest => ('\x1b', rest)
  | 'a' :: rest => ('\x07', rest)
  | 'x' :: '\x7b' :: rest =>
    let digits := rest.takeWhile (· != '\x7d')
    (Char.ofNat (numberIn 16 (digits.filter isHexDigit)), rest.drop (digits.length + 1))
  | 'x' :: rest =>
    let digits := (rest.take 2).takeWhile isHexDigit
    (Char.ofNat (numberIn 16 digits), rest.drop digits.length)
  | 'c' :: c :: rest => (Char.ofNat (c.toUpper.toNat ^^^ 64), rest)
  | c :: rest =>
    if '0' ≤ c && c ≤ '7' then
      let digits := (s.take 3).takeWhile fun d => '0' ≤ d && d ≤ '7'
      (Char.ofNat (numberIn 8 digits % 256), s.drop digits.length)
    else (c, rest)
  | [] => ('\\', [])

/-- The members between brackets, of which the first has been read; and what follows the last. Every unit of fuel
    pays for a member. -/
def members (behind : Nat) (first : Bool) : Nat → List Char → Except ExpressionFault (List Members × List Char)
  | 0, _ => .error (.unmatchedBracket behind)
  | fuel + 1, s =>
    let more (m : Members) (rest : List Char) : Except ExpressionFault (List Members × List Char) :=
      (members behind false fuel rest).map fun (others, after) => (m :: others, after)
    let range (low : Char) (rest : List Char) : Except ExpressionFault (List Members × List Char) :=
      match rest with
      | '-' :: ']' :: _ => more ⟨false, [(low, low)]⟩ rest
      | '-' :: '\\' :: c :: after =>
        if (class? c).isSome then more ⟨false, [(low, low)]⟩ rest
        else
          let (high, after) := if c = 'b' then ('\x08', after) else character (c :: after)
          if high < low then .error (.badRange after.length) else more ⟨false, [(low, high)]⟩ after
      | '-' :: high :: after =>
        if high < low then .error (.badRange after.length) else more ⟨false, [(low, high)]⟩ after
      | _ => more ⟨false, [(low, low)]⟩ rest
    match s with
    | [] => .error (.unmatchedBracket behind)
    | ']' :: rest => if first then range ']' rest else .ok ([], rest)
    | '[' :: ':' :: '^' :: rest =>
      match Sign.namedClass? rest with
      | some (ranges, rest) => more ⟨true, ranges⟩ rest
      | none => range '[' (s.drop 1)
    | '[' :: ':' :: rest =>
      match Sign.namedClass? rest with
      | some (ranges, rest) => more ⟨false, ranges⟩ rest
      | none => if (Text.cutAt? ":]".toList rest).isSome then .error (.badClass rest.length) else range '[' (s.drop 1)
    | '\\' :: c :: rest =>
      match class? c with
      | some m => more m rest
      | none =>
        let (low, rest) := if c = 'b' then ('\x08', rest) else character (c :: rest)
        range low rest
    | c :: rest => range c rest

/-- Blanks and remarks left out where they do not count. Every unit of fuel pays for a character. -/
def skipGaps : Nat → List Char → List Char
  | 0, s => s
  | fuel + 1, c :: rest =>
    if c = '#' then skipGaps fuel ((rest.dropWhile (· != '\n')).drop 1)
    else if c = ' ' ∨ ('\t' ≤ c ∧ c ≤ '\r') then skipGaps fuel rest
    else c :: rest
  | _ + 1, [] => []

def skip : Reader Unit := modify fun r =>
  if r.flags.spaced then { r with rest := skipGaps (r.rest.length + 1) r.rest } else r

/-- The bounds of a repetition in braces, and what follows them. -/
def bounds? (s : List Char) : Option (Nat × Option Nat × List Char) :=
  match Text.cut? (· == '\x7d') s with
  | none => none
  | some (body, rest) =>
    let number? (digits : List Char) : Option Nat :=
      if !digits.isEmpty && digits.all Char.isDigit then some (numberIn 10 digits) else none
    match Text.cut? (· == ',') body with
    | none => (number? body).map fun n => (n, some n, rest)
    | some (low, high) =>
      match number? low, high with
      | some n, [] => some (n, none, rest)
      | some n, high => (number? high).map fun m => (n, some m, rest)
      | none, high => if low.isEmpty then (number? high).map fun m => (0, some m, rest) else none

/-- The repetition at the front of a text, and what follows it. -/
def repetition? (s : List Char) : Option (Nat × Option Nat × List Char) :=
  match s with
  | '*' :: rest => some (0, none, rest)
  | '+' :: rest => some (1, none, rest)
  | '?' :: rest => some (0, some 1, rest)
  | '\x7b' :: rest => bounds? rest
  | _ => none

/-- An expression repeated as is told behind it. -/
def repeated (e : Expression) : Reader Expression := do
  skip
  let r ← get
  match repetition? r.rest with
  | none => return e
  | some (least, most, rest) =>
    if most.any (· < least) then throw (.badCount rest.length)
    let (greed, rest) := match rest with
      | '?' :: rest => (Greed.least, rest)
      | '+' :: rest => (Greed.all, rest)
      | rest => (Greed.most, rest)
    set { r with rest }
    return .many least most greed e

def plain (c : Char) (rest : List Char) : Reader Expression := do
  modify fun r => { r with rest }
  return .one (← get).flags.folded c

/-- What stands in front of a repetition behind a backslash. -/
def escaped : Reader Expression := do
  let r ← get
  let go (e : Expression) (rest : List Char) : Reader Expression := do
    modify fun r => { r with rest }
    return e
  let again (n : Nat) (rest : List Char) : Reader Expression := go (.again r.flags.folded n) rest
  let named (close : Char) (rest : List Char) : Reader Expression := do
    let name := rest.takeWhile (· != close)
    match entryFor? name r.names with
    | some n => again n (rest.drop (name.length + 1))
    | none => throw (.badReference rest.length)
  match r.rest with
  | [] => throw .trailingBackslash
  | 'b' :: rest => go (.edge false) rest
  | 'B' :: rest => go (.edge true) rest
  | 'A' :: rest => go (.start false) rest
  | 'G' :: rest => go .empty rest
  | 'Z' :: rest => go (.finish false) rest
  | 'z' :: rest => go .lastPlace rest
  | 'K' :: rest => go .forget rest
  | 'Q' :: rest =>
    let (body, rest) := (Text.cutAt? "\\E".toList rest).getD (rest, [])
    go (body.foldr (fun c e => .both (.one r.flags.folded c) e) .empty) rest
  | 'E' :: rest => go .empty rest
  | 'R' :: rest =>
    go (.either (.both (.one false '\r') (.one false '\n')) (.among false false [feedMembers false])) rest
  | 'k' :: '<' :: rest => named '>' rest
  | 'k' :: '\x7b' :: rest => named '\x7d' rest
  | 'k' :: '\'' :: rest => named '\'' rest
  | 'g' :: '\x7b' :: rest =>
    let digits := rest.takeWhile (· != '\x7d')
    let after := rest.drop (digits.length + 1)
    match digits with
    | '-' :: digits => again (r.groups + 1 - numberIn 10 digits) after
    | digits => if digits.all Char.isDigit then again (numberIn 10 digits) after else named '\x7d' rest
  | 'g' :: rest =>
    let digits := rest.takeWhile Char.isDigit
    again (numberIn 10 digits) (rest.drop digits.length)
  | c :: rest =>
    match class? c with
    | some m => go (.among false false [m]) rest
    | none =>
      let digits := r.rest.takeWhile Char.isDigit
      let n := numberIn 10 digits
      if c != '0' && !digits.isEmpty && (n < 10 || n ≤ r.groups) then again n (r.rest.drop digits.length)
      else
        let (c, rest) := character r.rest
        plain c rest

/-- The group that has been opened. -/
def opened (behind : Nat) (inner : Reader Expression) : Reader Expression := do
  let r ← get
  let close : Reader Unit := do
    match (← get).rest with
    | ')' :: rest => modify fun now => { now with rest, flags := r.flags }
    | _ => throw (.unmatchedOpen behind)
  let enclosed (rest : List Char) : Reader Expression := do
    modify fun r => { r with rest }
    let e ← inner
    close
    return e
  let numbered (rest : List Char) : Reader Expression := do
    let n := (← get).groups + 1
    modify fun r => { r with groups := n }
    return .group n (← enclosed rest)
  let named (close : Char) (rest : List Char) : Reader Expression := do
    let name := rest.takeWhile (· != close)
    modify fun r => { r with names := (name, r.groups + 1) :: r.names }
    numbered (rest.drop (name.length + 1))
  match r.rest with
  | '?' :: ':' :: rest => enclosed rest
  | '?' :: '|' :: rest => enclosed rest
  | '?' :: '=' :: rest => return .around false false (← enclosed rest)
  | '?' :: '!' :: rest => return .around false true (← enclosed rest)
  | '?' :: '<' :: '=' :: rest => return .around true false (← enclosed rest)
  | '?' :: '<' :: '!' :: rest => return .around true true (← enclosed rest)
  | '?' :: '>' :: rest => return .only (← enclosed rest)
  | '?' :: '#' :: rest =>
    set { r with rest := (rest.dropWhile (· != ')')).drop 1 }
    return .empty
  | '?' :: 'P' :: '<' :: rest => named '>' rest
  | '?' :: '<' :: rest => named '>' rest
  | '?' :: '\'' :: rest => named '\'' rest
  | '?' :: rest =>
    let letters := rest.takeWhile fun c => c.isAlpha || c == '-' || c == '^'
    let after := rest.drop letters.length
    match letters.find? fun c => !"imsxnaulJU-^".toList.contains c with
    | some _ => throw (.badGroup rest.length)
    | none => pure ()
    let start := if letters.head? = some '^' then Flags.none_ else r.flags
    let (on, off) := match Text.cut? (· == '-') letters with
      | some (on, off) => (on, off)
      | none => (letters, [])
    let flags := off.foldl (·.with_ false ·) (on.foldl (·.with_ true ·) start)
    match after with
    | ')' :: after =>
      set { r with rest := after, flags }
      return .empty
    | ':' :: after =>
      set { r with flags }
      enclosed after
    | _ => throw (.badGroup after.length)
  | rest => numbered rest

/-- What stands in front of a repetition; `inner` reads the inside of a group. -/
def atom (inner : Reader Expression) : Reader Expression := do
  let r ← get
  let go (e : Expression) (rest : List Char) : Reader Expression := do
    set { r with rest }
    return e
  match r.rest with
  | '(' :: rest =>
    set { r with rest }
    opened rest.length inner
  | '[' :: '^' :: rest =>
    let (found, after) ← members (rest.length + 1) true (rest.length + 1) rest
    go (.among r.flags.folded true found) after
  | '[' :: rest =>
    let (found, after) ← members rest.length true (rest.length + 1) rest
    go (.among r.flags.folded false found) after
  | '.' :: rest => go (.any r.flags.feeds) rest
  | '^' :: rest => go (.start r.flags.lines) rest
  | '$' :: rest => go (.finish r.flags.lines) rest
  | '\\' :: rest =>
    set { r with rest }
    escaped
  | c :: rest => if (repetition? r.rest).isSome then throw (.nothingToRepeat rest.length) else plain c rest
  | [] => return .empty

/-- Expressions one after another. Every unit of fuel pays for one. -/
def branch (inner : Reader Expression) : Nat → Reader Expression
  | 0 => return .empty
  | fuel + 1 => do
    skip
    match (← get).rest with
    | [] | ')' :: _ | '|' :: _ => return .empty
    | _ =>
      let e ← repeated (← atom inner)
      return .both e (← branch inner fuel)

/-- Alternatives up to the end, or to the end of their group. Every unit of fuel pays for one, or for a group
    around. -/
def alternatives : Nat → Reader Expression
  | 0 => return .empty
  | fuel + 1 => do
    let e ← branch (alternatives fuel) ((← get).rest.length + 1)
    match (← get).rest with
    | '|' :: rest =>
      modify fun r => { r with rest }
      return .either e (← alternatives fuel)
    | _ => return e

/-- An expression with what its groups are called. -/
structure Named where
  body : Expression
  groups : Nat
  names : List (List Char × Nat)
deriving Repr, Inhabited

/-- The highest number of a group that has to be matched once more. -/
def highest : Expression → Nat
  | .again _ number => number
  | .group _ inner | .many _ _ _ inner | .around _ _ inner | .only inner => highest inner
  | .both first second | .either first second => max (highest first) (highest second)
  | _ => 0

/-- The expression that a text spells. -/
def read (flags : Flags) (s : List Char) : Except ExpressionFault Named := do
  let (e, r) ← (alternatives (s.length + 1)).run ⟨s, 0, [], flags⟩
  match r.rest with
  | [] => if r.groups < highest e then throw (.badReference 0) else return ⟨e, r.groups, r.names⟩
  | _ :: rest => throw (.unmatchedClose rest.length)

/-! ## Matching -/

/-- How far a text has been matched, where what counts of it begins, and from where to where each group has been
    matched. -/
structure Reached where
  start : Nat
  place : Nat
  groups : List (Nat × Nat × Nat)
deriving Repr, Inhabited

/-- What is matched on from a place; the first way that works. -/
abbrev Onward := Reached → Option Reached

def sameLetter (folded : Bool) (a b : Char) : Bool := a == b || (folded && a.toLower == b.toLower)

/-- A step repeated. Every unit of fuel pays for one. -/
def repeating (step : Onward → Onward) (greed : Greed) (onward : Onward) : Nat → Nat → Option Nat → Onward
  | 0, _, _, w => onward w
  | fuel + 1, least, most, w =>
    let further (_ : Unit) : Option Reached :=
      if most = some 0 then none
      else
        step (fun next =>
          if next.place = w.place ∧ least = 0 then none
          else repeating step greed onward fuel (least - 1) (most.map (· - 1)) next) w
    if 0 < least then further ()
    else
      match greed with
      | .least =>
        match onward w with
        | some found => some found
        | none => further ()
      | _ =>
        match further () with
        | some found => some found
        | none => onward w

/-- The ways in which an expression matches from a place on, and what comes after. -/
def matchOn (text : Array Char) : Expression → Onward → Onward
  | .empty, onward, w => onward w
  | .one folded c, onward, w =>
    match text[w.place]? with
    | some d => if sameLetter folded c d then onward { w with place := w.place + 1 } else none
    | none => none
  | .any feeds, onward, w =>
    match text[w.place]? with
    | some d => if feeds || d != '\n' then onward { w with place := w.place + 1 } else none
    | none => none
  | .among folded negated found, onward, w =>
    match text[w.place]? with
    | some d =>
      let has (c : Char) : Bool := found.any (·.has c)
      let inside := has d || (folded && (has d.toLower || has d.toUpper))
      if inside != negated then onward { w with place := w.place + 1 } else none
    | none => none
  | .start lines, onward, w =>
    if w.place = 0 ∨ (lines ∧ text[w.place - 1]? = some '\n') then onward w else none
  | .finish lines, onward, w =>
    if w.place = text.size ∨ (text[w.place]? = some '\n' ∧ (lines ∨ w.place + 1 = text.size)) then onward w else none
  | .lastPlace, onward, w => if w.place = text.size then onward w else none
  | .edge negated, onward, w =>
    let isWord (place? : Option Char) : Bool := (place?.map (wordMembers false).has).getD false
    let before := w.place != 0 && isWord text[w.place - 1]?
    if (before != isWord text[w.place]?) != negated then onward w else none
  | .group number inner, onward, w =>
    matchOn text inner (fun next =>
      onward { next with groups := (number, w.place, next.place) :: next.groups.filter (·.1 != number) }) w
  | .again folded number, onward, w =>
    match w.groups.find? (·.1 == number) with
    | none => none
    | some (_, low, high) =>
      let matched := (List.range (high - low)).all fun i =>
        match text[low + i]?, text[w.place + i]? with
        | some a, some b => sameLetter folded a b
        | _, _ => false
      if matched then onward { w with place := w.place + (high - low) } else none
  | .both first second, onward, w => matchOn text first (matchOn text second onward) w
  | .either first second, onward, w =>
    match matchOn text first onward w with
    | some found => some found
    | none => matchOn text second onward w
  | .many least most .all inner, onward, w =>
    (repeating (matchOn text inner) .most some (text.size + least + 1) least most w).bind onward
  | .many least most greed inner, onward, w =>
    repeating (matchOn text inner) greed onward (text.size + least + 1) least most w
  | .around false negated inner, onward, w =>
    match matchOn text inner some w, negated with
    | some found, false => onward { w with groups := found.groups }
    | none, true => onward w
    | _, _ => none
  | .around true negated inner, onward, w =>
    let found := (List.range (w.place + 1)).findSome? fun low =>
      matchOn text inner (fun next => if next.place = w.place then some next else none) { w with place := low }
    match found, negated with
    | some found, false => onward { w with groups := found.groups }
    | none, true => onward w
    | _, _ => none
  | .only inner, onward, w => (matchOn text inner some w).bind onward
  | .forget, onward, w => onward { w with start := w.place }

/-- Where an expression matches first, at a place or behind it. -/
def find? (e : Expression) (text : Array Char) (low : Nat) : Option Reached :=
  (List.range (text.size + 1 - low)).findSome? fun i => matchOn text e some ⟨low + i, low + i, []⟩

end Expression

end DiagramStudio.Script
