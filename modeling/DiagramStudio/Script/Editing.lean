import DiagramStudio.Script.Regular
import DiagramStudio.Script.Sum
import DiagramStudio.Script.Tool

/-!
The program that scripts call to edit lines: each line goes through a list of instructions, of which
each may be held to some lines, and is shown behind them.
-/

namespace DiagramStudio.Script.Editing

/-! ## Instructions -/

/-- Which lines are meant. -/
inductive Address where
  | line (n : Nat)
  /-- A line, and every so many behind it. -/
  | every (first step : Nat)
  | last
  | matching (e : Option Regular) (folded : Bool)

/-- Where a range of lines ends. -/
inductive Until where
  | address (a : Address)
  /-- So many lines behind its first. -/
  | further (n : Nat)

/-- The lines that an instruction is held to; a range from no line on may end in the first. -/
structure Scope where
  first : Option Address
  last : Option Until
  early : Bool
  negated : Bool

/-- A part of a replacement. -/
inductive Filling where
  | text (s : List Char)
  | group (n : Nat)
  /-- What follows is put in capitals or small letters, or only its first letter is. -/
  | cased (kind : Char)

structure Substitution where
  expression : Option Regular
  folded : Bool
  filling : List Filling
  /-- Every match is replaced, from the one with the number on. -/
  every : Bool
  number : Nat
  prints : Bool
  /-- The file to which a line that was changed is written as well. -/
  target : Option (List Char)

inductive Act where
  | substitute (s : Substitution)
  /-- What is told by one letter alone. -/
  | plain (letter : Char)
  | quit (prints : Bool) (status : Nat)
  | put (letter : Char) (text : List Char)
  /-- The line is written to a file. -/
  | write (target : List Char)
  /-- What a file holds is shown behind the line. -/
  | insert (source : List Char)
  | translate (table : List (Char × Char))
  | label (name : List Char)
  /-- Instructions are gone on with at a label; `when` says whether only after a replacement, or only
      without one. -/
  | jump (when : Option Bool) (name : List Char)
  | open_
  | close

structure Instruction where
  scope : Scope
  act : Act

/-! ## Reading -/

/-- What is wrong with instructions, and at which of their characters. -/
structure EditFault where
  place : Nat
  what : String

/-- What is left of a list of instructions, and how long all of it is. -/
structure Source where
  rest : List Char
  whole : Nat
  extended : Bool

abbrev Reader := StateT Source (Except EditFault)

/-- A fault at the last character that was read. -/
def fail {α : Type} (what : String) : Reader α := do
  let s ← get
  throw ⟨s.whole - s.rest.length, what⟩

def peek : Reader (Option Char) := return (← get).rest.head?

def drop : Reader Unit := modify fun s => { s with rest := s.rest.drop 1 }

def skip (p : Char → Bool) : Reader Unit := modify fun s => { s with rest := s.rest.dropWhile p }

def blank (c : Char) : Bool := c == ' ' || c == '\t'

def taken (p : Char → Bool) : Reader (List Char) := do
  let s ← get
  set { s with rest := s.rest.dropWhile p }
  return s.rest.takeWhile p

def natural : Reader Nat := return (Sum.digits 10 0 (← taken Char.isDigit)).1

/-- The text up to a sign that is not behind a backslash or between brackets, and what follows the sign.
    A backslash in front of the sign is left out. Every unit of fuel pays for a character. -/
def delimited (sign : Char) (bracketed : Bool) : Nat → List Char → Option (List Char × List Char)
  | 0, _ => none
  | fuel + 1, s =>
    let more (front rest : List Char) : Option (List Char × List Char) :=
      (delimited sign bracketed fuel rest).map fun (body, after) => (front ++ body, after)
    match s with
    | [] => none
    | '\\' :: c :: rest =>
      if c = sign then more (if c.isAlphanum || c == '/' || c == ',' || c == '#' then [c] else ['\\', c]) rest
      else more ['\\', c] rest
    | c :: rest =>
      if c = sign then some ([], rest)
      else if c = '[' ∧ bracketed then
        let inner := match rest with
          | '^' :: ']' :: _ => 2
          | ']' :: _ => 1
          | '^' :: _ => 1
          | _ => 0
        match Text.cut? (· == ']') (rest.drop inner) with
        | some (body, after) =>
          if body.contains '\n' then none else more ('[' :: rest.take inner ++ body ++ [']']) after
        | none => none
      else more [c] rest

/-- The expression that a text spells; the empty text stands for the one that was used last. -/
def expression (s : List Char) : Reader (Option Regular) := do
  if s.isEmpty then return none
  match Regular.read (← get).extended s with
  | .ok e => return some e
  | .error fault => fail fault.message

/-- One address, if one comes next. -/
def address? : Reader (Option Address) := do
  match ← peek with
  | some '$' =>
    drop
    return some .last
  | some c =>
    if c.isDigit then
      let n ← natural
      match ← peek with
      | some '~' =>
        drop
        return some (.every n (← natural))
      | _ => return some (.line n)
    else if c = '/' ∨ c = '\\' then
      drop
      let sign ← if c = '/' then pure '/' else do
        match ← peek with
        | some d =>
          drop
          pure d
        | none => fail "unexpected `,'"
      let s ← get
      match delimited sign true (s.rest.length + 1) s.rest with
      | none =>
        set { s with rest := [] }
        fail "unterminated address regex"
      | some (body, rest) =>
        set { s with rest }
        let e ← expression body
        let folded := rest.head? == some 'I'
        if folded then drop
        return some (.matching e folded)
    else return none
  | none => return none

/-- The lines that an instruction is held to. -/
def scope : Reader Scope := do
  let first ← address?
  skip blank
  let last ← match first, ← peek with
    | some _, some ',' => do
      drop
      skip blank
      match ← peek with
      | some '+' => do
        drop
        pure (some (Until.further (← natural)))
      | _ =>
        match ← address? with
        | some a => pure (some (Until.address a))
        | none => fail "unexpected `,'"
    | _, _ => pure none
  skip blank
  let negated ← match ← peek with
    | some '!' => do
      drop
      skip fun c => blank c || c == '!'
      pure true
    | _ => pure false
  let early := match first with
    | some (.line 0) => true
    | _ => false
  return ⟨first, last, early, negated⟩

/-- The parts of a replacement. Every unit of fuel pays for a character. -/
def fillings : Nat → List Char → List Filling
  | 0, _ => []
  | _ + 1, [] => []
  | fuel + 1, '\\' :: c :: rest =>
    if c.isDigit then .group (c.toNat - '0'.toNat) :: fillings fuel rest
    else if ['U', 'L', 'E', 'u', 'l'].contains c then .cased c :: fillings fuel rest
    else
      let d := match c with
        | 'n' => '\n'
        | 't' => '\t'
        | 'r' => '\r'
        | c => c
      .text [d] :: fillings fuel rest
  | fuel + 1, '&' :: rest => .group 0 :: fillings fuel rest
  | fuel + 1, c :: rest => .text [c] :: fillings fuel rest

/-- How many groups an expression has. -/
def groupsOf : Regular → Nat
  | .group _ inner => groupsOf inner + 1
  | .both a b => groupsOf a + groupsOf b
  | .either a b => groupsOf a + groupsOf b
  | .many _ _ inner => groupsOf inner
  | _ => 0

/-- The end of an instruction. -/
def finish : Reader Unit := do
  skip blank
  match ← peek with
  | none => return ()
  | some '}' => return ()
  | some '#' => return ()
  | some c =>
    if c = ';' ∨ c = '\n' then drop
    else
      drop
      fail "extra characters after command"

/-- The name of a file, which ends with its line. -/
def fileName : Reader (List Char) := do
  let name ← taken (· != '\n')
  if name.isEmpty then fail "missing filename in r/R/w/W commands"
  return name

/-- The signs behind a replacement. Every unit of fuel pays for one. -/
def substitutionFlags : Nat → Substitution → Reader Substitution
  | 0, s => return s
  | fuel + 1, s => do
    match ← peek with
    | some 'g' =>
      drop
      if s.every then fail "multiple `g' options to `s' command"
      substitutionFlags fuel { s with every := true }
    | some 'p' =>
      drop
      if s.prints then fail "multiple `p' options to `s' command"
      substitutionFlags fuel { s with prints := true }
    | some 'w' =>
      drop
      skip blank
      return { s with target := some (← fileName) }
    | some c =>
      if c = 'i' ∨ c = 'I' then
        drop
        substitutionFlags fuel { s with folded := true }
      else if c = 'm' ∨ c = 'M' then
        drop
        substitutionFlags fuel s
      else if c.isDigit then
        let n ← natural
        if n = 0 then fail "number option to `s' command may not be zero"
        substitutionFlags fuel { s with number := n }
      else if c = ';' ∨ c = '\n' ∨ c = '}' ∨ c = '#' ∨ blank c then
        finish
        return s
      else
        drop
        fail "unknown option to `s'"
    | none => return s

/-- The two texts between signs behind a letter, of which the first sign comes next. -/
def twoTexts (letter : Char) (bracketed : Bool) : Reader (List Char × List Char) := do
  let broken : Reader (List Char × List Char) := do
    modify fun s => { s with rest := [] }
    fail ("unterminated `" ++ letter.toString ++ "' command")
  match ← peek with
  | none => broken
  | some sign =>
    drop
    let s ← get
    match delimited sign bracketed (s.rest.length + 1) s.rest with
    | none => broken
    | some (first, rest) =>
      match delimited sign false (rest.length + 1) rest with
      | none => broken
      | some (second, rest) =>
        set { s with rest }
        return (first, second)

def substitution : Reader Act := do
  let (first, second) ← twoTexts 's' true
  let filling := fillings (second.length + 1) second
  let s ← substitutionFlags ((← get).rest.length + 1) ⟨none, false, filling, false, 1, false, none⟩
  let e ← expression first
  let most := (filling.map fun
    | .group n => n
    | _ => 0).foldl max 0
  match e with
  | some e =>
    if groupsOf e < most then fail ("invalid reference \\" ++ toString most ++ " on `s' command's RHS")
  | none => pure ()
  return .substitute { s with expression := e }

/-- The characters of a text in which backslashes are resolved. -/
def unescaped : List Char → List Char
  | '\\' :: 'n' :: rest => '\n' :: unescaped rest
  | '\\' :: c :: rest => c :: unescaped rest
  | c :: rest => c :: unescaped rest
  | [] => []

/-- The text of an instruction that puts one in place, up to the end of its line. -/
def putText : Reader (List Char) := do
  skip blank
  let s ← get
  let rest := match s.rest with
    | '\\' :: more =>
      match more.dropWhile blank with
      | '\n' :: more => more
      | _ => more
    | rest => rest
  let rec lines : List Char → List Char × List Char
    | '\\' :: c :: more =>
      let (body, after) := lines more
      (c :: body, after)
    | '\n' :: more => ([], more)
    | c :: more =>
      let (body, after) := lines more
      (c :: body, after)
    | [] => ([], [])
  let (body, after) := lines rest
  set { s with rest := after }
  return body

/-- What an instruction does, of which the letter has been read. -/
def act (c : Char) (s : Scope) : Reader Act := do
  match c with
  | '{' => return .open_
  | '}' =>
    finish
    return .close
  | 's' => substitution
  | 'y' =>
    let (first, second) ← twoTexts 'y' false
    let a := unescaped first
    let b := unescaped second
    if a.length != b.length then fail "strings for `y' command are different lengths"
    finish
    return .translate (a.zip b)
  | ':' =>
    skip blank
    let name ← taken fun c => c != '\n' && c != ';' && !blank c
    if name.isEmpty then fail "\":\" lacks a label"
    finish
    return .label name
  | _ =>
    if c = 'a' ∨ c = 'i' ∨ c = 'c' then
      if ((← get).rest.dropWhile blank).isEmpty then fail "expected \\ after `a', `c' or `i'"
      return .put c (← putText)
    else if c = 'b' ∨ c = 't' ∨ c = 'T' then
      skip blank
      let name ← taken fun c => c != '\n' && c != ';' && c != '\x7d' && !blank c
      finish
      return .jump (if c = 'b' then none else some (c == 't')) name
    else if c = 'w' ∨ c = 'r' then
      skip blank
      let name ← fileName
      return if c = 'w' then .write name else .insert name
    else if c = 'q' ∨ c = 'Q' then
      if s.last.isSome then fail "command only uses one address"
      skip blank
      let status ← natural
      finish
      return .quit (c == 'q') status
    else if ['p', 'P', 'd', 'D', 'n', 'N', '=', 'h', 'H', 'g', 'G', 'x', 'z', 'l', 'F'].contains c then
      finish
      return .plain c
    else fail ("unknown command: `" ++ c.toString ++ "'")

/-- Instructions up to the end. `open_` is how many groups are open. Every unit of fuel pays for a
    character. -/
def instructions : Nat → Nat → Reader (List Instruction)
  | 0, _ => return []
  | fuel + 1, open_ => do
    skip fun c => blank c || c == '\n' || c == ';'
    match ← peek with
    | none =>
      if open_ = 0 then return [] else throw ⟨0, "unmatched `\x7b'"⟩
    | some '#' =>
      skip (· != '\n')
      instructions fuel open_
    | some _ =>
      let s ← scope
      match ← peek with
      | none => fail "missing command"
      | some c =>
        drop
        if c = '\x7d' ∧ s.first.isSome then fail "\x7d doesn't want any addresses"
        if c = '\x7d' ∧ open_ = 0 then fail "unexpected `\x7d'"
        if c = ':' ∧ s.first.isSome then fail ": doesn't want any addresses"
        let a ← act c s
        let open_ := match a with
          | .open_ => open_ + 1
          | .close => open_ - 1
          | _ => open_
        return ⟨s, a⟩ :: (← instructions fuel open_)

/-- The instructions that a text spells. -/
def read (extended : Bool) (s : List Char) : Except EditFault (List Instruction) :=
  (instructions (s.length + 1) 0).run ⟨s, s.length, extended⟩ |>.map (·.1)

/-! ## Replacing -/

/-- A text in which letters are put in another case. `next` is for the first letter alone, `all` for
    those behind it. -/
def recased (next all : Option Char) : List Char → List Char
  | [] => []
  | c :: rest =>
    let put (kind : Option Char) (c : Char) : Char :=
      match kind with
      | some 'U' => c.toUpper
      | some 'u' => c.toUpper
      | some 'L' => c.toLower
      | some 'l' => c.toLower
      | _ => c
    put (next.or all) c :: recased none all rest

/-- What takes the place of a match. -/
def filled (text : Array Char) (m : Regular.Match) (filling : List Filling) : List Char :=
  (filling.foldl (fun (out, next, all) part =>
    let write (s : List Char) : List Char × Option Char × Option Char :=
      if s.isEmpty then (out, next, all) else (out ++ recased next all s, none, all)
    match part with
    | .text s => write s
    | .group 0 => write (Regular.between text m.start m.finish)
    | .group n =>
      match m.groups.find? (·.1 == n) with
      | some (_, low, high) => write (Regular.between text low high)
      | none => (out, next, all)
    | .cased 'E' => (out, none, none)
    | .cased 'U' => (out, next, some 'U')
    | .cased 'L' => (out, next, some 'L')
    | .cased c => (out, some c, all)) (([], none, none) : List Char × Option Char × Option Char)).1

/-- A text with its matches replaced from a place on, the next being the one with the given number;
    whether any was. An empty match directly behind another does not count. Every unit of fuel pays for
    a place. -/
def substituted (s : Substitution) (e : Regular) (text : Array Char) :
    Nat → (low : Nat) → (closed : Option Nat) → (count : Nat) → List Char × Bool
  | 0, low, _, _ => (Regular.between text low text.size, false)
  | fuel + 1, low, closed, count =>
    match Regular.find? s.folded e text low with
    | none => (Regular.between text low text.size, false)
    | some m =>
      let front := Regular.between text low m.start
      if m.start = m.finish ∧ closed = some m.start then
        if m.start < text.size then
          let (rest, any) := substituted s e text fuel (m.start + 1) none count
          (front ++ Regular.between text m.start (m.start + 1) ++ rest, any)
        else (front, false)
      else
        let counts := s.number ≤ count && (s.every || count == s.number)
        let here := if counts then filled text m s.filling else Regular.between text m.start m.finish
        if counts && !s.every then (front ++ here ++ Regular.between text m.finish text.size, true)
        else if m.start = m.finish then
          if m.start < text.size then
            let (rest, any) := substituted s e text fuel (m.start + 1) none (count + 1)
            (front ++ here ++ Regular.between text m.start (m.start + 1) ++ rest, counts || any)
          else (front ++ here, counts)
        else
          let (rest, any) := substituted s e text fuel m.finish (some m.finish) (count + 1)
          (front ++ here ++ rest, counts || any)

/-! ## Running -/

structure Editor where
  disk : Disk
  /-- What ends a line. -/
  ending : Char
  /-- The lines that are still to come. -/
  rest : List (List Char)
  line : Nat
  pattern : List Char
  hold : List Char
  /-- What has been shown, in pieces, the last first. -/
  out : List (List Char)
  /-- What is shown behind the line. -/
  behind : List Char
  /-- Something was replaced since the line was taken up, or since this was last asked. -/
  replaced : Bool
  /-- For instructions whose range is open the line in which it ends at the latest, if that is known. -/
  active : List (Nat × Option Nat)
  /-- The expression that was used last. -/
  recent : Option Regular
  status : Nat
  quits : Bool

namespace Editor

def show_ (e : Editor) (s : List Char) : Editor := { e with out := (s ++ [e.ending]) :: e.out }

/-- What is to be shown behind the line is shown. -/
def showBehind (e : Editor) : Editor := { e with out := e.behind :: e.out, behind := [] }

/-- A line written to a file, or to the output under the name that it has. -/
def writeTo (e : Editor) (target s : List Char) : Editor :=
  if target = "/dev/stdout".toList then e.show_ s
  else
    let before := ((e.disk.read (pathOf target)).toOption).getD []
    match e.disk.write (pathOf target) (before ++ bytesOf (s ++ [e.ending])) with
    | .ok disk => { e with disk }
    | .error _ => e

/-- The spelling of a character that would not be seen. -/
def spelled (c : Char) : List Char :=
  match c with
  | '\\' => ['\\', '\\']
  | '\x07' => ['\\', 'a']
  | '\x08' => ['\\', 'b']
  | '\x0c' => ['\\', 'f']
  | '\n' => ['\\', 'n']
  | '\r' => ['\\', 'r']
  | '\t' => ['\\', 't']
  | '\x0b' => ['\\', 'v']
  | c =>
    if c < ' ' || '~' < c then
      let digits := Nat.toDigits 8 c.toNat
      '\\' :: List.replicate (3 - digits.length) '0' ++ digits
    else [c]

/-- A line in characters that can be seen, cut where it would grow too wide. -/
def visible (s : List Char) : List Char :=
  (s.foldl (fun (out, width) c =>
    let part := spelled c
    if 69 < width + part.length then (out ++ ['\\', '\n'] ++ part, part.length)
    else (out ++ part, width + part.length)) (([], 0) : List Char × Nat)).1 ++ ['$']

/-- Whether an address means the line, and the expression that was used last. -/
def meets (e : Editor) (a : Address) : Bool × Editor :=
  match a with
  | .line n => (n == e.line, e)
  | .every first step =>
    (if step = 0 then e.line == first else first ≤ e.line && (e.line - first) % step == 0, e)
  | .last => (e.rest.isEmpty, e)
  | .matching given folded =>
    match given.or e.recent with
    | none => (false, e)
    | some x => ((Regular.find? folded x e.pattern.toArray 0).isSome, { e with recent := some x })

/-- Whether an instruction, told by its number, is held to the line. -/
def inScope (e : Editor) (number : Nat) (s : Scope) : Bool × Editor :=
  let (found, e) : Bool × Editor :=
    match s.first, s.last with
    | none, _ => (true, e)
    | some a, none => e.meets a
    | some a, some b =>
      let close (e : Editor) : Editor := { e with active := withoutEntry number e.active }
      let open_ (e : Editor) (limit : Option Nat) : Editor :=
        { e with active := withEntry number limit e.active }
      let ends (e : Editor) : Bool × Editor :=
        match b with
        | .further _ => (false, e)
        | .address (.line n) => (n ≤ e.line, e)
        | .address b => e.meets b
      match entryFor? number e.active with
      | some (some limit) =>
        if e.line < limit then (true, e) else (true, close e)
      | some none =>
        match b with
        | .address (.line n) => if e.line < n then (true, e) else (e.line == n, close e)
        | _ =>
          let (done, e) := ends e
          (true, if done then close e else e)
      | none =>
        if s.early && e.line == 1 then
          let (done, e) := ends e
          (true, if done then e else open_ e none)
        else
          let (starts, e) := e.meets a
          if !starts then (false, e)
          else
            match b with
            | .further n => (true, if n = 0 then e else open_ e (some (e.line + n)))
            | .address (.line n) => (true, if n ≤ e.line then e else open_ e none)
            | .address _ => (true, open_ e none)
  (found != s.negated, e)

/-- The line shown at its end, unless the program is quiet, and what is shown behind it. -/
def conclude (quiet : Bool) (e : Editor) : Editor :=
  showBehind (if quiet then e else e.show_ e.pattern)

/-- Where instructions go on. -/
inductive Next where
  | on
  | at_ (number : Nat)
  /-- The line is done; `shows` says whether it is shown. -/
  | done (shows : Bool)
  /-- The line is done, and what is left of it is taken up again. -/
  | again

/-- The number of the instruction behind the group that opens at a number. -/
def behindGroup (all : Array Instruction) : Nat → Nat → Nat → Nat
  | 0, number, _ => number
  | fuel + 1, number, depth =>
    match all[number]? with
    | none => number
    | some i =>
      match i.act with
      | .open_ => behindGroup all fuel (number + 1) (depth + 1)
      | .close => if depth ≤ 1 then number + 1 else behindGroup all fuel (number + 1) (depth - 1)
      | _ => behindGroup all fuel (number + 1) depth

/-- The number of the instruction behind a label. -/
def labelled (all : Array Instruction) (name : List Char) : Nat :=
  if name.isEmpty then all.size
  else
    (all.findIdx? fun i =>
      match i.act with
      | .label n => n == name
      | _ => false).getD all.size

/-- The next line joined or taken up, if there is one. -/
def nextLine (quiet joins : Bool) (e : Editor) : Next × Editor :=
  match e.rest with
  | [] => (.done true, { e with quits := true })
  | next :: rest =>
    if joins then
      (.on, { e.showBehind with pattern := e.pattern ++ '\n' :: next, rest, line := e.line + 1 })
    else
      let e := e.conclude quiet
      (.on, { e with pattern := next, rest, line := e.line + 1 })

/-- An instruction told by its letter carried out. -/
def plain (quiet : Bool) (e : Editor) (c : Char) : Next × Editor :=
  match c with
  | 'p' => (.on, e.show_ e.pattern)
  | 'P' => (.on, e.show_ (e.pattern.takeWhile (· != '\n')))
  | 'd' => (.done false, e)
  | 'D' =>
    match Text.cut? (· == '\n') e.pattern with
    | some (_, rest) => (.again, { e with pattern := rest })
    | none => (.done false, e)
  | 'n' => e.nextLine quiet false
  | 'N' => e.nextLine quiet true
  | '=' => (.on, e.show_ (shown e.line))
  | 'h' => (.on, { e with hold := e.pattern })
  | 'H' => (.on, { e with hold := e.hold ++ '\n' :: e.pattern })
  | 'g' => (.on, { e with pattern := e.hold })
  | 'G' => (.on, { e with pattern := e.pattern ++ '\n' :: e.hold })
  | 'x' => (.on, { e with pattern := e.hold, hold := e.pattern })
  | 'z' => (.on, { e with pattern := [] })
  | 'l' => (.on, e.show_ (visible e.pattern))
  | 'F' => (.on, e.show_ ['-'])
  | _ => (.on, e)

/-- One instruction carried out. -/
def step (quiet : Bool) (all : Array Instruction) (number : Nat) (i : Instruction) (e : Editor) :
    Next × Editor :=
  let (applies, e) := e.inScope number i.scope
  if !applies then
    match i.act with
    | .open_ => (.at_ (behindGroup all (all.size + 1) number 0), e)
    | _ => (.on, e)
  else
    match i.act with
    | .plain c => e.plain quiet c
    | .open_ => (.on, e)
    | .close => (.on, e)
    | .label _ => (.on, e)
    | .substitute s =>
      match s.expression.or e.recent with
      | none => (.on, e)
      | some x =>
        let text := e.pattern.toArray
        let (after, any) := substituted s x text (text.size + 2) 0 none 1
        let e := { e with recent := some x }
        if !any then (.on, e)
        else
          let e := { e with pattern := after, replaced := true }
          let e := if s.prints then e.show_ after else e
          (.on, match s.target with
            | some target => e.writeTo target after
            | none => e)
    | .translate table => (.on, { e with pattern := e.pattern.map fun c => (entryFor? c table).getD c })
    | .put 'a' text => (.on, { e with behind := e.behind ++ text ++ ['\n'] })
    | .put 'i' text => (.on, e.show_ text)
    | .put _ text =>
      let open_ := (entryFor? number e.active).isSome && !i.scope.negated
      (.done false, if open_ then e else e.show_ text)
    | .write target => (.on, e.writeTo target e.pattern)
    | .insert source =>
      let found := (((e.disk.read (pathOf source)).toOption).map charsOf).getD []
      (.on, { e with behind := e.behind ++ found })
    | .quit prints status => (.done prints, { e with quits := true, status })
    | .jump when name =>
      match when with
      | none => (.at_ (labelled all name), e)
      | some replaced =>
        if e.replaced == replaced then (.at_ (labelled all name), { e with replaced := false })
        else (.on, { e with replaced := false })

/-- Instructions carried out from a number on. Every unit of fuel pays for one. -/
def cycle (quiet : Bool) (all : Array Instruction) : Nat → Nat → Editor → Editor
  | 0, _, e => { e with quits := true }
  | fuel + 1, number, e =>
    match all[number]? with
    | none => e.conclude quiet
    | some i =>
      match e.step quiet all number i with
      | (.on, e) => cycle quiet all fuel (number + 1) e
      | (.at_ other, e) => cycle quiet all fuel other e
      | (.done shows, e) => e.conclude (quiet || !shows)
      | (.again, e) => cycle quiet all fuel 0 e.showBehind

/-- How many instructions one line may be led through. -/
def cycleFuel : Nat := 100000

/-- The lines led through the instructions. Every unit of fuel pays for a line. -/
def run (quiet : Bool) (all : Array Instruction) : Nat → Editor → Editor
  | 0, e => e
  | fuel + 1, e =>
    if e.quits then e
    else
      match e.rest with
      | [] => e
      | next :: rest =>
        let e := { e with pattern := next, rest, line := e.line + 1, replaced := false }
        run quiet all fuel (cycle quiet all cycleFuel 0 e)

end Editor

/-- The file system with the files emptied that lines are written to. -/
def emptied (all : List Instruction) (disk : Disk) : Disk :=
  all.foldl (fun disk i =>
    let target? : Option (List Char) := match i.act with
      | .write target => some target
      | .substitute s => s.target
      | _ => none
    match target? with
    | some target => ((disk.write (pathOf target) []).toOption).getD disk
    | none => disk) disk

/-- What an editor leaves: what is shown, the status, and the file system. -/
structure Edited where
  out : List Char
  status : Nat
  disk : Disk

/-- A text led through instructions. Its lines may end with the character zero. -/
def edit (quiet byZero : Bool) (all : List Instruction) (disk : Disk) (text : List Char) : Edited :=
  let ending := if byZero then '\x00' else '\n'
  let parts := Text.pieces (· == ending) text
  let ended := parts.getLast? == some []
  let lines := if ended then parts.dropLast else parts
  let e := Editor.run quiet all.toArray (lines.length + 1)
    ⟨disk, ending, lines, 0, [], [], [], [], false, [], none, 0, false⟩
  let out := e.out.reverse.flatten
  let out := if !ended && e.rest.isEmpty && out.getLast? == some ending then out.dropLast else out
  ⟨out, e.status, e.disk⟩

def usage : String := "Usage: sed [OPTION]... \x7bscript-only-if-no-other-script\x7d [input-file]..."

/-- A label that is jumped to without being there. -/
def missingLabel? (all : List Instruction) : Option (List Char) :=
  all.findSome? fun i =>
    match i.act with
    | .jump _ name => if name.isEmpty || labelledIn all name then none else some name
    | _ => none
where
  labelledIn (all : List Instruction) (name : List Char) : Bool :=
    all.any fun i =>
      match i.act with
      | .label n => n == name
      | _ => false

def sed (c : Call) : Done :=
  let long : Options.LongNames :=
    [("quiet", 'n'), ("silent", 'n'), ("expression", 'e'), ("regexp-extended", 'E'), ("in-place", 'i'),
      ("file", 'f'), ("separate", 's')]
  match Options.read "nErszui".toList "efl".toList long (c.args.length + 1) c.args with
  | .error fault => (c.done 1).complain 1 ("sed: " ++ fault.message ++ "\n" ++ usage)
  | .ok o =>
    let scripts := (o.given.filter fun g => g.1 == ['e'] || g.1 == ['f']).map fun g =>
      if g.1 == ['f'] then (((c.disk.read (pathOf g.2)).toOption).map charsOf).getD [] else g.2
    let (script?, operands) := match scripts, o.operands with
      | [], first :: more => (some first, more)
      | [], [] => (none, [])
      | scripts, operands => (some (Text.unlines scripts), operands)
    match script? with
    | none => (c.done 1).complain 1 usage
    | some script =>
      match read (o.has 'E' || o.has 'r') script with
      | .error fault =>
        (c.done 1).complain 1
          ("sed: -e expression #1, char " ++ toString fault.place ++ ": " ++ fault.what)
      | .ok all =>
        match missingLabel? all with
        | some name => (c.done 4).complain 4 ("sed: can't find label for jump to `" ++ told name ++ "'")
        | none =>
          let c := { c with disk := emptied all c.disk }
          let byZero := o.has 'z'
          let quiet := o.has 'n' || script.take 3 == ['#', 'n', '\n']
          let unread (p : List Char) (fault : SystemFault) : String :=
            if fault = .isDirectory then "sed: couldn't edit " ++ told p ++ ": not a regular file"
            else "sed: can't read " ++ told p ++ ": " ++ fault.text
          if o.has 'i' then
            operands.foldl (fun d p =>
              match d.disk.read (pathOf p) with
              | .error fault => Done.complain d (if fault = .isDirectory then 4 else 2) (unread p fault)
              | .ok bytes =>
                let edited := edit quiet byZero all d.disk (charsOf bytes)
                match edited.disk.write (pathOf p) (bytesOf edited.out) with
                | .ok disk => { d with disk }
                | .error fault => d.complain 4 (unread p fault)) (c.done 0)
          else
            let (text, d) := c.eachFile 2
              (fun p fault => if fault = .isDirectory then "sed: couldn't read " ++ told p ++ ": "
                ++ fault.text else "sed: can't read " ++ told p ++ ": " ++ fault.text)
              operands (fun d _ s =>
                d.write (if d.out.isEmpty || d.out.getLast? == some '\n' then s else '\n' :: s)) |>
              fun d => (d.out, { d with out := [] })
            let edited := edit quiet byZero all d.disk text
            { d with
              out := edited.out, disk := edited.disk
              status := if edited.status != 0 then edited.status else d.status }

end DiagramStudio.Script.Editing
