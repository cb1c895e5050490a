import DiagramStudio.Keyed
import DiagramStudio.Script.Basic

/-!
Reading the tokens of scripts. Words may hold commands of their own, so what reads a word is given a
reader of commands. A text of the script that a command reads begins behind the line of the command
and is read when that line ends.
-/

namespace DiagramStudio.Script

/-- A text that is bound to a command and still has to be read. -/
structure Pending where
  /-- The number of the document. -/
  number : Nat
  /-- The line that ends the text. -/
  mark : List Char
  strips : Bool
  /-- Values and outputs in the text are put in place. -/
  expands : Bool

/-- What is left of a script, and what has been found in it. -/
structure Source where
  rest : List Char
  line : Nat
  /-- A token that was read ahead. -/
  held : Option Token
  pending : List Pending
  documents : List Word
  /-- The texts that words stand for at the front of commands. -/
  aliases : List (List Char × List Char)
  /-- Words whose texts are being read, each with how much is left behind its text. -/
  busy : List (List Char × Nat)
  /-- How much is left in front of a word that may stand for a text though it is not at the front. -/
  offers : Option Nat

/-- A step of reading: it takes text from the front or finds a fault in a line. -/
abbrev Reader := StateT Source (Except (Nat × ScriptFault))

namespace Reader

def fail {α : Type} (fault : ScriptFault) : Reader α := do throw ((← get).line, fault)

/-- A fault in the last line. -/
def failAtEnd {α : Type} (fault : ScriptFault) : Reader α := do
  let s ← get
  throw (s.line + s.rest.count '\n', fault)

def unexpected {α : Type} (found : Token) (expected : Option Token) : Reader α :=
  fail (.unexpected found expected)

/-! ## Characters -/

/-- The text behind joined lines at its front, and the number of the line. -/
def skipJoins : Nat → List Char → Nat × List Char
  | line, '\\' :: '\n' :: rest => skipJoins (line + 1) rest
  | line, s => (line, s)

/-- The text behind blanks, joined lines and a comment at its front, and the number of the line. -/
def skipBlanks (inComment : Bool) : Nat → List Char → Nat × List Char
  | line, [] => (line, [])
  | line, '\\' :: '\n' :: rest =>
    if inComment then (line, '\n' :: rest) else skipBlanks false (line + 1) rest
  | line, c :: rest =>
    if inComment then if c = '\n' then (line, c :: rest) else skipBlanks true line rest
    else if c = ' ' ∨ c = '\t' then skipBlanks false line rest
    else if c = '#' then skipBlanks true line rest
    else (line, c :: rest)

/-- The next character, lines joined in front of it. -/
def peek : Reader (Option Char) := do
  let s ← get
  let (line, rest) := skipJoins s.line s.rest
  set { s with line, rest }
  return rest.head?

/-- The next character is taken. -/
def drop : Reader Unit := modify fun s =>
  { s with rest := s.rest.drop 1, line := if s.rest.head? = some '\n' then s.line + 1 else s.line }

/-- Whether a character comes next; it is taken if so. -/
def takes (c : Char) : Reader Bool := do
  if (← peek) = some c then
    drop
    return true
  return false

/-- The characters at the front that `p` holds of. Every unit of fuel pays for one. -/
def run (p : Char → Bool) : Nat → Reader (List Char)
  | 0 => return []
  | fuel + 1 => do
    match ← peek with
    | some c =>
      if p c then
        drop
        return c :: (← run p fuel)
      else return []
    | none => return []

def length : Reader Nat := return (← get).rest.length

/-- The characters up to a quote that closes them. -/
def untilQuote : Reader (List Char) := do
  let s ← get
  match Text.cut? (· == '\'') s.rest with
  | some (body, rest) =>
    set { s with rest, line := s.line + body.count '\n' }
    return body
  | none => failAtEnd .unclosedQuote

/-! ## Words -/

/-- Where characters of a word stand, which tells what they mean and where they end. -/
inductive Frame where
  /-- By themselves. -/
  | plain
  | quotes
  /-- Between the braces of a parameter. -/
  | braces (quoted : Bool)
  /-- In a text that a command reads. -/
  | document
  /-- In an expression, between so many parentheses of its own. -/
  | sum (depth : Nat)
deriving DecidableEq

def Frame.isQuoted : Frame → Bool
  | plain | braces false => false
  | _ => true

/-- A part in front of a word; texts that touch are one. -/
def push (p : Part) (w : Word) : Word :=
  match p, w with
  | .text q s, .text q' s' :: more => if q = q' then .text q (s ++ s') :: more else p :: w
  | _, _ => p :: w

/-- The parts between double quotes as parts of a word. They make a word even if there is none of
    them; only parameters by themselves may come to nothing. -/
def ofQuotes (inside : Word) : Word :=
  match inside with
  | [.value true ['@'] .plain] => inside
  | _ => push (.text true []) inside

/-- What a backslash within quotes takes the meaning from. -/
def escapes (frame : Frame) (c : Char) : Bool :=
  c == '\\' || c == '\x60' || c == '$' || (c == '"' && frame != .document)
    || (c == '\x7d' && frame == .braces true)

/-- An end of a line where a name is wanted does not count as one. -/
def dropUncounted : Reader Unit := modify fun s =>
  match s.rest with
  | '\n' :: rest => { s with rest }
  | _ => s

/-- A parameter in braces whose name has been read. -/
def braceForm (word : Frame → Reader Word) (quoted : Bool) (name : List Char) : Reader Part := do
  let fallbackFor (c : Char) : Option Fallback :=
    match c with
    | '-' => some .replaced
    | '=' => some .assigned
    | '?' => some .refused
    | '+' => some .masked
    | _ => none
  let unknown : Reader Part := do
    dropUncounted
    let _ ← word (.braces quoted)
    return .value quoted name .unknown
  let fallback (kind : Fallback) (orEmpty : Bool) : Reader Part := do
    drop
    return .value quoted name (.fallback kind orEmpty (← word (.braces quoted)))
  match ← peek with
  | none => unknown
  | some c =>
    if c = '\x7d' then
      drop
      return .value quoted name .plain
    else if c = ':' then
      drop
      match ← peek with
      | some d =>
        match fallbackFor d with
        | some kind => fallback kind true
        | none => unknown
      | none => unknown
    else if c = '%' ∨ c = '#' then
      drop
      let longest ← takes c
      return .value quoted name (.trimmed (c == '%') longest (← word (.braces false)))
    else
      match fallbackFor c with
      | some kind => fallback kind false
      | none => do
        if c != '\n' then drop
        unknown

/-- A parameter in braces, of which the first has been read. -/
def braced (word : Frame → Reader Word) (quoted : Bool) : Reader Part := do
  let fuel ← length
  let unknown : Reader Part := do
    dropUncounted
    let _ ← word (.braces quoted)
    return .value quoted [] .unknown
  match ← peek with
  | none => unknown
  | some c =>
    if isNameStart c then braceForm word quoted (← run isNamePart fuel)
    else if c.isDigit then braceForm word quoted (← run Char.isDigit fuel)
    else if c = '#' then
      drop
      match ← peek with
      | none => unknown
      | some d =>
        if isNamePart d then
          let name ← run (if d.isDigit then Char.isDigit else isNamePart) fuel
          if ← takes '\x7d' then return .value quoted name .length else unknown
        else if isSpecial d && (← get).rest[1]? == some '\x7d' then
          drop
          drop
          return .value quoted [d] .length
        else braceForm word quoted ['#']
    else if isSpecial c then
      drop
      braceForm word quoted [c]
    else unknown

/-- A text between back quotes, of which the first has been read, without the backslashes that are
    there for the quotes' sake; and how many lines it has. Every unit of fuel pays for a character. -/
def backQuoted (quoted : Bool) : Nat → List Char → Option (List Char × List Char)
  | 0, _ => none
  | fuel + 1, s =>
    let more (front : List Char) (rest : List Char) : Option (List Char × List Char) :=
      (backQuoted quoted fuel rest).map fun (body, after) => (front ++ body, after)
    match s with
    | [] => none
    | '\x60' :: rest => some ([], rest)
    | '\\' :: '\n' :: rest => more [] rest
    | '\\' :: d :: rest =>
      if d = '\\' ∨ d = '\x60' ∨ d = '$' ∨ (d = '"' ∧ quoted) then more [d] rest
      else more ['\\', d] rest
    | c :: rest => more [c] rest

/-- What commands between back quotes write; the first quote has been read. -/
def oldOutput (commands : Reader Command) (quoted : Bool) : Reader Part := do
  let s ← get
  match backQuoted quoted (s.rest.length + 1) s.rest with
  | none => failAtEnd .unclosedOutput
  | some (body, rest) =>
    set { s with rest := body, held := none, pending := [] }
    let command ← commands
    modify fun inside =>
      { s with rest, documents := inside.documents, line := s.line + body.count '\n' }
    return .output quoted command

/-- What stands behind a dollar sign. `commands` reads commands up to a parenthesis and takes that. -/
def afterDollar (commands : Reader Command) (word : Frame → Reader Word) (quoted : Bool) :
    Reader Part := do
  let fuel ← length
  match ← peek with
  | none => return .text quoted ['$']
  | some c =>
    if c = '(' then
      drop
      if ← takes '(' then return .sum quoted (← word (.sum 0))
      else
        let pending := (← get).pending
        modify fun s => { s with held := none, pending := [] }
        let command ← commands
        modify fun s => { s with held := none, pending }
        return .output quoted command
    else if c = '\x7b' then
      drop
      braced word quoted
    else if isNameStart c then return .value quoted (← run isNamePart fuel) .plain
    else if isSpecial c then
      drop
      return .value quoted [c] .plain
    else return .text quoted ['$']

/-- What ends a word that stands by itself. -/
def endsWord (c : Char) : Bool :=
  [' ', '\t', '\n', ';', '&', '|', '<', '>', '(', ')'].contains c

/-- What is missing at the end of a script. -/
def Frame.fault? : Frame → Option ScriptFault
  | plain | document => none
  | quotes | braces true => some .unclosedQuote
  | braces false => some .unclosedBraces
  | sum _ => some .unclosedSum

/-- The parts up to the end of a frame; the sign that closes the frame is taken. `closed` reads
    commands up to a parenthesis and takes that, `open_` reads commands up to the end. Every unit of
    fuel pays for a character. -/
def parts (closed open_ : Reader Command) : Nat → Frame → Reader Word
  | 0, _ => return []
  | fuel + 1, frame => do
    let quoted := frame.isQuoted
    let go (p : Part) : Reader Word := return push p (← parts closed open_ fuel frame)
    let literal (c : Char) : Reader Word := do
      drop
      go (.text quoted [c])
    match ← peek with
    | none =>
      match frame.fault? with
      | some fault => fail fault
      | none => return []
    | some c =>
      if frame == .plain && endsWord c then return []
      else if c = '\x7d' ∧ (frame = .braces true ∨ frame = .braces false) then
        drop
        return []
      else if c = '"' ∧ frame = .quotes then
        drop
        return []
      else if c = '"' ∧ frame = .braces true then
        drop
        parts closed open_ fuel frame
      else if c = '"' ∧ !quoted then
        drop
        let inside ← parts closed open_ fuel .quotes
        return (ofQuotes inside).foldr push (← parts closed open_ fuel frame)
      else if c = '\'' ∧ !quoted then
        drop
        let body ← untilQuote
        go (.text true body)
      else if c = '\\' then
        drop
        match (← get).rest.head? with
        | none => go (.text true ['\\'])
        | some d =>
          drop
          if !quoted || escapes frame d then go (.text true [d]) else go (.text true ['\\', d])
      else if c = '$' then
        drop
        let p ← afterDollar closed (parts closed open_ fuel) quoted
        go p
      else if c = '\x60' then
        drop
        let p ← oldOutput open_ quoted
        go p
      else
        match frame with
        | .sum depth =>
          drop
          if c = '(' then
            return push (.text true [c]) (← parts closed open_ fuel (.sum (depth + 1)))
          else if c = ')' then
            match depth with
            | depth + 1 => return push (.text true [c]) (← parts closed open_ fuel (.sum depth))
            | 0 => if ← takes ')' then return [] else go (.text true [c])
          else go (.text true [c])
        | _ => literal c

/-! ## Documents -/

/-- The lines of a text up to the one that is its mark, and what follows that. Every unit of fuel
    pays for a line. -/
def documentLines (p : Pending) : Nat → List Char → List Char × List Char
  | 0, s => ([], s)
  | _ + 1, [] => ([], [])
  | fuel + 1, s =>
    let whole := s.takeWhile (· != '\n')
    let rest := s.drop (whole.length + 1)
    let row := if p.strips then whole.dropWhile (· == '\t') else whole
    if row = p.mark then ([], rest)
    else
      let (body, after) := documentLines p fuel rest
      (row ++ (if s.contains '\n' then ['\n'] else []) ++ body, after)

/-- The texts that commands of the line read, which has ended. -/
def documents (closed open_ : Reader Command) : List Pending → Reader Unit
  | [] => modify fun s => { s with pending := [] }
  | p :: more => do
    let s ← get
    let (body, rest) := documentLines p (s.rest.length + 1) s.rest
    let word ← if p.expands then do
        set { s with rest := body }
        parts closed open_ (body.length + 1) .document
      else pure [.text true body]
    modify fun inside =>
      { s with rest, documents := inside.documents.set p.number word
               line := s.line + (s.rest.take (s.rest.length - rest.length)).count '\n' }
    documents closed open_ more

/-! ## Tokens -/

/-- The sign of a binding at the front; the number in front of it has been read. -/
def binding (number? : Option Nat) : Reader Token := do
  let first ← peek
  drop
  let bound (default : Nat) (b : Binding) : Token := .bind_ (number?.getD default) b
  if first = some '>' then
    if ← takes '>' then return bound 1 .append
    else if ← takes '|' then return bound 1 (.write true)
    else if ← takes '&' then return bound 1 .same
    else return bound 1 (.write false)
  else if ← takes '<' then return bound 0 (.document (← takes '-'))
  else if ← takes '&' then return bound 0 .same
  else if ← takes '>' then return bound 0 .update
  else return bound 0 .read

/-- The number that a word is, if a binding can have it. -/
def number? : Word → Option (Option Nat)
  | [] => some none
  | [.text false [d]] => if d.isDigit then some (some (d.toNat - '0'.toNat)) else none
  | _ => none

/-- The next token of the text. -/
def scan (closed open_ : Reader Command) : Reader Token := do
  modify fun s =>
    let (line, rest) := skipBlanks false s.line s.rest
    { s with line, rest }
  match ← peek with
  | none => return .finish
  | some '\n' =>
    drop
    return .newline
  | some '&' =>
    drop
    if ← takes '&' then return .both else return .apart
  | some '|' =>
    drop
    if ← takes '|' then return .either else return .pipe
  | some ';' =>
    drop
    if ← takes ';' then return .endBranch else return .stop
  | some '(' =>
    drop
    return .open_
  | some ')' =>
    drop
    return .close
  | some _ =>
    let w ← parts closed open_ ((← length) + 1) .plain
    let next := (← get).rest.head?
    if next = some '<' ∨ next = some '>' then
      match number? w with
      | some number => binding number
      | none => return .word w
    else return .word w

/-- The next token behind ends of lines. Every unit of fuel pays for one. -/
def skipNewlines (closed open_ : Reader Command) : Nat → Token → Reader Token
  | 0, t => return t
  | fuel + 1, t =>
    match t with
    | .newline => do
      documents closed open_ (← get).pending
      skipNewlines closed open_ fuel (← scan closed open_)
    | t => return t

/-- The text that a word stands for, if it is at the front of a command. -/
def aliased? (t : Token) : Reader (Option (List Char × List Char)) := do
  let s ← get
  match t with
  | .word w =>
    match bare? w with
    | none => return none
    | some name =>
      let isKey := Key.all.any fun k => k.spelling.toList == name
      let isBusy := s.busy.any fun entry => entry.1 == name && entry.2 < s.rest.length
      if isKey || isBusy then return none
      else return (entryFor? name s.aliases).map fun text => (name, text)
  | _ => return none

/-- A token, with what it stands for in its place. Every unit of fuel pays for a word that stands for a
    text. -/
def unaliased (closed open_ : Reader Command) : Nat → Token → Reader Token
  | 0, t => return t
  | fuel + 1, t => do
    match ← aliased? t with
    | none => return t
    | some (name, text) =>
      modify fun s =>
        let left := s.rest.length
        let offers := if text.getLast? = some ' ' ∨ text.getLast? = some '\t' then some left else none
        { s with rest := text ++ s.rest, busy := (name, left) :: s.busy.filter (·.2 < left + 1), offers }
      unaliased closed open_ fuel (← scan closed open_)

/-- The next token. `keys` says that a word may be a word of the language, `front` that it may stand for a
    text, `lines` that ends of lines in front of it do not count. -/
def next (closed open_ : Reader Command) (keys front lines : Bool) : Reader Token := do
  let skip (t : Token) : Reader Token := do
    if lines then skipNewlines closed open_ ((← length) + 2) t else return t
  match (← get).held with
  | some t =>
    modify fun s => { s with held := none }
    let t ← skip t
    return if keys then t.keyed else t
  | none =>
    let s ← get
    let offered := match s.offers with
      | some left => s.rest.length ≤ left
      | none => false
    let t ← skip (← scan closed open_)
    let t ← if (front || offered) && !s.aliases.isEmpty then
        modify fun s => { s with offers := if offered then none else s.offers }
        skip (← unaliased closed open_ (s.aliases.length + 1) t)
      else pure t
    return if keys then t.keyed else t

/-- A token given back. -/
def hold (t : Token) : Reader Unit := modify fun s => { s with held := some t }

end Reader

end DiagramStudio.Script
