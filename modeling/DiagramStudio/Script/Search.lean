import DiagramStudio.Script.Expression
import DiagramStudio.Script.Regular
import DiagramStudio.Script.Sum
import DiagramStudio.Script.Tool

/-!
The program that scripts call to search lines for expressions.
-/

namespace DiagramStudio.Script.Search

/-- What is searched for: expressions of which any may match as much as possible, or one of the rich spelling. -/
inductive Sought where
  | any (expressions : List Regular)
  | rich (e : Expression)

/-- How lines are searched and shown. -/
structure Plan where
  sought : Sought
  options : Options
  /-- Lines are led by the name of their file. -/
  named : Bool

/-- Where something was found. -/
structure Span where
  start : Nat
  finish : Nat

namespace Plan

def folds (p : Plan) : Bool := p.options.has 'i' || p.options.has 'y'

/-- A match is one that counts: a whole line, or whole words, if only these do. -/
def counts (p : Plan) (text : Array Char) (m : Span) : Bool :=
  let outside (place : Option Char) : Bool := !((place.map Regular.isWord).getD false)
  if p.options.has 'x' then m.start == 0 && m.finish == text.size
  else if p.options.has 'w' then
    outside (if m.start = 0 then none else text[m.start - 1]?) && outside text[m.finish]?
  else true

/-- The first match that counts at a place or behind it. -/
def find? (p : Plan) (text : Array Char) (low : Nat) : Option Span :=
  match p.sought with
  | .rich e => (Expression.find? e text low).map fun w => ⟨w.start, w.place⟩
  | .any expressions =>
    ((List.range (text.size + 1)).drop low).findSome? fun place =>
      let found := expressions.flatMap fun e =>
        (Regular.ways p.folds text e ⟨place, []⟩).map fun w => (⟨place, w.place⟩ : Span)
      (found.filter (p.counts text)).foldl (fun (best : Option Span) m =>
        match best with
        | none => some m
        | some b => if b.finish < m.finish then some m else some b) none

/-- The parts of a line that match, with where they begin, empty ones left out. Every unit of fuel pays for a
    place. -/
def parts (p : Plan) (text : Array Char) : Nat → Nat → List (Nat × List Char)
  | 0, _ => []
  | fuel + 1, low =>
    match p.find? text low with
    | none => []
    | some m =>
      if m.start = m.finish then p.parts text fuel (max low m.finish + 1)
      else (m.start, Regular.between text m.start m.finish) :: p.parts text fuel m.finish

def selects (p : Plan) (line : List Char) : Bool :=
  (p.find? line.toArray 0).isSome != p.options.has 'v'

/-- How many lines are shown in front of one that is selected, and behind it. -/
def context (p : Plan) : Nat × Nat :=
  let number (letter : Char) : Option Nat := (p.options.value? letter).bind fun s => (String.ofList s).toNat?
  ((number 'B').getD ((number 'C').getD 0), (number 'A').getD ((number 'C').getD 0))

/-- A line with its number and the place in its file. -/
structure Row where
  line : List Char
  number : Nat
  offset : Nat

/-- The lines of a text. -/
def rowsOf (p : Plan) (text : List Char) : List Row :=
  let lines := if p.options.has 'z' then
      let parts := Text.pieces (· == '\x00') text
      if parts.getLast? = some [] then parts.dropLast else parts
    else (rows text).1
  (lines.foldl (fun (acc : List Row × Nat × Nat) line =>
    (⟨line, acc.2.1, acc.2.2⟩ :: acc.1, acc.2.1 + 1, acc.2.2 + line.length + 1)) ([], 1, 0)).1.reverse

def rowEnd (p : Plan) : Char := if p.options.has 'z' then '\x00' else '\n'

/-- What is shown of a file, and how many lines are selected. -/
def search (p : Plan) (name text : List Char) : List Char × Nat :=
  let lines := p.rowsOf text
  let selected := (lines.filter fun r => p.selects r.line).map (·.number)
  let selected := match (p.options.value? 'm').bind fun s => (String.ofList s).toNat? with
    | some n => selected.take n
    | none => selected
  let lead (sign : Char) (number offset : Nat) : List Char :=
    let cells := (if p.named then name ++ (if p.options.has 'Z' then ['\x00'] else [sign]) else [])
      ++ (if p.options.has 'n' then shown number ++ [sign] else [])
      ++ (if p.options.has 'b' then shown offset ++ [sign] else [])
    if p.options.has 'T' && !cells.isEmpty then cells ++ ['\t'] else cells
  let (before, behind) := p.context
  let near (n : Nat) : Bool := selected.any fun s => s ≤ n + before && n ≤ s + behind
  let out :=
    if p.options.has 'o' then
      (lines.filter fun r => selected.contains r.number).flatMap fun r =>
        if p.options.has 'v' then []
        else (p.parts r.line.toArray (r.line.length + 2) 0).flatMap fun (start, part) =>
          lead ':' r.number (r.offset + start) ++ part ++ [p.rowEnd]
    else
      let kept := lines.filter fun r => near r.number
      (kept.foldl (fun (acc : List Char × Option Nat) r =>
        let gap := match acc.2 with
          | some last => if (before + behind != 0) && last + 1 < r.number then ['-', '-', '\n'] else []
          | none => []
        (acc.1 ++ gap ++ lead (if selected.contains r.number then ':' else '-') r.number r.offset ++ r.line
          ++ [p.rowEnd], some r.number))
        ([], none)).1
  (out, selected.length)

end Plan

def usage : String := "Usage: grep [OPTION]... PATTERNS [FILE]...\nTry 'grep --help' for more information."

def longNames : Options.LongNames :=
  [("quiet", 'q'), ("silent", 'q'), ("count", 'c'), ("invert-match", 'v'), ("ignore-case", 'i'), ("no-ignore-case", 'γ'),
    ("line-number", 'n'), ("only-matching", 'o'), ("extended-regexp", 'E'), ("fixed-strings", 'F'), ("basic-regexp", 'G'),
    ("perl-regexp", 'P'), ("files-with-matches", 'l'), ("files-without-match", 'L'), ("word-regexp", 'w'),
    ("line-regexp", 'x'), ("regexp", 'e'), ("file", 'f'), ("no-filename", 'h'), ("with-filename", 'H'), ("max-count", 'm'),
    ("no-messages", 's'), ("byte-offset", 'b'), ("null", 'Z'), ("null-data", 'z'), ("initial-tab", 'T'), ("text", 'a'),
    ("binary-files", 'β'), ("recursive", 'r'), ("dereference-recursive", 'R'), ("label", 'ν'), ("directories", 'd'),
    ("include", 'ι'), ("exclude", 'ξ'), ("exclude-dir", 'κ'), ("after-context", 'A'), ("before-context", 'B'),
    ("context", 'C'), ("line-buffered", 'u'), ("binary", 'U'), ("color", 'λ'), ("colour", 'λ')]

/-- A name is one that a pattern matches. -/
def fits (pattern name : List Char) : Bool := Sign.matchAll (Sign.ofLetters (pattern.map fun c => (c, false))) name

/-- The files below a directory, in order; links are not followed. -/
def below (o : Options) (disk : Disk) (path : List Char) : List (List Char) :=
  let values (letter : Char) : List (List Char) := (o.given.filter (·.1 == [letter])).map (·.2)
  let keeps (names : List String) : Bool :=
    let file := spread (names.getLastD "")
    ((values 'ι').isEmpty || (values 'ι').any (fits · file)) && !(values 'ξ').any (fits · file)
      && !(names.dropLast.any fun name => (values 'κ').any (fits · (spread name)))
  match disk.locate (pathOf path) with
  | .error _ => [path]
  | .ok place =>
    if !disk.isDirectoryAt place then [path]
    else
      ((disk.below place).filterMap fun other =>
        let names := other.drop place.length
        match disk.at? other with
        | some (.file _) =>
          let inner := ['/'].intercalate (names.map spread)
          if keeps names then some (if path.isEmpty then inner else Path.join path inner) else none
        | _ => none).mergeSort

/-- Words in which a number that asks for lines around others is spelled as an option. -/
def normalized (args : List (List Char)) : List (List Char) :=
  args.map fun word =>
    match word with
    | '-' :: d :: rest => if (d :: rest).all Char.isDigit then "-C".toList ++ d :: rest else word
    | _ => if word = "--color".toList ∨ word = "--colour".toList then word ++ ['='] else word

/-- What is said of an expression that a character stands at the beginning of without anything to repeat. -/
def warning? (extended : Bool) (s : List Char) : Option String :=
  match s with
  | c :: _ =>
    if (c = '*' ∨ c = '+' ∨ c = '?') ∧ extended then
      some ("grep: warning: " ++ String.ofList [c] ++ " at start of expression")
    else none
  | [] => none

/-- A class stands where only its characters would. -/
def isBareClass (s : List Char) : Bool :=
  match s with
  | '[' :: ':' :: rest =>
    match Text.cutAt? ":]".toList rest with
    | some (name, _) => (Sign.classOf? (String.ofList name)).isSome
    | none => false
  | _ => false

/-- An extended expression in which a parenthesis that closes nothing stands for itself, as does nothing at the
    beginning that could be repeated. `open_` counts the parentheses that are open; every unit of fuel pays for a
    character. -/
def lenient : Nat → (open_ : Nat) → List Char → List Char
  | 0, _, s => s
  | _ + 1, _, [] => []
  | fuel + 1, open_, '\\' :: c :: rest => '\\' :: c :: lenient fuel open_ rest
  | fuel + 1, open_, '(' :: rest => '(' :: lenient fuel (open_ + 1) rest
  | fuel + 1, open_, ')' :: rest =>
    if open_ = 0 then '\\' :: ')' :: lenient fuel 0 rest else ')' :: lenient fuel (open_ - 1) rest
  | fuel + 1, open_, '[' :: rest =>
    match Sign.ranges? true (rest.length + 1) ((match rest with
        | '^' :: inside => inside
        | inside => inside).map fun c => (c, false)) with
    | some (_, after) => '[' :: rest.take (rest.length - after.length) ++ lenient fuel open_ (rest.drop (rest.length - after.length))
    | none => '[' :: rest
  | fuel + 1, open_, c :: rest => c :: lenient fuel open_ rest

/-- An extended expression as it is read. -/
def lenientText (s : List Char) : List Char :=
  match s with
  | '+' :: rest => '*' :: lenient (rest.length + 1) 0 rest
  | '?' :: rest => '*' :: lenient (rest.length + 1) 0 rest
  | s => lenient (s.length + 1) 0 s

/-- What is searched for; or a complaint. -/
def sought? (o : Options) (extended fixed : Bool) (texts : List (List Char)) : Except String Sought :=
  if o.has 'P' then
    match texts with
    | [text] =>
      let text := if o.has 'x' then "^(?:".toList ++ text ++ ")$".toList
        else if o.has 'w' then "(?<!\\w)(?:".toList ++ text ++ ")(?!\\w)".toList else text
      match Expression.read { Expression.Flags.none_ with folded := o.has 'i' } text with
      | .ok found =>
        .ok (.rich found.body)
      | .error fault => .error fault.message
    | _ => .error "the -P option only supports a single pattern"
  else if !fixed && texts.any isBareClass then .error "character class syntax is [[:space:]], not [:space:]"
  else
    match texts.mapM fun s => if fixed then Except.ok (Regular.ofText s)
        else Regular.read extended (if extended then lenientText s else s) with
    | .error fault =>
      .error (match fault with
        | .unmatchedBracket => "Invalid regular expression"
        | fault => fault.message)
    | .ok expressions => .ok (.any expressions)

/-- What the search has come to: what is written, whether anything was found, and whether anything failed. -/
structure Tally where
  done : Done
  any : Bool
  failed : Bool

/-- A file searched. -/
def searchFile (p : Plan) (isOutput : List Char → Bool) (t : Tally) (path : List Char) : Tally :=
  let o := p.options
  let (found, input) := (t.done.call []).held path
  let d : Done := { t.done with input }
  let name := if path = hyphen then (o.value? 'ν').getD "(standard input)".toList else path
  let lists := o.has 'q' || o.has 'l' || o.has 'L' || o.has 'c'
  match found with
  | .error fault =>
    if fault = .isDirectory && (o.value? 'd' == some "skip".toList || o.has 'r') then { t with done := d }
    else ⟨if o.has 's' then d else d.complain 0 (fileComplaint "grep" path fault), t.any, true⟩
  | .ok text =>
    if isOutput path && !lists then
      ⟨d.complain 0 ("grep: " ++ quotedIfNeeded path ++ ": input file is also the output"), t.any, true⟩
    else
      let (out, n) := p.search name text
      let rowEnd : Char := if o.has 'Z' then '\x00' else '\n'
      let any := t.any || 0 < n
      if o.has 'q' then ⟨d, any, t.failed⟩
      else if o.has 'l' then ⟨if 0 < n then d.write (name ++ [rowEnd]) else d, any, t.failed⟩
      else if o.has 'L' then ⟨if 0 < n then d else d.write (name ++ [rowEnd]), any, t.failed⟩
      else if o.has 'c' then
        ⟨d.write ((if p.named then name ++ (if o.has 'Z' then ['\x00'] else [':']) else []) ++ shown n ++ ['\n']), any, t.failed⟩
      else if text.contains '\x00' && !o.has 'a' && !o.has 'z' && o.value? 'β' != some "text".toList then
        if o.value? 'β' = some "without-match".toList ∨ o.has 'I' then ⟨d, t.any, t.failed⟩
        else if out.isEmpty then ⟨d, any, t.failed⟩
        else ⟨d.complain 0 ("grep: " ++ told name ++ ": binary file matches"), any, t.failed⟩
      else ⟨d.write out, any, t.failed⟩

/-- The operands searched, once the expressions are read. -/
def searchAll (c : Call) (o : Options) (sought : Sought) (input : List Char) (operands : List (List Char))
    (warnings : List String) : Done :=
  let recursive := o.has 'r' || o.has 'R'
  let several := recursive || 1 < operands.length
  let files := if recursive then (if operands.isEmpty then [[]] else operands).flatMap (below o c.disk)
    else if operands.isEmpty then [hyphen] else operands
  let named := !o.has 'h' && (o.has 'H' || several)
  let isOutput (path : List Char) : Bool :=
    c.output?.isSome && path != hyphen && (((c.disk.locate (pathOf path)).toOption).bind c.disk.numberAt?) == c.output?
  let d := warnings.foldl (fun (d : Done) what => d.complain 0 what) { c.done 0 with input }
  let t := files.foldl (searchFile ⟨sought, o, named⟩ isOutput) ⟨d, false, false⟩
  { t.done with status := if t.failed && !(o.has 'q' && t.any) then 2 else if t.any then 0 else 1 }

/-- Lines that match are shown. -/
def grep (extended fixed : Bool) (c : Call) : Done :=
  let args := normalized c.args
  match Options.read "cEFGHhIilLnoqRrsvwxyzaUbPTZu".toList "ABCefmdνιξκβλ".toList longNames (args.length + 1) args with
  | .error fault => (c.done 2).complain 2 ("grep: " ++ fault.message ++ "\n" ++ usage)
  | .ok o =>
    let fail (what : String) : Done := (c.done 2).complain 2 ("grep: " ++ what)
    let given := o.given.filter fun e => e.1 == ['e'] || e.1 == ['f']
    let (texts?, input) := given.foldl (fun (acc : Except String (List (List Char)) × List Char) (key, value) =>
      match acc.1 with
      | .error what => (.error what, acc.2)
      | .ok texts =>
        if key == ['e'] then (.ok (texts ++ [value]), acc.2)
        else
          match { c with input := acc.2 }.held value with
          | (.ok body, input) => (.ok (texts ++ (rows body).1), input)
          | (.error fault, input) => (.error (told value ++ ": " ++ fault.text), input)) (.ok [], c.input)
    match texts? with
    | .error what => fail what
    | .ok texts =>
      let (texts, operands, any) := match given, o.operands with
        | [], first :: more => ([first], more, true)
        | [], [] => ([], [], false)
        | _, operands => (texts, operands, true)
      let unclear := o.given.find? fun (letter, value) =>
        ['A', 'B', 'C'].any (fun c => letter == [c]) && !(!value.isEmpty && value.all Char.isDigit)
      let kinds := (['E', 'F', 'G', 'P'].filter o.has).length
      match unclear with
      | some (_, value) => fail (told value ++ ": invalid context length argument")
      | none =>
        if (o.value? 'm').any fun s => (Sum.integer? s).isNone then fail "invalid max count"
        else if 1 < kinds then fail "conflicting matchers specified"
        else if !any then (c.done 2).complain 2 usage
        else if texts.contains [] && o.has 'v' && !o.has 'w' && !o.has 'x' && !o.has 'L' then c.done 1
        else
          let extended := (extended && !o.has 'G') || o.has 'E'
          let fixed := (fixed && !o.has 'E' && !o.has 'G' && !o.has 'P') || o.has 'F'
          let texts := texts.flatMap Text.lines
          match sought? o extended fixed texts with
          | .error what => fail what
          | .ok sought =>
            let warnings := if fixed || o.has 'P' then [] else texts.filterMap (warning? extended)
            searchAll c o sought input operands warnings

end DiagramStudio.Script.Search
