import DiagramStudio.Diagram.Source

/-!
Findings: what the validator has to say about a line of a source, and where that line lies in it.
-/

namespace DiagramStudio

/-- How serious a finding is. -/
inductive Severity where
  | error
  | warning
deriving Repr, DecidableEq

def Severity.name : Severity → String
  | error => "error"
  | warning => "warning"

/-- The rules that a source can break. -/
inductive Rule where
  | emptySource
  | commentsOnly
  | unknownKind
  | invalidDirection
  | brackets
  | parentheses
  | braces
  | quotes
deriving Repr, DecidableEq

namespace Rule

def all : List Rule :=
  [emptySource, commentsOnly, unknownKind, invalidDirection, brackets, parentheses, braces, quotes]

/-- The code that a rule is referred to by. -/
def code : Rule → String
  | emptySource => "E001"
  | commentsOnly => "E002"
  | unknownKind => "E100"
  | invalidDirection => "E101"
  | brackets => "E200"
  | parentheses => "E201"
  | braces => "E202"
  | quotes => "E203"

/-- What breaking the rule is called. -/
def description : Rule → String
  | emptySource => "empty source"
  | commentsOnly => "comments only"
  | unknownKind => "unknown diagram type"
  | invalidDirection => "invalid graph direction"
  | brackets => "unmatched brackets"
  | parentheses => "unmatched parentheses"
  | braces => "unmatched braces"
  | quotes => "unclosed quote"

/-- The rule with the given code. -/
def ofCode? (code : String) : Option Rule :=
  all.find? fun rule => rule.code == code

end Rule

/-- A stretch of a text, in bytes: `stop` is the first byte behind it. -/
structure Span where
  start : Nat
  stop : Nat
  start_le_stop : start ≤ stop
deriving Repr, DecidableEq

namespace Span

/-- The span from `start` to `stop`; where they are in the wrong order it is empty at `start`. -/
def between (start stop : Nat) : Span :=
  ⟨start, max start stop, Nat.le_max_left _ _⟩

def length (s : Span) : Nat := s.stop - s.start

def isEmpty (s : Span) : Bool := s.start == s.stop

end Span

/-- A finding on one line of a source. -/
structure Finding where
  severity : Severity
  /-- Counted from one. -/
  line : Nat
  message : String
  rule : Option Rule
  help : Option String
deriving Repr, DecidableEq

namespace Finding

/-- A finding of the given severity; lines are counted from one, and line zero is taken for the
    first. -/
def make (severity : Severity) (line : Nat) (message : String) (rule : Option Rule)
    (help : Option String) : Finding :=
  ⟨severity, max 1 line, message, rule, help⟩

/-- An error that breaks a rule. -/
def breach (rule : Rule) (line : Nat) (message help : String) : Finding :=
  make .error line message (some rule) (some help)

/-- Severity, code and message on one line. -/
def display (f : Finding) : String :=
  let tag := match f.rule with
    | some rule => "[" ++ rule.code ++ "]"
    | none => ""
  f.severity.name ++ tag ++ ": " ++ f.message

/-- The byte at which a line begins, given the lines in front of it: each takes its bytes and a line
    feed. -/
def offset (before : List (List Char)) : Nat :=
  (before.map fun row => Text.byteSize row + 1).sum

/-- A line without the one carriage return that may end it. -/
def withoutReturn (row : List Char) : List Char :=
  (Text.dropBack? ['\r'] row).getD row

/-- Where the line of the finding lies in the source, its end left out; nothing if the source has no
    such line. -/
def span? (f : Finding) (source : List Char) : Option Span :=
  (Text.lines source)[f.line - 1]?.map fun row =>
    let start := offset ((Text.lines source).take (f.line - 1))
    .between start (start + Text.byteSize (withoutReturn row))

end Finding

end DiagramStudio
