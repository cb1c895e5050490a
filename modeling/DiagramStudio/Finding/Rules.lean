import DiagramStudio.Finding.Basic
import DiagramStudio.Diagram.Kind

/-!
The validator: the findings on a source, line by line. A source without any line that says something
gets one finding; otherwise its first such line has to open a diagram of a known kind, and on each of
them brackets and quotes have to balance.
-/

namespace DiagramStudio.Finding

/-- How many keywords are named as examples. -/
def exampleCount : Nat := 5

/-- The names between commas. -/
def listed (names : List String) : String :=
  ", ".intercalate names

def unknownKind (line : Nat) (word : List Char) : Finding :=
  breach .unknownKind line
    ("invalid diagram type \"" ++ String.ofList word ++ "\", expected one of: "
      ++ listed ((DiagramKind.all.take exampleCount).map DiagramKind.keyword) ++ ", etc.")
    "the first non-comment line must start with a diagram type keyword"

def invalidDirection (line : Nat) (word : List Char) : Finding :=
  breach .invalidDirection line ("invalid graph direction \"" ++ String.ofList word ++ "\"")
    ("use one of: " ++ listed (Direction.all.map Direction.code))

/-- The findings on the line that opens the diagram. -/
def header (line : Nat) (row : List Char) : List Finding :=
  match DiagramKind.ofKeyword? (Source.keyword row) with
  | none => [unknownKind line (Source.keyword row)]
  | some kind =>
    if kind.takesDirection then
      match (Text.words Text.isWhite row)[1]? with
      | some word => if (Direction.ofCode? word).isNone then [invalidDirection line word] else []
      | none => []
    else []

/-- Two characters that come in pairs, and what is said where they do not. -/
structure PairRule where
  rule : Rule
  opening : Char
  closing : Char
  message : String

namespace PairRule

/-- The pairs, in the order in which they are looked at. -/
def all : List PairRule :=
  [⟨.brackets, '[', ']', "unmatched brackets [ ]"⟩,
   ⟨.parentheses, '(', ')', "unmatched parentheses ( )"⟩,
   ⟨.braces, '\x7b', '\x7d', "unmatched braces \x7b \x7d"⟩]

/-- What to do about an unmatched pair. -/
def help (p : PairRule) : String :=
  "make sure each \"" ++ p.opening.toString ++ "\" has a matching \"" ++ p.closing.toString ++ "\""

/-- As many open as close on the line. -/
def holds (p : PairRule) (row : List Char) : Bool :=
  row.count p.opening == row.count p.closing

end PairRule

/-- The findings on brackets and quotes of one line. -/
def balance (line : Nat) (row : List Char) : List Finding :=
  (PairRule.all.filterMap fun p =>
    if p.holds row then none else some (breach p.rule line p.message p.help)) ++
  (if row.count '"' % 2 = 0 then []
   else [breach .quotes line "unclosed quote \"" "strings must be enclosed in matching quotes"])

def emptySource : Finding :=
  breach .emptySource 1 "diagram code is empty"
    "start with a diagram type like \"graph TD\" or \"sequenceDiagram\""

def commentsOnly : Finding :=
  breach .commentsOnly 1 "no diagram code found, only comments"
    "add a diagram type line such as \"graph TD\" below the comments"

/-- The lines that say something, numbered from one. -/
def contentLines (source : List Char) : List (List Char × Nat) :=
  ((Text.lines source).zipIdx 1).filter fun (row, _) => Source.isContent row

/-- The findings on a source, in the order of lines and, within a line, of codes. -/
def validate (source : List Char) : List Finding :=
  let source := Text.stripMark source
  if Text.isBlank source then [emptySource]
  else
    match contentLines source with
    | [] => [commentsOnly]
    | (row, line) :: more =>
      header line (Text.trim row) ++
        ((row, line) :: more).flatMap fun (row, line) => balance line row

/-- The errors among findings. -/
def errors (findings : List Finding) : List Finding :=
  findings.filter (·.severity == .error)

/-- The findings on one line: the first, and how many more there are. -/
def summary : List Finding → String
  | [] => ""
  | [only] => only.display
  | first :: more => first.display ++ " (+" ++ toString more.length ++ " more)"

end DiagramStudio.Finding
