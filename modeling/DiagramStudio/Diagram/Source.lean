import DiagramStudio.Text.White

/-!
The source of a diagram: lines, of which some are blank and some are comments.
-/

namespace DiagramStudio.Source

/-- What a comment begins with. -/
def commentMark : List Char := ['%', '%']

/-- The line, white space in front of it aside, begins with the comment mark. -/
def isComment (line : List Char) : Bool :=
  commentMark.isPrefixOf (Text.trimStart line)

/-- The line says something: it is neither blank nor a comment. -/
def isContent (line : List Char) : Bool :=
  !Text.isBlank line && !isComment line

/-- The end of a keyword: white space or an opening parenthesis. -/
def endsKeyword (c : Char) : Bool :=
  Text.isWhite c || c == '('

/-- What stands in front of the first character that ends a keyword. -/
def keyword (line : List Char) : List Char :=
  line.takeWhile (!endsKeyword ·)

end DiagramStudio.Source
