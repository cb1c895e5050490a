import DiagramStudio.Markup.Attribute
import DiagramStudio.Markup.Reading

/-!
Why a document is refused: it cannot be read, it is not a drawing, or its root gives no size.
-/

namespace DiagramStudio.Markup

inductive Fault where
  | reading (fault : ReadFault)
  | attributes (fault : AttributeFault)
  /-- An element behind the root. -/
  | secondRoot (name : List Char)
  /-- The root is not a drawing. -/
  | foreignRoot (name : List Char)
  | undeclaredReference (name : List Char)
  /-- The text ends inside an element. -/
  | unfinished
  | noSize
  | noRoot
deriving Repr, DecidableEq

namespace Fault

/-- There is nothing to speak of: the document has no element at all. -/
def isMissingRoot (f : Fault) : Bool :=
  f == noRoot

/-- What is wrong with the document. -/
def detail : Fault → String
  | reading fault => fault.message
  | attributes fault => fault.message
  | secondRoot name => "unexpected <" ++ String.ofList name ++ "> after the root element"
  | foreignRoot name => "expected an <svg> root element, found <" ++ String.ofList name ++ ">"
  | undeclaredReference name => "undeclared entity reference &" ++ String.ofList name ++ ";"
  | unfinished => "unexpected end of markup inside an open element"
  | noSize => "root element declares no size"
  | noRoot => "no element"

def message (f : Fault) : String :=
  if f.isMissingRoot then "markup has no root element"
  else "markup could not be parsed: " ++ f.detail

end Fault

end DiagramStudio.Markup
