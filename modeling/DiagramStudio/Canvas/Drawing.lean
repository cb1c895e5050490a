/-!
Drawings as trees of elements, and how they are written: every child on lines of its own, attributes
in the order given, and nothing in a value or a text that could be taken for markup.
-/

namespace DiagramStudio

/-- A part of a drawing. -/
inductive Drawing where
  | text (body : List Char)
  | element (name : String) (attributes : List (String × List Char)) (children : List Drawing)
deriving Repr

namespace Drawing

/-- A character as it is written in a value or a text. -/
def escapeChar (c : Char) : List Char :=
  if c = '&' then "&amp;".toList
  else if c = '<' then "&lt;".toList
  else if c = '>' then "&gt;".toList
  else [c]

/-- A text as it is written. -/
def escape (s : List Char) : List Char :=
  s.flatMap escapeChar

/-- An attribute as it is written, with a space in front. -/
def renderAttribute (a : String × List Char) : List Char :=
  ' ' :: a.1.toList ++ "=\"".toList ++ escape a.2 ++ ['"']

mutual

/-- The text of a drawing. An element without children is one tag. -/
def render : Drawing → List Char
  | .text body => escape body
  | .element name attributes children =>
    let head := '<' :: name.toList ++ attributes.flatMap renderAttribute
    match children with
    | [] => head ++ "/>".toList
    | child :: more =>
      head ++ '>' :: '\n' :: render child ++ renderAll more ++ "\n</".toList ++ name.toList ++ ['>']

/-- The texts of children behind the first. -/
def renderAll : List Drawing → List Char
  | [] => []
  | child :: more => '\n' :: render child ++ renderAll more

end

end Drawing

end DiagramStudio
