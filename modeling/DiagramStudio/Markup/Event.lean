import DiagramStudio.Text.Case
import DiagramStudio.Text.White

/-!
Markup as a row of events: tags, text, references and the rest, each with the text by which it is
written. A tag keeps what follows its name as it was written; its attributes are read off that only
where they are asked for.
-/

namespace DiagramStudio.Markup

/-- White space inside markup: space, tab, carriage return and line feed. -/
def isSpace (c : Char) : Bool :=
  c == ' ' || c == '\t' || c == '\r' || c == '\n'

/-- The part of a name behind its first colon; all of it if it has none. -/
def localName (name : List Char) : List Char :=
  match Text.cut? (· == ':') name with
  | some (_, rest) => rest
  | none => name

/-- The inside of a tag that opens an element: its name and all that follows the name. -/
structure Tag where
  name : List Char
  tail : List Char
deriving Repr, DecidableEq

namespace Tag

/-- A tag from the text between its angle brackets: the name ends at the first white space. -/
def ofContent (content : List Char) : Tag :=
  ⟨content.takeWhile (!isSpace ·), content.dropWhile (!isSpace ·)⟩

/-- The text between the angle brackets. -/
def content (tag : Tag) : List Char :=
  tag.name ++ tag.tail

@[simp] theorem content_ofContent (content : List Char) : (ofContent content).content = content := by
  simp [ofContent, Tag.content]

/-- The local name is the word, in any case. -/
def isCalled (tag : Tag) (word : String) : Bool :=
  Text.sameFolded (localName tag.name) word.toList

end Tag

/-- What a document consists of, in the order in which it is written. -/
inductive Event where
  | opening (tag : Tag)
  | closing (name : List Char)
  /-- An element without content, opened and closed by one tag. -/
  | standalone (tag : Tag)
  | text (body : List Char)
  /-- A reference by name or number, without the characters that enclose it. -/
  | reference (name : List Char)
  | comment (body : List Char)
  | characterData (body : List Char)
  | doctype (body : List Char)
  /-- What the document says of its own version and encoding. -/
  | declaration (body : List Char)
  | instruction (body : List Char)
deriving Repr, DecidableEq

namespace Event

/-- The text by which the event is written. -/
def render : Event → List Char
  | opening tag => '<' :: tag.content ++ ['>']
  | closing name => "</".toList ++ name ++ ['>']
  | standalone tag => '<' :: tag.content ++ "/>".toList
  | text body => body
  | reference name => '&' :: name ++ [';']
  | comment body => "<!--".toList ++ body ++ "-->".toList
  | characterData body => "<![CDATA[".toList ++ body ++ "]]>".toList
  | doctype body => "<!DOCTYPE".toList ++ body ++ ['>']
  | declaration body => "<?".toList ++ body ++ "?>".toList
  | instruction body => "<?".toList ++ body ++ "?>".toList

end Event

/-- The text of a row of events. -/
def render (events : List Event) : List Char :=
  events.flatMap Event.render

@[simp] theorem render_nil : render [] = [] := rfl

@[simp] theorem render_cons (e : Event) (events : List Event) :
    render (e :: events) = e.render ++ render events := rfl

@[simp] theorem render_append (a b : List Event) : render (a ++ b) = render a ++ render b := by
  simp [render]

end DiagramStudio.Markup
