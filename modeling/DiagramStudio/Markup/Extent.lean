import DiagramStudio.Markup.Fault
import DiagramStudio.Plane

/-!
The size that the root element of a drawing gives: that of its view box, or else its width and
height. Only positive sizes count.
-/

namespace DiagramStudio.Markup

open Number

/-- Numbers in a list stand between commas and white space. -/
def endsNumber (c : Char) : Bool :=
  Text.isWhite c || c == ','

/-- The single-precision number that a text spells. -/
def single? (s : List Char) : Option Float32 :=
  (Literal.read? s).map Literal.toSingle

/-- The size of a view box: the last two of four numbers. -/
def viewBoxSize? (value : List Char) : Option Size :=
  match (Text.words endsNumber value).mapM single? with
  | some [_, _, width, height] => if 0 < width ∧ 0 < height then some ⟨width, height⟩ else none
  | _ => none

/-- A length: a number, with or without the unit of pixels. -/
def length? (value : List Char) : Option Float32 :=
  let value := Text.trim value
  let number := (Text.dropBack? "px".toList value).getD value
  (single? (Text.trim number)).filter fun n => 0 < n

/-- The value of the attribute with the given key. -/
def valueOf? (attributes : List Attribute) (key : String) : Option (List Char) :=
  (attributes.find? fun a => a.key == key.toList).map (·.value)

/-- The size that attributes give. -/
def sizeOf? (attributes : List Attribute) : Option Size :=
  ((valueOf? attributes "viewBox").bind viewBoxSize?).or do
    let width ← (valueOf? attributes "width").bind length?
    let height ← (valueOf? attributes "height").bind length?
    return ⟨width, height⟩

/-- The tag of an element that begins with the event. -/
def Event.tag? : Event → Option Tag
  | .opening tag | .standalone tag => some tag
  | _ => none

/-- The size of a document: that of its first element, whatever follows it. -/
def extent (s : List Char) : Except Fault Size :=
  let reading := read s
  match reading.events.findSome? Event.tag? with
  | some tag =>
    match tag.attributes with
    | .ok attributes =>
      match sizeOf? attributes with
      | some size => .ok size
      | none => .error .noSize
    | .error fault => .error (.attributes fault)
  | none =>
    match reading.fault with
    | some fault => .error (.reading fault)
    | none => .error .noRoot

end DiagramStudio.Markup
