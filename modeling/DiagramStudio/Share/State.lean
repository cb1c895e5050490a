import DiagramStudio.Json.Reading
import DiagramStudio.Text.Base64
import DiagramStudio.Text.White
import DiagramStudio.ViewMode

/-!
Shared states: the source, the title and the view mode of a session as one token that can stand in a
link. The token is the unpadded, link-safe base 64 of a small JSON document.
-/

namespace DiagramStudio

/-- What a link carries. -/
structure SharedState where
  source : String
  title : String
  mode : ViewMode
deriving Repr, DecidableEq

namespace SharedState

/-- The document that stands for the state. -/
def toJson (s : SharedState) : Json :=
  .ofMembers [("c", .ofText s.source), ("t", .ofText s.title), ("m", s.mode.toJson)]

/-- The token of a state. -/
def encode (s : SharedState) : List Char :=
  Text.Base64.urlSafe.encode s.toJson.render

/-- The members of an object with their names; nothing if one of the names is not a text. -/
def named? (members : List (Quoted × Json)) : Option (List (String × Json)) :=
  members.mapM fun (key, value) => key.text?.map fun name => (name, value)

/-- What the members with one name hold: nothing at all if there are two of them, else the value of
    the one there is, if any. -/
def unique? (name : String) (members : List (String × Json)) : Option (Option Json) :=
  match members.filter (·.1 == name) with
  | [] => some none
  | [member] => some (some member.2)
  | _ => none

/-- The title that a value gives; a value that is left out gives the empty one. -/
def title? : Option Json → Option String
  | none => some ""
  | some value => value.text?

/-- The mode that a value gives; a value that is left out gives the editor. -/
def mode? : Option Json → Option ViewMode
  | none => some .editor
  | some value => ViewMode.ofJson? value

/-- The state that a document stands for: an object, in which the source must be and other members
    are let be, or a list of up to three values. -/
def ofJson? : Json → Option SharedState
  | .object members => do
    let members ← named? members
    let source ← (← unique? "c" members).bind Json.text?
    let title ← title? (← unique? "t" members)
    let mode ← mode? (← unique? "m" members)
    return ⟨source, title, mode⟩
  | .array (source :: rest) =>
    if rest.length ≤ 2 then do
      return ⟨← source.text?, ← title? rest[0]?, ← mode? rest[1]?⟩
    else none
  | _ => none

/-- What introduces a token in a link. -/
def mark : Char := '#'

/-- The token in a text: white space at the ends and one mark in front are not part of it. -/
def token (s : List Char) : List Char :=
  match Text.trim s with
  | c :: rest => if c = mark then rest else c :: rest
  | [] => []

/-- The state that a token stands for. -/
def decode? (s : List Char) : Option SharedState :=
  if (token s).isEmpty then none
  else ((Text.Base64.urlSafe.decode? (token s)).bind Json.read?).bind ofJson?

end SharedState

end DiagramStudio
