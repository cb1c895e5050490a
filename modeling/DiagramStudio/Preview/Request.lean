import DiagramStudio.Diagram.Kind
import DiagramStudio.Diagram.Source

/-!
Requests for a picture of a source, and what becomes of them. A source that cannot be a diagram is
turned down before the engine that draws is asked.
-/

namespace DiagramStudio

/-- Why there is no picture. -/
inductive RenderFault where
  | emptySource
  | missingKind
  /-- The engine failed, with words of its own or without. -/
  | engine (message : Option String)
deriving Repr, DecidableEq, Inhabited

namespace RenderFault

/-- What is said for an engine that fails without a word. -/
def fallback : String := "Failed to render diagram. Please check your syntax."

/-- The failure of an engine with the given words; a blank text is none. -/
def ofMessage (message : String) : RenderFault :=
  engine (if Text.isBlank message.toList then none else some message)

def message : RenderFault → String
  | emptySource => "Diagram code is empty."
  | missingKind =>
    "No diagram type detected (like 'graph', 'sequenceDiagram', etc.). "
      ++ "Please ensure your code starts with a valid Mermaid keyword."
  | engine message => message.getD fallback

end RenderFault

/-- What became of a request: a picture, as markup, or none. -/
abbrev Outcome := Except RenderFault String

/-- A source is turned down if it is blank, or if its first word is no keyword and it does not begin
    with a comment either. -/
def precheck (source : List Char) : Except RenderFault Unit :=
  let text := Text.trim (Text.stripMark source)
  if text.isEmpty then .error .emptySource
  else if (DiagramKind.ofKeyword? (Source.keyword text)).isNone && !Source.commentMark.isPrefixOf text then
    .error .missingKind
  else .ok ()

/-- A request for a picture. -/
structure RenderRequest where
  /-- Requests are counted from one. -/
  number : Nat
  source : String
deriving Repr, DecidableEq, Inhabited

namespace RenderRequest

/-- What the identifier of a picture begins with. -/
def idStem : String := "diagram-"

/-- The identifier of the picture. -/
def id (r : RenderRequest) : String :=
  idStem ++ String.ofList (Nat.toDigits 10 r.number)

end RenderRequest

/-- What draws: given an identifier and a source, it gives a picture or fails, in a monad of its
    own. -/
abbrev Engine (m : Type → Type) := (id source : String) → m Outcome

/-- A request carried out. The engine is asked once, unless the source is turned down. -/
def RenderRequest.perform {m : Type → Type} [Monad m] (r : RenderRequest) (engine : Engine m) :
    m Outcome :=
  match precheck r.source.toList with
  | .error fault => pure (.error fault)
  | .ok () => engine r.id r.source

end DiagramStudio
