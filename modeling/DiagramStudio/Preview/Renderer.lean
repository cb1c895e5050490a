import DiagramStudio.Preview.Request
import DiagramStudio.Preview.Viewport

/-!
The renderer keeps track of requests: of all that were made only the latest counts, so that a slow
answer to an older one never takes the place of a newer picture.
-/

namespace DiagramStudio

/-- What the viewer has to show. -/
inductive RenderResult where
  | loading
  | success (markup : String)
  | failure (message : String)
deriving Repr, DecidableEq, Inhabited

/-- The result that an outcome amounts to. -/
def RenderResult.ofOutcome : Outcome → RenderResult
  | .ok markup => success markup
  | .error fault => failure fault.message

structure Renderer where
  /-- How many requests were made. -/
  issued : Nat
  /-- The number of the request that is waited for. -/
  pending : Option Nat
  result : Option RenderResult
  viewport : Viewport

namespace Renderer

def ofConfig (c : ViewerConfig) : Renderer := ⟨0, none, none, .ofConfig c⟩

/-- A new request, which is waited for from now on. -/
def request (r : Renderer) (source : String) : RenderRequest × Renderer :=
  let number := r.issued + 1
  (⟨number, source⟩, ⟨number, some number, some .loading, r.viewport.reset⟩)

/-- What became of a request. It counts only if this is the request that is waited for; tells whether
    it did. -/
def resolve (r : Renderer) (request : RenderRequest) (outcome : Outcome) : Bool × Renderer :=
  if r.pending = some request.number then
    (true, { r with pending := none, result := some (.ofOutcome outcome) })
  else (false, r)

/-- Nothing is waited for and nothing is shown. -/
def clear (r : Renderer) : Renderer :=
  { r with pending := none, result := none, viewport := r.viewport.reset }

/-- A new request, carried out at once; tells whether its outcome counted. -/
def renderWith {m : Type → Type} [Monad m] (r : Renderer) (engine : Engine m) (source : String) :
    m (Bool × Renderer) := do
  let (request, r) := r.request source
  return r.resolve request (← request.perform engine)

def isLoading (r : Renderer) : Bool := r.result == some .loading

/-- The picture that is shown. -/
def markup? (r : Renderer) : Option String :=
  match r.result with
  | some (.success markup) => some markup
  | _ => none

/-- The message that is shown in place of a picture. -/
def error? (r : Renderer) : Option String :=
  match r.result with
  | some (.failure message) => some message
  | _ => none

/-- The viewport changed, which is possible only while a picture is shown. -/
def move? (r : Renderer) (move : Viewport.Move) : Option Renderer :=
  if r.markup?.isSome then some { r with viewport := r.viewport.apply move } else none

end Renderer

end DiagramStudio
