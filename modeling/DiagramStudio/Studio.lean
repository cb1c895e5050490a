import DiagramStudio.Failure.Basic
import DiagramStudio.Preview.Renderer

/-!
What can be done with a source outside of any session: checking it, drawing it once, and composing an
export of the picture.
-/

namespace DiagramStudio.Studio

/-- The findings that are no errors, if there are no others; a source with an error fails. -/
def check (source : String) : Except Failure (List Finding) :=
  let found := Finding.validate source.toList
  if (Finding.errors found).isEmpty then .ok found else .error (.findings found source)

/-- The picture that an engine draws of a source; the source counts as the first request. -/
def render {m : Type → Type} [Monad m] (config : Config) (engine : Engine m) (source : String) :
    m (Except Failure String) := do
  let (request, _) := (Renderer.ofConfig config.viewer).request source
  return (← request.perform engine).mapError .render

/-- The export of a picture under a title. -/
def compose (config : Config) (markup title : String) (size : Size) (time : Timestamp) :
    Except Failure Export :=
  (Export.compose markup title size time config.canvas).mapError .exporting

end DiagramStudio.Studio
