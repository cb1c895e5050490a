import DiagramStudio.Canvas.Export
import DiagramStudio.Editing.Session
import DiagramStudio.Editing.Shortcut
import DiagramStudio.Preview.Renderer

/-!
The workbench: a session and its viewer. A picture is requested when the viewer is entered and
whenever the source changes while it is open; going back to the editor drops it.
-/

namespace DiagramStudio

structure Workbench (σ : Type) where
  session : Session σ
  renderer : Renderer
  canvas : CanvasConfig

namespace Workbench

variable {σ : Type}

/-- A workbench over storage and an address. -/
def open_ [Storage σ] (config : Config) (storage : σ) (location : Location) (time : Nat) : Workbench σ :=
  ⟨.load config storage location time, .ofConfig config.viewer, config.canvas⟩

/-- A request for a picture of the source. -/
def request (w : Workbench σ) : Option RenderRequest × Workbench σ :=
  let (request, renderer) := w.renderer.request w.session.source
  (some request, { w with renderer := renderer })

/-- The workbench with a changed session, and a request if the viewer has to follow the source. -/
def follow (w : Workbench σ) (session : Session σ) : Option RenderRequest × Workbench σ :=
  let changed := session.source ≠ w.session.source
  let w := { w with session := session }
  if changed ∧ session.mode = .viewer then w.request else (none, w)

/-- The first request of a session that begins in the viewer. -/
def start (w : Workbench σ) : Option RenderRequest × Workbench σ :=
  if w.session.mode = .viewer ∧ w.renderer.result.isNone then w.request else (none, w)

def setText (w : Workbench σ) (text : String) : Option RenderRequest × Workbench σ :=
  w.follow (w.session.setText text).2

def replaceText (w : Workbench σ) (text : String) : Option RenderRequest × Workbench σ :=
  w.follow (w.session.replaceText text).2

def undo (w : Workbench σ) : Option RenderRequest × Workbench σ :=
  w.follow w.session.undo.2

def redo (w : Workbench σ) : Option RenderRequest × Workbench σ :=
  w.follow w.session.redo.2

def clear (w : Workbench σ) : Option RenderRequest × Workbench σ :=
  w.follow w.session.clear

def setTitle (w : Workbench σ) (title : String) : Bool × Workbench σ :=
  let (changed, session) := w.session.setTitle title
  (changed, { w with session := session })

/-- To the viewer, with a request for what it has to show. -/
def generate (w : Workbench σ) : Option RenderRequest × Workbench σ :=
  match w.session.generate with
  | (true, session) => request { w with session := session }
  | (false, _) => (none, w)

/-- Back to the editor; the viewer shows nothing any more. -/
def back (w : Workbench σ) : Bool × Workbench σ :=
  match w.session.back with
  | (true, session) => (true, { w with session := session, renderer := w.renderer.clear })
  | (false, _) => (false, w)

/-- What became of a request, which counts only in the viewer; tells whether it did. -/
def resolve (w : Workbench σ) (request : RenderRequest) (outcome : Outcome) : Bool × Workbench σ :=
  if w.session.mode = .viewer then
    let (applied, renderer) := w.renderer.resolve request outcome
    (applied, { w with renderer := renderer })
  else (false, w)

/-- A key press. Shortcuts work in the editor only. -/
def press (w : Workbench σ) (chord : Chord) : Option Shortcut × Workbench σ :=
  if w.session.mode = .editor then
    match chord.shortcut? with
    | some shortcut =>
      let session := match shortcut.command with
        | .undo => w.session.undo.2
        | .redo => w.session.redo.2
      (some shortcut, { w with session := session })
    | none => (none, w)
  else (none, w)

def tick [Storage σ] (w : Workbench σ) : Bool × Workbench σ :=
  let (saved, session) := w.session.tick
  (saved, { w with session := session })

def flush [Storage σ] (w : Workbench σ) : Except StorageFault Unit × Workbench σ :=
  let (result, session) := w.session.flush
  (result, { w with session := session })

/-- The viewport changed, which is possible only while a picture is shown. -/
def move? (w : Workbench σ) (move : Viewport.Move) : Option (Workbench σ) :=
  (w.renderer.move? move).map fun renderer => { w with renderer := renderer }

/-- The picture that is shown, composed for export under the title of the session. -/
def compose (w : Workbench σ) (size : Size) (time : Timestamp) : Except ExportFault Export :=
  match w.renderer.markup? with
  | none => .error .notRendered
  | some markup => Export.compose markup w.session.title size time w.canvas

end Workbench

end DiagramStudio
