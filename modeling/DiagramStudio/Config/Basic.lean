import DiagramStudio.Color.Reading

/-!
The configuration: editing, viewing, the canvas of exports, storage and the renderer, each with its defaults.
-/

namespace DiagramStudio

open Number

structure EditorConfig where
  /-- How many earlier texts can be gone back to. -/
  historyLimit : Nat := 50
  /-- For how many milliseconds nothing may change before the session is saved by itself. -/
  autosaveDelay : Nat := 1000
deriving Repr, DecidableEq, Inhabited

/-- The most that a 64-bit word counts. -/
def wordMax : Nat := 2 ^ 64 - 1

/-- A configuration whose delay is a duration: its whole milliseconds, as far as a word counts. -/
def EditorConfig.ofDuration (historyLimit seconds nanoseconds : Nat) : EditorConfig :=
  ⟨historyLimit, min wordMax (seconds * 1000 + nanoseconds / 1000000)⟩

structure ViewerConfig where
  minZoom : Float32 := 0.5
  maxZoom : Float32 := 4
  zoomStep : Float32 := 0.2
deriving Inhabited

/-- What is wrong with the zoom of a configuration. -/
inductive ViewerFault where
  | minZoom (given : Float32)
  | maxZoom (max min : Float32)
  | zoomStep (given : Float32)

def ViewerFault.message : ViewerFault → String
  | minZoom given => "min_zoom must be positive, got " ++ String.ofList (Single.text given)
  | maxZoom max min =>
    "max_zoom (" ++ String.ofList (Single.text max) ++ ") must not be smaller than min_zoom ("
      ++ String.ofList (Single.text min) ++ ")"
  | zoomStep given => "zoom_step must be positive, got " ++ String.ofList (Single.text given)

/-- The zoom is refused where a bound or the step is known to be out of order; what is not a number
    is in no order, and passes. -/
def ViewerConfig.validate (c : ViewerConfig) : Except ViewerFault Unit :=
  if c.minZoom <= 0 then .error (.minZoom c.minZoom)
  else if c.maxZoom < c.minZoom then .error (.maxZoom c.maxZoom c.minZoom)
  else if c.zoomStep <= 0 then .error (.zoomStep c.zoomStep)
  else .ok ()

structure CanvasConfig where
  backgroundColor : String := "#020617"
  titleColor : String := "#f8fafc"
  titleFontSize : Float32 := 32
  /-- The height of the band above the diagram that holds the title. -/
  titleBand : Float32 := 80
  /-- How far below the upper edge the title stands. -/
  titleBaseline : Float32 := 50
  margin : Float32 := 40
  minWidth : Float32 := 400
  /-- Pixels for a unit of the document. -/
  scale : Float32 := 5
deriving Inhabited

/-- A color of the configuration that cannot be read. -/
structure StyleFault where
  /-- What the color is for. -/
  subject : String
  text : String
  fault : ColorFault
deriving Repr, DecidableEq

def StyleFault.message (f : StyleFault) : String :=
  "Invalid " ++ f.subject ++ " color in config: " ++ Color.faultMessage f.text f.fault

namespace CanvasConfig

/-- The color that a text of the configuration stands for. -/
def color (subject text : String) : Except StyleFault Color :=
  match Color.read text.toList with
  | .ok color => .ok color
  | .error fault => .error ⟨subject, text, fault⟩

def background (c : CanvasConfig) : Except StyleFault Color :=
  color "background" c.backgroundColor

def titleInk (c : CanvasConfig) : Except StyleFault Color :=
  color "title" c.titleColor

end CanvasConfig

/-- The names under which a session is stored. -/
structure StorageConfig where
  codeKey : String := "mermaid-go-code"
  titleKey : String := "mermaid-go-title"
deriving Repr, DecidableEq, Inhabited

/-- The program that draws diagrams, and the words it is given first. -/
structure RenderConfig where
  command : String := "mmdc"
  args : List String := []
deriving Repr, DecidableEq, Inhabited

structure Config where
  editor : EditorConfig := {}
  viewer : ViewerConfig := {}
  canvas : CanvasConfig := {}
  storage : StorageConfig := {}
  render : RenderConfig := {}
deriving Inhabited

end DiagramStudio
