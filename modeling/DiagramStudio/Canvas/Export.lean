import DiagramStudio.Canvas.Drawing
import DiagramStudio.Canvas.Layout
import DiagramStudio.Markup.Cleaning
import DiagramStudio.Naming.FileName
import DiagramStudio.Text.Base64
import DiagramStudio.Text.Utf8

/-!
Composing an export: a backdrop, the title and the cleaned diagram on one canvas. The diagram is
embedded as data, so that nothing of its own markup stands in the document.
-/

namespace DiagramStudio

open Number

/-- Why nothing is exported. -/
inductive ExportFault where
  | markup (fault : Markup.Fault)
  | style (fault : StyleFault)
  /-- There is no rendered diagram. -/
  | notRendered
deriving Repr, DecidableEq

def ExportFault.message : ExportFault → String
  | markup fault => fault.message
  | style fault => "invalid export style: " ++ fault.message
  | notRendered => "nothing has been rendered yet"

/-- An export that is ready to be written. -/
structure Export where
  fileName : String
  svg : List Char
  layout : Layout

namespace Export

/-- What stands for a title that is empty. -/
def placeholder : String := "Diagram"

def number (x : Float32) : List Char := Single.text x

/-- The backdrop of the canvas. -/
def backdrop (layout : Layout) (color : Color) : Drawing :=
  .element "rect"
    [("fill", color.display.toList), ("fill-opacity", number color.alpha),
     ("height", number layout.canvas.height), ("width", number layout.canvas.width),
     ("x", ['0']), ("y", ['0'])] []

/-- The title, centered on its baseline. -/
def heading (layout : Layout) (config : CanvasConfig) (ink : Color) (title : String) : Drawing :=
  .element "text"
    [("fill", ink.display.toList), ("font-family", "Inter, sans-serif".toList),
     ("font-size", number config.titleFontSize), ("font-weight", "bold".toList),
     ("text-anchor", "middle".toList), ("x", number layout.title.x), ("y", number layout.title.y)]
    [.text (if title.isEmpty then placeholder.toList else title.toList)]

/-- What the address of an embedded drawing begins with. -/
def dataScheme : List Char := "data:image/svg+xml;base64,".toList

/-- The address that holds a drawing itself. -/
def dataAddress (markup : List Char) : List Char :=
  dataScheme ++ Text.Base64.standard.encode (Text.Utf8.encode markup)

/-- The diagram, embedded. -/
def picture (layout : Layout) (markup : List Char) : Drawing :=
  .element "image"
    [("height", number layout.diagram.height), ("href", dataAddress markup),
     ("width", number layout.diagram.width), ("x", number layout.origin.x),
     ("y", number layout.origin.y)] []

/-- The whole canvas. -/
def sheet (layout : Layout) (parts : List Drawing) : Drawing :=
  let width := number layout.canvas.width
  let height := number layout.canvas.height
  .element "svg"
    [("height", height), ("viewBox", "0 0 ".toList ++ width ++ ' ' :: height), ("width", width),
     ("xmlns", Markup.svgNamespace.toList)] parts

/-- The export of rendered markup. The colors are looked at first, the background before the
    title's. -/
def compose (markup title : String) (size : Size) (time : Timestamp) (config : CanvasConfig) :
    Except ExportFault Export :=
  match config.background with
  | .error fault => .error (.style fault)
  | .ok background =>
    match config.titleInk with
    | .error fault => .error (.style fault)
    | .ok ink =>
      match Markup.clean markup.toList with
      | .error fault => .error (.markup fault)
      | .ok clean =>
        let layout := Layout.ofSize size config
        let parts :=
          [backdrop layout background, heading layout config ink title, picture layout clean]
        .ok ⟨FileName.ofImage title time, (sheet layout parts).render, layout⟩

end Export

end DiagramStudio
