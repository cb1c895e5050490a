import DiagramStudio.Config.Basic
import DiagramStudio.Plane

/-!
The canvas of an export: the diagram below a band for the title, centered, with a margin.
-/

namespace DiagramStudio

open Number

/-- Where everything lies on the canvas. -/
structure Layout where
  canvas : Size
  diagram : Size
  /-- The upper left corner of the diagram. -/
  origin : Point
  /-- The middle of the title, on its baseline. -/
  title : Point
  /-- The size of the image in pixels. -/
  pixels : Size

/-- The layout for a diagram of the given size; a negative extent, or one that is no number, counts as
    nothing. -/
def Layout.ofSize (size : Size) (config : CanvasConfig) : Layout :=
  let diagram : Size := ⟨Single.greater size.width 0, Single.greater size.height 0⟩
  let width := Single.greater (diagram.width + config.margin) config.minWidth
  let height := diagram.height + config.titleBand + config.margin
  let canvas : Size := ⟨width, height⟩
  { canvas, diagram
    origin := ⟨(width - diagram.width) / 2, config.titleBand⟩
    title := ⟨width / 2, config.titleBaseline⟩
    pixels := canvas.scale config.scale }

end DiagramStudio
