import DiagramStudio.Proofs.Number.Order
import DiagramStudio.Proofs.Preview.Newest

/-!
The bounds of a viewport. Where they are numbers in order, whatever is done to the viewport keeps its scale
between them: every move that sets the scale clamps it, and clamping puts up with any value.
-/

namespace DiagramStudio.Viewport

open Number (Single.isNaN_of_le Single.le_greater Single.lesser_between)

/-- The scale is between the bounds, as numbers are. -/
def InBounds (v : Viewport) : Prop := v.minZoom ≤ v.scale ∧ v.scale ≤ v.maxZoom

/-- The viewport after a row of moves. -/
def applyAll (v : Viewport) (moves : List Move) : Viewport := moves.foldl apply v

theorem clamp_between {v : Viewport} (ordered : v.minZoom ≤ v.maxZoom) (scale : Float32) :
    v.minZoom ≤ v.clamp scale ∧ v.clamp scale ≤ v.maxZoom :=
  Single.lesser_between (Single.le_greater scale (Single.isNaN_of_le ordered).1) ordered

theorem ofConfig_inBounds {config : ViewerConfig} (ordered : config.minZoom ≤ config.maxZoom) :
    (ofConfig config).InBounds :=
  clamp_between (v := ⟨1, .origin, config.minZoom, config.maxZoom, config.zoomStep, .idle⟩) ordered 1

theorem apply_inBounds {v : Viewport} (ordered : v.minZoom ≤ v.maxZoom) (inBounds : v.InBounds) (move : Move) :
    (v.apply move).InBounds := by
  cases move with
  | zoomIn => exact clamp_between ordered _
  | zoomOut => exact clamp_between ordered _
  | reset => exact clamp_between ordered _
  | beginPan at_ => exact inBounds
  | panTo at_ =>
    simp only [apply, panTo]
    split <;> exact inBounds
  | beginPinch first second => exact inBounds
  | pinchTo first second =>
    simp only [apply, pinchTo]
    split
    · exact clamp_between ordered _
    · exact inBounds
  | endGesture => exact inBounds

theorem applyAll_isOf {config : ViewerConfig} {v : Viewport} (isOf : IsOf config v) (moves : List Move) :
    IsOf config (v.applyAll moves) := by
  induction moves generalizing v with
  | nil => exact isOf
  | cons move more ih => exact ih (isOf.apply move)

theorem applyAll_inBounds {config : ViewerConfig} {v : Viewport} (isOf : IsOf config v)
    (ordered : config.minZoom ≤ config.maxZoom) (inBounds : v.InBounds) (moves : List Move) :
    (v.applyAll moves).InBounds := by
  induction moves generalizing v with
  | nil => exact inBounds
  | cons move more ih =>
    have here : v.minZoom ≤ v.maxZoom := by rwa [isOf.minZoom, isOf.maxZoom]
    exact ih (isOf.apply move) (apply_inBounds here inBounds move)

end DiagramStudio.Viewport
