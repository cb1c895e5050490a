import DiagramStudio.Config.Basic
import DiagramStudio.Plane

/-!
The viewport: how a picture is scaled and moved. Zooming and pinching keep the scale between two
bounds; one pointer moves the picture, two pointers scale it.
-/

namespace DiagramStudio

open Number

/-- What the pointers are doing. -/
inductive Gesture where
  | idle
  /-- One pointer moves the picture; it was last seen at a point. -/
  | panning (last : Point)
  /-- Two pointers scale the picture, from their first distance and the scale it had then. -/
  | pinching (distance scale : Float32)

structure Viewport where
  scale : Float32
  offset : Point
  minZoom : Float32
  maxZoom : Float32
  zoomStep : Float32
  gesture : Gesture

namespace Viewport

/-- The scale held between the bounds; where they are in the wrong order the upper one wins. -/
def clamp (v : Viewport) (scale : Float32) : Float32 :=
  Single.lesser (Single.greater scale v.minZoom) v.maxZoom

/-- The scale nearest to one, nothing moved, no gesture. -/
def reset (v : Viewport) : Viewport :=
  { v with scale := v.clamp 1, offset := .origin, gesture := .idle }

def ofConfig (c : ViewerConfig) : Viewport :=
  reset ⟨1, .origin, c.minZoom, c.maxZoom, c.zoomStep, .idle⟩

/-- The greatest percentage that is shown. -/
def percentMax : Nat := 2 ^ 32 - 1

/-- The scale in whole percent. -/
def percent (v : Viewport) : Nat := Single.roundClamped percentMax (v.scale * 100)

def isPanning (v : Viewport) : Bool :=
  match v.gesture with
  | .panning _ => true
  | _ => false

def isPinching (v : Viewport) : Bool :=
  match v.gesture with
  | .pinching _ _ => true
  | _ => false

def zoomIn (v : Viewport) : Viewport := { v with scale := v.clamp (v.scale + v.zoomStep) }

def zoomOut (v : Viewport) : Viewport := { v with scale := v.clamp (v.scale - v.zoomStep) }

/-- One pointer is put down. -/
def beginPan (v : Viewport) (at_ : Point) : Viewport := { v with gesture := .panning at_ }

/-- The picture goes along with the pointer, if it is being moved. -/
def panTo (v : Viewport) (at_ : Point) : Viewport :=
  match v.gesture with
  | .panning last => { v with offset := v.offset + (at_ - last), gesture := .panning at_ }
  | _ => v

/-- Two pointers are put down. Where they are not apart there is nothing to scale by. -/
def beginPinch (v : Viewport) (first second : Point) : Viewport :=
  let distance := first.distance second
  { v with gesture := if distance > 0 then .pinching distance v.scale else .idle }

/-- The picture is scaled as the distance of the pointers, if it is being scaled. -/
def pinchTo (v : Viewport) (first second : Point) : Viewport :=
  match v.gesture with
  | .pinching distance scale => { v with scale := v.clamp (scale * (first.distance second / distance)) }
  | _ => v

/-- The pointers are lifted. -/
def endGesture (v : Viewport) : Viewport := { v with gesture := .idle }

/-- What can be done to a viewport. -/
inductive Move where
  | zoomIn
  | zoomOut
  | reset
  | beginPan (at_ : Point)
  | panTo (at_ : Point)
  | beginPinch (first second : Point)
  | pinchTo (first second : Point)
  | endGesture

def apply (v : Viewport) : Move → Viewport
  | .zoomIn => v.zoomIn
  | .zoomOut => v.zoomOut
  | .reset => v.reset
  | .beginPan at_ => v.beginPan at_
  | .panTo at_ => v.panTo at_
  | .beginPinch first second => v.beginPinch first second
  | .pinchTo first second => v.pinchTo first second
  | .endGesture => v.endGesture

end Viewport

end DiagramStudio
