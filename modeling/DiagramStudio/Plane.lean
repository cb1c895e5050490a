import DiagramStudio.Number.Single

/-!
Points and sizes in the plane, in single precision.
-/

namespace DiagramStudio

/-- A point, or the way from one point to another. -/
structure Point where
  x : Float32
  y : Float32
deriving BEq

namespace Point

def origin : Point := ⟨0, 0⟩

def add (a b : Point) : Point := ⟨a.x + b.x, a.y + b.y⟩

def sub (a b : Point) : Point := ⟨a.x - b.x, a.y - b.y⟩

instance : Add Point := ⟨add⟩
instance : Sub Point := ⟨sub⟩

/-- The length of the straight line between two points. -/
def distance (a b : Point) : Float32 :=
  let d := a - b
  (d.x * d.x + d.y * d.y).sqrt

/-- Both coordinates are zero, of either sign. -/
def isZero (p : Point) : Bool :=
  p.x == 0 && p.y == 0

end Point

/-- A width and a height. -/
structure Size where
  width : Float32
  height : Float32
deriving BEq

namespace Size

/-- One of the two is zero or less. -/
def isEmpty (s : Size) : Bool :=
  s.width <= 0 || s.height <= 0

/-- Both multiplied by one factor. -/
def scale (s : Size) (factor : Float32) : Size :=
  ⟨s.width * factor, s.height * factor⟩

end Size

end DiagramStudio
