import DiagramStudio.Script.Calendar
import DiagramStudio.Script.FileTool

/-!
What has to be changed in one text to get another. Lines are left alone as far as a shortest row of changes
allows; where there are several, the changes are moved until they meet others, or as far on as possible.
-/

namespace DiagramStudio.Script.Difference

/-! ## Shortest rows of changes -/

/-- A part of two texts: lines from one number up to another. -/
structure Span where
  left : Nat
  leftEnd : Nat
  right : Nat
  rightEnd : Nat

/-- The lines of two texts, told apart by numbers. -/
structure Texts where
  left : Array Nat
  right : Array Nat

def Texts.same (t : Texts) (i j : Nat) : Bool := t.left.getD i 0 == t.right.getD j 1

/-- How many lines are the same from two places on, up to two ends. Every unit of fuel pays for one. -/
def Texts.ahead (t : Texts) : Nat → (i iEnd j jEnd : Nat) → Nat
  | 0, _, _, _, _ => 0
  | fuel + 1, i, iEnd, j, jEnd =>
    if i < iEnd && j < jEnd && t.same i j then t.ahead fuel (i + 1) iEnd (j + 1) jEnd + 1 else 0

/-- How many lines are the same in front of two places, from two others on. -/
def Texts.behind (t : Texts) : Nat → (i iEnd j jEnd : Nat) → Nat
  | 0, _, _, _, _ => 0
  | fuel + 1, i, iEnd, j, jEnd =>
    if i < iEnd && j < jEnd && t.same (iEnd - 1) (jEnd - 1) then t.behind fuel i (iEnd - 1) j (jEnd - 1) + 1 else 0

/-- The farthest points that a number of changes reaches, by the diagonals that they lie on, and the first
    and the last of these. -/
structure Front where
  reached : Array Int
  first : Int
  last : Int

namespace Front

def at_ (f : Front) (shift d : Int) : Int := f.reached.getD (d + shift).toNat 0

def put (f : Front) (shift d x : Int) : Front := { f with reached := f.reached.setIfInBounds (d + shift).toNat x }

/-- The front widened by a diagonal at both sides, as far as there are any. -/
def widened (f : Front) (shift least most far : Int) : Front :=
  let f := if least < f.first then { f.put shift (f.first - 2) far with first := f.first - 1 }
    else { f with first := f.first + 1 }
  if f.last < most then { f.put shift (f.last + 2) far with last := f.last + 1 } else { f with last := f.last - 1 }

end Front

/-- The search from both ends of a span. -/
structure Both where
  forward : Front
  backward : Front

/-- One more change from the front on: the diagonals from one on, two steps apart. Gives the point where
    the two searches meet, if they do. Every unit of fuel pays for a diagonal. -/
def stepForward (t : Texts) (s : Span) (shift : Int) (meets : Bool) : Nat → Int → Both → Both × Option (Nat × Nat)
  | 0, _, b => (b, none)
  | fuel + 1, d, b =>
    if d < b.forward.first then (b, none)
    else
      let low := b.forward.at_ shift (d - 1)
      let high := b.forward.at_ shift (d + 1)
      let x := (if low < high then high else low + 1).toNat
      let y := ((x : Int) - d).toNat
      let n := t.ahead (s.leftEnd - x) x s.leftEnd y s.rightEnd
      let b := { b with forward := b.forward.put shift d (x + n) }
      if meets && b.backward.first ≤ d && d ≤ b.backward.last && b.backward.at_ shift d ≤ (x + n : Int) then
        (b, some (x + n, y + n))
      else stepForward t s shift meets fuel (d - 2) b

/-- One more change from the end on. -/
def stepBackward (t : Texts) (s : Span) (shift : Int) (meets : Bool) : Nat → Int → Both → Both × Option (Nat × Nat)
  | 0, _, b => (b, none)
  | fuel + 1, d, b =>
    if d < b.backward.first then (b, none)
    else
      let low := b.backward.at_ shift (d - 1)
      let high := b.backward.at_ shift (d + 1)
      let x := (if low < high then low else high - 1).toNat
      let y := ((x : Int) - d).toNat
      let n := t.behind (x - s.left) s.left x s.right y
      let b := { b with backward := b.backward.put shift d (x - n) }
      if meets && b.forward.first ≤ d && d ≤ b.forward.last && (x - n : Int) ≤ b.forward.at_ shift d then
        (b, some (x - n, y - n))
      else stepBackward t s shift meets fuel (d - 2) b

/-- A point in the middle of a shortest way through a span. Every unit of fuel pays for a change. -/
def middle (t : Texts) (s : Span) (shift : Int) : Nat → Both → Nat × Nat
  | 0, _ => (s.left, s.rightEnd)
  | fuel + 1, b =>
    let least : Int := s.left - s.rightEnd
    let most : Int := s.leftEnd - s.right
    let odd := ((s.left : Int) - s.right - (s.leftEnd - s.rightEnd)) % 2 != 0
    let count := (most - least).toNat + 2
    let b := { b with forward := b.forward.widened shift least most (-1) }
    match stepForward t s shift odd count b.forward.last b with
    | (_, some point) => point
    | (b, none) =>
      let b := { b with backward := b.backward.widened shift least most (10 ^ 9) }
      match stepBackward t s shift (!odd) count b.backward.last b with
      | (_, some point) => point
      | (b, none) => middle t s shift fuel b

/-- Which lines of both texts are changed. -/
structure Marks where
  left : Array Bool
  right : Array Bool

def Marks.markLeft (m : Marks) (low high : Nat) : Marks :=
  { m with left := (List.range (high - low)).foldl (fun a i => a.setIfInBounds (low + i) true) m.left }

def Marks.markRight (m : Marks) (low high : Nat) : Marks :=
  { m with right := (List.range (high - low)).foldl (fun a i => a.setIfInBounds (low + i) true) m.right }

/-- The changes in a span. Every unit of fuel pays for a division. -/
def compare (t : Texts) : Nat → Span → Marks → Marks
  | 0, s, m => (m.markLeft s.left s.leftEnd).markRight s.right s.rightEnd
  | fuel + 1, s, m =>
    let front := t.ahead (s.leftEnd - s.left) s.left s.leftEnd s.right s.rightEnd
    let s := { s with left := s.left + front, right := s.right + front }
    let back := t.behind (s.leftEnd - s.left) s.left s.leftEnd s.right s.rightEnd
    let s := { s with leftEnd := s.leftEnd - back, rightEnd := s.rightEnd - back }
    if s.left = s.leftEnd then m.markRight s.right s.rightEnd
    else if s.right = s.rightEnd then m.markLeft s.left s.leftEnd
    else
      let size := t.left.size + t.right.size + 4
      let shift : Int := t.right.size + 2
      let start : Int := s.left - s.right
      let finish : Int := s.leftEnd - s.rightEnd
      let forward : Front := { reached := Array.replicate size 0, first := start, last := start }
      let backward : Front := { reached := Array.replicate size 0, first := finish, last := finish }
      let (x, y) := middle t s shift size ⟨forward.put shift start s.left, backward.put shift finish s.leftEnd⟩
      compare t fuel { s with left := x, right := y } (compare t fuel { s with leftEnd := x, rightEnd := y } m)

/-- The changes from one text to another: lines that the other text does not have are changed in any case. -/
def marks (left right : Array Nat) : Marks :=
  let kept (own other : Array Nat) : Array Nat :=
    ((List.range own.size).filter fun i => other.contains (own.getD i 0)).toArray
  let (keptLeft, keptRight) := (kept left right, kept right left)
  let t : Texts := ⟨keptLeft.map (left.getD · 0), keptRight.map (right.getD · 0)⟩
  let none_ (n : Nat) : Array Bool := Array.replicate n false
  let m := compare t (t.left.size + t.right.size + 1) ⟨0, t.left.size, 0, t.right.size⟩ ⟨none_ t.left.size, none_ t.right.size⟩
  let spread (places : Array Nat) (inner : Array Bool) (size : Nat) : Array Bool :=
    places.toList.zipIdx.foldl (fun (a : Array Bool) (place, i) => a.setIfInBounds place (inner.getD i false))
      (Array.replicate size true)
  ⟨spread keptLeft m.left left.size, spread keptRight m.right right.size⟩

/-! ## Changes moved -/

/-- A run of changes in one text while it is moved: where it begins and ends, the place in the other text,
    and the last end of the run that meets a change there. -/
structure Run where
  changed : Array Bool
  start : Nat
  finish : Nat
  other : Nat
  met : Nat

/-- Places from one on, forwards, as long as they are changed. -/
def skip (changed : Array Bool) : Nat → Nat → Nat
  | 0, i => i
  | fuel + 1, i => if changed.getD i false then skip changed fuel (i + 1) else i

/-- The place that is not changed in front of a place; zero if there is none. -/
def skipBack (changed : Array Bool) : Nat → Nat
  | 0 => 0
  | i + 1 => if changed.getD i false then skipBack changed i else i

/-- The start of the changes that lie directly in front of a place. -/
def startOf (changed : Array Bool) : Nat → Nat
  | 0 => 0
  | i + 1 => if changed.getD i false then startOf changed i else i + 1

/-- The run moved towards the front as long as the line in front of it is its last one. -/
def moveBack (lines : Array Nat) (others : Array Bool) : Nat → Run → Run
  | 0, r => r
  | fuel + 1, r =>
    if r.start != 0 && lines.getD (r.start - 1) 0 == lines.getD (r.finish - 1) 0 then
      let changed := (r.changed.setIfInBounds (r.start - 1) true).setIfInBounds (r.finish - 1) false
      moveBack lines others fuel
        { r with changed, start := startOf changed (r.start - 1), finish := r.finish - 1, other := skipBack others r.other }
    else r

/-- The run moved towards the end as long as the line behind it is its first one. -/
def moveOn (lines : Array Nat) (others : Array Bool) : Nat → Run → Run
  | 0, r => r
  | fuel + 1, r =>
    if r.finish < lines.size && lines.getD r.start 0 == lines.getD r.finish 0 then
      let changed := (r.changed.setIfInBounds r.start false).setIfInBounds r.finish true
      let finish := skip changed lines.size (r.finish + 1)
      let other := skip others others.size (r.other + 1)
      let met := if others.getD (r.other + 1) false then finish else r.met
      moveOn lines others fuel { r with changed, start := r.start + 1, finish, other, met }
    else r

/-- The run moved until it has stopped growing. Every unit of fuel pays for a way there and back. -/
def settle (lines : Array Nat) (others : Array Bool) : Nat → Run → Run
  | 0, r => r
  | fuel + 1, r =>
    let length := r.finish - r.start
    let r := moveBack lines others (lines.size + 1) r
    let r := { r with met := if r.other != 0 && others.getD (r.other - 1) false then r.finish else lines.size }
    let r := moveOn lines others (lines.size + 1) r
    if length = r.finish - r.start then r else settle lines others fuel r

/-- The run moved back to where it meets a change in the other text. -/
def meet (others : Array Bool) : Nat → Run → Run
  | 0, r => r
  | fuel + 1, r =>
    if r.met < r.finish then
      meet others fuel
        { r with changed := (r.changed.setIfInBounds (r.start - 1) true).setIfInBounds (r.finish - 1) false
                 start := r.start - 1, finish := r.finish - 1, other := skipBack others r.other }
    else r

/-- All runs of changes of one text moved. Every unit of fuel pays for a line or a run. -/
def shifted (lines : Array Nat) (others : Array Bool) : Nat → (i j : Nat) → Array Bool → Array Bool
  | 0, _, _, changed => changed
  | fuel + 1, i, j, changed =>
    if lines.size ≤ i then changed
    else if !changed.getD i false then shifted lines others fuel (i + 1) (skip others others.size j + 1) changed
    else
      let r := settle lines others (lines.size + 1)
        ⟨changed, i, skip changed lines.size i, skip others others.size j, lines.size⟩
      let r := meet others (lines.size + 1) r
      shifted lines others fuel r.finish r.other r.changed

/-! ## Hunks -/

/-- A change: lines of one text up to a number, in place of lines of the other. -/
structure Hunk where
  left : Nat
  leftEnd : Nat
  right : Nat
  rightEnd : Nat
deriving Inhabited

/-- The changes, in order. Every unit of fuel pays for a line or a change. -/
def hunksFrom (m : Marks) : Nat → (i j : Nat) → List Hunk
  | 0, _, _ => []
  | fuel + 1, i, j =>
    if m.left.size ≤ i && m.right.size ≤ j then []
    else
      let iEnd := skip m.left m.left.size i
      let jEnd := skip m.right m.right.size j
      if iEnd = i ∧ jEnd = j then hunksFrom m fuel (i + 1) (j + 1)
      else ⟨i, iEnd, j, jEnd⟩ :: hunksFrom m fuel iEnd jEnd

/-- The changes from one text, given by numbers for its lines, to another. -/
def hunks (left right : Array Nat) : List Hunk :=
  let m := marks left right
  let movedLeft := shifted left m.right (left.size + right.size + 2) 0 0 m.left
  let movedRight := shifted right movedLeft (left.size + right.size + 2) 0 0 m.right
  hunksFrom ⟨movedLeft, movedRight⟩ (left.size + right.size + 2) 0 0

/-- The changes in what lies between so many lines at the front and at the end of two texts. -/
def innerHunks (front back : Nat) (left right : Array Nat) : List Hunk :=
  let inner (a : Array Nat) : Array Nat := a.extract front (a.size - back)
  (hunks (inner left) (inner right)).map fun h =>
    ⟨h.left + front, h.leftEnd + front, h.right + front, h.rightEnd + front⟩

end DiagramStudio.Script.Difference
