import DiagramStudio.Proofs.Number.Vanishing
import DiagramStudio.Proofs.Preview.Bounds

/-!
Gestures. A move that takes up a gesture or lets it go is a turn, and the last turn of a row of moves alone says what
the pointers do after it (`Leads`): one of them moves the picture, or two that were put down apart scale it, or none
does anything. So `panTo` and `pinchTo` leave the viewport as it is unless the last turn asked for them, and there is
always a distance to divide by. What a move has no business with it leaves alone, in a row of any length.
-/

namespace DiagramStudio

open Number

/-- Pointers on one spot are at no distance above zero. -/
theorem Point.not_pos_distance {a b : Point} (same : (a == b) = true) : ¬0 < a.distance b := by
  obtain ⟨sameX, sameY⟩ : (a.x == b.x) = true ∧ (a.y == b.y) = true := Bool.and_eq_true_iff.mp same
  have x : Single.Vanishes (a.x - b.x) := Single.Vanishes.sub sameX
  have y : Single.Vanishes (a.y - b.y) := Single.Vanishes.sub sameY
  exact ((x.mul x).add (y.mul y)).sqrt.not_pos

namespace Viewport

/-! ## The last turn -/

/-- The move sets what the pointers do, whatever they did. -/
def Move.turns : Move → Bool
  | .reset | .beginPan _ | .beginPinch _ _ | .endGesture => true
  | .zoomIn | .zoomOut | .panTo _ | .pinchTo _ _ => false

def lastTurn? (moves : List Move) : Option Move := (moves.filter Move.turns).getLast?

theorem lastTurn?_cons_or (move : Move) (more : List Move) (turn : Option Move) :
    (lastTurn? (move :: more)).or turn = (lastTurn? more).or (if move.turns then some move else turn) := by
  by_cases turns : move.turns = true
  · rw [lastTurn?, List.filter_cons_of_pos turns, List.getLast?_cons, if_pos turns, lastTurn?]
    cases (more.filter Move.turns).getLast? <;> rfl
  · rw [lastTurn?, List.filter_cons_of_neg turns, if_neg turns, lastTurn?]

/-- The gesture is what the last turn comes to; before any there is none. -/
inductive Leads : Option Move → Gesture → Prop
  | untouched : Leads none .idle
  | reset : Leads (some .reset) .idle
  | lifted : Leads (some .endGesture) .idle
  | panning (start last : Point) : Leads (some (.beginPan start)) (.panning last)
  | pinching {first second : Point} (apart : 0 < first.distance second) (scale : Float32) :
    Leads (some (.beginPinch first second)) (.pinching (first.distance second) scale)
  | together {first second : Point} (close : ¬0 < first.distance second) :
    Leads (some (.beginPinch first second)) .idle

theorem Leads.apply {turn : Option Move} {v : Viewport} (leads : Leads turn v.gesture) (move : Move) :
    Leads (if move.turns then some move else turn) (v.apply move).gesture := by
  cases move with
  | zoomIn => exact leads
  | zoomOut => exact leads
  | reset => exact .reset
  | endGesture => exact .lifted
  | beginPan at_ => exact .panning at_ at_
  | panTo at_ =>
    simp only [Viewport.apply, panTo, Move.turns, Bool.false_eq_true, if_false]
    split
    · next last gesture =>
      rw [gesture] at leads
      cases leads with
      | panning start => exact .panning start at_
    · exact leads
  | beginPinch first second =>
    simp only [Viewport.apply, beginPinch, Move.turns, if_true]
    split
    · next apart => exact .pinching apart v.scale
    · next close => exact .together close
  | pinchTo first second =>
    simp only [Viewport.apply, pinchTo, Move.turns, Bool.false_eq_true, if_false]
    split <;> exact leads

theorem Leads.applyAll {turn : Option Move} {v : Viewport} (leads : Leads turn v.gesture) (moves : List Move) :
    Leads ((lastTurn? moves).or turn) (v.applyAll moves).gesture := by
  induction moves generalizing turn v with
  | nil => exact leads
  | cons move more ih =>
    rw [lastTurn?_cons_or]
    exact ih (leads.apply move)

theorem leads_applyAll_ofConfig (c : ViewerConfig) (moves : List Move) :
    Leads (lastTurn? moves) ((ofConfig c).applyAll moves).gesture := by
  have leads : Leads ((lastTurn? moves).or none) ((ofConfig c).applyAll moves).gesture := Leads.applyAll .untouched moves
  rwa [Option.or_none] at leads

/-! ## What a gesture comes to -/

theorem isPanning_iff {turn : Option Move} {v : Viewport} (leads : Leads turn v.gesture) :
    v.isPanning = true ↔ ∃ at_, turn = some (.beginPan at_) := by
  unfold isPanning
  generalize v.gesture = gesture at leads
  cases leads <;> simp

theorem isPinching_iff {turn : Option Move} {v : Viewport} (leads : Leads turn v.gesture) :
    v.isPinching = true ↔ ∃ first second, turn = some (.beginPinch first second) ∧ 0 < first.distance second := by
  unfold isPinching
  generalize v.gesture = gesture at leads
  cases leads with
  | @pinching first second apart => exact ⟨fun _ => ⟨first, second, rfl, apart⟩, fun _ => rfl⟩
  | together close =>
    constructor
    · nofun
    · rintro ⟨_, _, ⟨⟩, apart⟩
      exact absurd apart close
  | _ => simp

theorem distance_pos {turn : Option Move} {distance scale : Float32} (leads : Leads turn (.pinching distance scale)) :
    0 < distance := by
  cases leads with
  | pinching apart => exact apart

theorem panTo_eq_self {v : Viewport} (still : v.isPanning ≠ true) (at_ : Point) : v.panTo at_ = v := by
  unfold panTo
  split
  · next last gesture => exact absurd (by simp [isPanning, gesture]) still
  · rfl

theorem pinchTo_eq_self {v : Viewport} (still : v.isPinching ≠ true) (first second : Point) :
    v.pinchTo first second = v := by
  unfold pinchTo
  split
  · next distance scale gesture => exact absurd (by simp [isPinching, gesture]) still
  · rfl

/-! ## What a move leaves alone -/

/-- The move is one of a single pointer that moves the picture. -/
def Move.pans : Move → Bool
  | .beginPan _ | .panTo _ => true
  | _ => false

/-- The move zooms or is one of two pointers that scale the picture. -/
def Move.scales : Move → Bool
  | .zoomIn | .zoomOut | .beginPinch _ _ | .pinchTo _ _ => true
  | _ => false

theorem scale_apply (v : Viewport) {move : Move} (pans : move.pans = true) : (v.apply move).scale = v.scale := by
  cases move with
  | beginPan at_ => rfl
  | panTo at_ =>
    simp only [apply, panTo]
    split <;> rfl
  | _ => cases pans

theorem offset_apply (v : Viewport) {move : Move} (scales : move.scales = true) : (v.apply move).offset = v.offset := by
  cases move with
  | zoomIn => rfl
  | zoomOut => rfl
  | beginPinch first second => rfl
  | pinchTo first second =>
    simp only [apply, pinchTo]
    split <;> rfl
  | _ => cases scales

/-- What each move of a row leaves alone the row leaves alone. -/
theorem applyAll_keeps {α : Type} {field : Viewport → α} {moves : List Move}
    (keeps : ∀ v, ∀ move ∈ moves, field (v.apply move) = field v) (v : Viewport) :
    field (v.applyAll moves) = field v := by
  induction moves generalizing v with
  | nil => rfl
  | cons move more ih =>
    have rest : field (v.applyAll (move :: more)) = field (v.apply move) :=
      ih (fun v later member => keeps v later (.tail _ member)) (v.apply move)
    exact rest.trans (keeps v move (.head _))

/-! ## Any row of moves -/

/-- The viewport is as a row of moves should leave it, whatever points and whatever step came into them. -/
structure IsLedBy (c : ViewerConfig) (moves : List Move) (v : Viewport) : Prop where
  number : Single.isNaN v.scale = false
  between : c.minZoom ≤ v.scale ∧ v.scale ≤ c.maxZoom
  /-- There is a distance to divide by. -/
  divisor : ∀ distance scale, v.gesture = .pinching distance scale → 0 < distance ∧ (distance == 0) = false
  isPanning : v.isPanning = true ↔ ∃ at_, lastTurn? moves = some (.beginPan at_)
  isPinching : v.isPinching = true ↔
    ∃ first second, lastTurn? moves = some (.beginPinch first second) ∧ 0 < first.distance second
  panTo : (∃ at_, lastTurn? moves = some (.beginPan at_)) ∨ ∀ at_, v.panTo at_ = v
  pinchTo : (∃ first second, lastTurn? moves = some (.beginPinch first second) ∧ 0 < first.distance second ∧
    (first == second) = false) ∨ ∀ first second, v.pinchTo first second = v
  scale : ∀ more, (∀ move ∈ more, move.pans = true) → (v.applyAll more).scale = v.scale
  offset : ∀ more, (∀ move ∈ more, move.scales = true) → (v.applyAll more).offset = v.offset

/-- With bounds in order, and with any step, whatever is done to a viewport leaves a scale that is a number between the
    bounds and, while pointers scale the picture, a distance above zero to divide by. `panTo` changes nothing unless the
    last turn put one pointer down, and `pinchTo` nothing unless it put down two that are apart; panning never changes
    the scale, and zooming and pinching never change the offset. -/
theorem isLedBy_moves {c : ViewerConfig} (ordered : c.minZoom ≤ c.maxZoom) (moves : List Move) :
    IsLedBy c moves ((ofConfig c).applyAll moves) := by
  have leads : Leads (lastTurn? moves) ((ofConfig c).applyAll moves).gesture := leads_applyAll_ofConfig c moves
  have isOf : IsOf c ((ofConfig c).applyAll moves) := applyAll_isOf (isOf_ofConfig c) moves
  have inBounds : ((ofConfig c).applyAll moves).InBounds :=
    applyAll_inBounds (isOf_ofConfig c) ordered (ofConfig_inBounds ordered) moves
  rw [InBounds, isOf.minZoom, isOf.maxZoom] at inBounds
  refine ⟨(Single.isNaN_of_le inBounds.1).2, inBounds, ?_, isPanning_iff leads, isPinching_iff leads, ?_, ?_,
    fun more pan => ?_, fun more scale => ?_⟩
  · intro distance scale gesture
    rw [gesture] at leads
    have positive : 0 < distance := distance_pos leads
    exact ⟨positive, Single.beq_eq_false_of_lt positive⟩
  · by_cases panning : ((ofConfig c).applyAll moves).isPanning = true
    · exact .inl ((isPanning_iff leads).mp panning)
    · exact .inr (panTo_eq_self panning)
  · by_cases pinching : ((ofConfig c).applyAll moves).isPinching = true
    · obtain ⟨first, second, turn, apart⟩ := (isPinching_iff leads).mp pinching
      exact .inl ⟨first, second, turn, apart, Bool.eq_false_iff.mpr fun same => Point.not_pos_distance same apart⟩
    · exact .inr (pinchTo_eq_self pinching)
  · exact applyAll_keeps (fun v move member => scale_apply v (pan move member)) _
  · exact applyAll_keeps (fun v move member => offset_apply v (scale move member)) _

/-- A step that is not a number, and pointers infinitely far apart. -/
def wild : ViewerConfig := { zoomStep := 0 / 0 }

/-- The picture is moved, and then scaled by pointers that end up infinitely far apart. -/
def wildMoves : List Move :=
  [.zoomIn, .beginPan .origin, .panTo ⟨3, 4⟩, .beginPinch .origin ⟨3, 4⟩, .pinchTo .origin ⟨1 / 0, 0⟩]

theorem isLedBy_wildMoves :
    wild.minZoom ≤ wild.maxZoom ∧ Single.isNaN wild.zoomStep = true ∧
    IsLedBy wild wildMoves ((ofConfig wild).applyAll wildMoves) ∧
    ((ofConfig wild).applyAll wildMoves).isPinching = true ∧
    (((ofConfig wild).applyAll wildMoves).scale == 4) = true ∧ (((ofConfig wild).applyAll wildMoves).offset == ⟨3, 4⟩) = true := by
  have ordered : wild.minZoom ≤ wild.maxZoom := by decide +kernel
  have led : IsLedBy wild wildMoves ((ofConfig wild).applyAll wildMoves) := isLedBy_moves ordered wildMoves
  exact ⟨ordered, by decide +kernel, led, by decide +kernel, by decide +kernel, by decide +kernel⟩

end Viewport

end DiagramStudio
