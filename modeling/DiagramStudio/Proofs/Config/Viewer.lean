import DiagramStudio.Command.Run
import DiagramStudio.Proofs.Preview.Bounds

/-!
The viewer of a configuration that is used. A configuration is turned down where a bound or the step compares
as out of order. Of numbers that is all there is to it (`ViewerConfig.inOrder_iff`), and the scale of every
viewport then keeps between the bounds; what is not a number compares as nothing, and is let through.
-/

namespace DiagramStudio

open Number Single

namespace ViewerConfig

/-- The bounds are positive and in order, and the step is positive. -/
structure InOrder (c : ViewerConfig) : Prop where
  positive : 0 < c.minZoom
  ordered : c.minZoom ≤ c.maxZoom
  stepping : 0 < c.zoomStep

/-- All three are numbers. -/
structure IsNumeric (c : ViewerConfig) : Prop where
  minZoom : isNaN c.minZoom = false
  maxZoom : isNaN c.maxZoom = false
  zoomStep : isNaN c.zoomStep = false

/-- However a viewport is moved, its scale stays between the bounds. -/
def Keeps (c : ViewerConfig) : Prop :=
  ∀ moves, let v := (Viewport.ofConfig c).applyAll moves; c.minZoom ≤ v.scale ∧ v.scale ≤ c.maxZoom

theorem validate_eq_ok_iff {c : ViewerConfig} :
    c.validate = .ok () ↔ ¬c.minZoom ≤ 0 ∧ ¬c.maxZoom < c.minZoom ∧ ¬c.zoomStep ≤ 0 := by
  unfold validate
  split
  · simp [*]
  · split
    · simp [*]
    · split <;> simp [*]

theorem isNaN_zero : isNaN 0 = false := by decide +kernel

/-- What passes is in order as far as it is numbers. -/
theorem inOrder_iff {c : ViewerConfig} (passes : c.validate = .ok ()) : c.InOrder ↔ c.IsNumeric := by
  obtain ⟨low, ordered, step⟩ := validate_eq_ok_iff.mp passes
  constructor
  · rintro ⟨positive, inOrder, stepping⟩
    obtain ⟨minimum, maximum⟩ := isNaN_of_le inOrder
    exact ⟨minimum, maximum, (isNaN_of_le (le_of_lt stepping)).2⟩
  · rintro ⟨minimum, maximum, stepNumber⟩
    exact ⟨(lt_or_le isNaN_zero minimum).resolve_right low, (lt_or_le maximum minimum).resolve_left ordered,
      (lt_or_le isNaN_zero stepNumber).resolve_right step⟩

theorem keeps_of_ordered {c : ViewerConfig} (ordered : c.minZoom ≤ c.maxZoom) : c.Keeps := by
  intro moves v
  have isOf : Viewport.IsOf c v := Viewport.applyAll_isOf (Viewport.isOf_ofConfig c) moves
  have inBounds : v.InBounds :=
    Viewport.applyAll_inBounds (Viewport.isOf_ofConfig c) ordered (Viewport.ofConfig_inBounds ordered) moves
  rwa [Viewport.InBounds, isOf.minZoom, isOf.maxZoom] at inBounds

theorem keeps_iff {c : ViewerConfig} (passes : c.validate = .ok ()) :
    c.Keeps ↔ isNaN c.minZoom = false ∧ isNaN c.maxZoom = false := by
  constructor
  · intro keeps
    obtain ⟨above, below⟩ := keeps []
    exact ⟨(isNaN_of_le above).1, (isNaN_of_le below).2⟩
  · rintro ⟨minimum, maximum⟩
    obtain ⟨_, ordered, _⟩ := validate_eq_ok_iff.mp passes
    exact keeps_of_ordered ((lt_or_le maximum minimum).resolve_left ordered)

/-- Numbers that are not in order are turned down. -/
theorem validate_fails {c : ViewerConfig} (numbers : c.IsNumeric) (disorder : ¬c.InOrder) :
    ∃ fault, c.validate = .error fault := by
  rcases passes : c.validate with fault | _
  · exact ⟨fault, rfl⟩
  · exact absurd ((inOrder_iff passes).mpr numbers) disorder

end ViewerConfig

theorem Config.viewer_of_ofDocument {text : List Char} {c : Config} (accepted : ofDocument text = .ok c) :
    c.viewer.validate = .ok () := by
  unfold ofDocument at accepted
  split at accepted
  · cases accepted
  · next config _ =>
    split at accepted
    · cases accepted
    · next sound =>
      cases accepted
      unfold fault? at sound
      split at sound
      · cases sound
      · next passes => exact passes

/-- The viewer is looked at before anything else is. -/
theorem Config.ofDocument_of_viewer {text : List Char} {c : Config} {fault : ViewerFault}
    (spelled : ofToml? text = some c) (fails : c.viewer.validate = .error fault) :
    ofDocument text = .error (.viewer fault) := by
  simp only [ofDocument, spelled, fault?, fails]

/-- A configuration that is loaded is the default one or has been accepted. -/
theorem Command.accepted_of_loadConfig {s : Surroundings} {asked : Option String} {c : Config}
    (loaded : loadConfig s asked = .ok c) : c = {} ∨ ∃ text, Config.ofDocument text = .ok c := by
  have file {path : List Char} (loaded : loadFrom s.disk path = .ok c) : ∃ text, Config.ofDocument text = .ok c := by
    unfold loadFrom at loaded
    split at loaded
    · split at loaded
      · cases loaded
      · next text _ =>
        refine ⟨text, ?_⟩
        rcases read : Config.ofDocument text with fault | config
        · rw [read] at loaded
          cases loaded
        · rw [read] at loaded
          cases loaded
          rfl
    · cases loaded
  unfold loadConfig at loaded
  split at loaded
  · exact .inr (file loaded)
  · split at loaded
    · exact .inr (file loaded)
    · split at loaded
      · exact .inr (file loaded)
      · exact .inl (Except.ok.inj loaded).symm

namespace Config

theorem viewer_of_loadConfig {s : Command.Surroundings} {asked : Option String} {c : Config}
    (loaded : Command.loadConfig s asked = .ok c) : c.viewer.validate = .ok () := by
  rcases Command.accepted_of_loadConfig loaded with rfl | ⟨text, accepted⟩
  · exact ViewerConfig.validate_eq_ok_iff.mpr (by decide +kernel)
  · exact viewer_of_ofDocument accepted

/-- The viewer of a document that is accepted, and of whatever configuration a program loads, has its bounds
    positive and in order and its step positive if and only if all three are numbers; and every viewport keeps
    its scale between the bounds, however it is moved, if and only if both bounds are numbers. A document of
    numbers that are in no such order is turned down for its viewer. -/
theorem viewer_in_order (text : List Char) (s : Command.Surroundings) (asked : Option String) (c : Config) :
    (ofDocument text = .ok c ∨ Command.loadConfig s asked = .ok c →
      (c.viewer.InOrder ↔ c.viewer.IsNumeric) ∧
      (c.viewer.Keeps ↔ isNaN c.viewer.minZoom = false ∧ isNaN c.viewer.maxZoom = false)) ∧
    (ofToml? text = some c → c.viewer.IsNumeric → ¬c.viewer.InOrder →
      ∃ fault, c.viewer.validate = .error fault ∧ ofDocument text = .error (.viewer fault)) := by
  constructor
  · intro given
    have passes : c.viewer.validate = .ok () := by
      rcases given with accepted | loaded
      · exact viewer_of_ofDocument accepted
      · exact viewer_of_loadConfig loaded
    exact ⟨ViewerConfig.inOrder_iff passes, ViewerConfig.keeps_iff passes⟩
  · intro spelled numbers disorder
    obtain ⟨fault, fails⟩ := ViewerConfig.validate_fails numbers disorder
    exact ⟨fault, fails, ofDocument_of_viewer spelled fails⟩

theorem exists_of_toOption {ε α : Type} (given : Except ε α) (P : α → Bool)
    (holds : given.toOption.map P = some true) : ∃ a, given = .ok a ∧ P a = true := by
  rcases given with fault | a
  · cases holds
  · exact ⟨a, rfl, Option.some.inj holds⟩

/-- A place without configuration files. -/
def bare : Command.Surroundings := ⟨.empty, "", ⟨2024, 1, 1, 0, 0, 0⟩, fun _ disk => (.error (.start .notFound), disk)⟩

/-- A document with bounds of its own, the defaults, and one whose upper bound is below all numbers but one. -/
theorem viewer_in_order_infinite :
    (∃ c, ofDocument "[viewer]\nmin_zoom = 2\nmax_zoom = inf\n".toList = .ok c ∧ c.viewer.InOrder ∧ c.viewer.Keeps) ∧
    (∃ c, Command.loadConfig bare none = .ok c ∧ c.viewer.InOrder ∧ c.viewer.Keeps) ∧
    ∃ c fault, ofToml? "[viewer]\nmax_zoom = -inf\n".toList = some c ∧ c.viewer.IsNumeric ∧ ¬c.viewer.InOrder ∧
      ofDocument "[viewer]\nmax_zoom = -inf\n".toList = .error (.viewer fault) := by
  refine ⟨?_, ?_, ?_⟩
  · obtain ⟨c, read, numbers⟩ := exists_of_toOption
      (ofDocument "[viewer]\nmin_zoom = 2\nmax_zoom = inf\n".toList)
      (fun c => !isNaN c.viewer.minZoom && !isNaN c.viewer.maxZoom && !isNaN c.viewer.zoomStep) (by decide +kernel)
    simp only [Bool.and_eq_true, Bool.not_eq_true'] at numbers
    obtain ⟨⟨minimum, maximum⟩, step⟩ := numbers
    obtain ⟨inOrder, keeps⟩ := (viewer_in_order _ bare none c).1 (.inl read)
    exact ⟨c, read, inOrder.mpr ⟨minimum, maximum, step⟩, keeps.mpr ⟨minimum, maximum⟩⟩
  · have read : Command.loadConfig bare none = .ok {} := by
      rw [Command.loadConfig, if_neg (by decide +kernel), if_neg (by decide +kernel)]
    obtain ⟨inOrder, keeps⟩ := (viewer_in_order [] bare none {}).1 (.inr read)
    exact ⟨{}, read, inOrder.mpr ⟨by decide +kernel, by decide +kernel, by decide +kernel⟩,
      keeps.mpr ⟨by decide +kernel, by decide +kernel⟩⟩
  · obtain ⟨c, spelled, disordered⟩ := Option.map_eq_some_iff.mp (show (ofToml? "[viewer]\nmax_zoom = -inf\n".toList).map
      (fun c => !isNaN c.viewer.minZoom && !isNaN c.viewer.maxZoom && !isNaN c.viewer.zoomStep &&
        !decide (c.viewer.minZoom ≤ c.viewer.maxZoom)) = some true by decide +kernel)
    simp only [Bool.and_eq_true, Bool.not_eq_true', decide_eq_false_iff_not] at disordered
    obtain ⟨⟨⟨minimum, maximum⟩, step⟩, disorder⟩ := disordered
    have numbers : c.viewer.IsNumeric := ⟨minimum, maximum, step⟩
    have outOfOrder : ¬c.viewer.InOrder := fun inOrder => disorder inOrder.ordered
    obtain ⟨fault, _, refused⟩ := (viewer_in_order _ bare none c).2 spelled numbers outOfOrder
    exact ⟨c, fault, spelled, numbers, outOfOrder, refused⟩

/-- A lower bound that is not a number is let through, and the scale of a viewport is not above it. -/
theorem not_in_order_of_nan :
    ¬ ∀ text c, ofDocument text = .ok c → c.viewer.InOrder ∧ c.viewer.Keeps := by
  intro all
  obtain ⟨c, accepted, nan⟩ := exists_of_toOption (ofDocument "[viewer]\nmin_zoom = nan\n".toList)
    (fun c => isNaN c.viewer.minZoom) (by decide +kernel)
  obtain ⟨inOrder, _⟩ := all _ c accepted
  have number : isNaN c.viewer.minZoom = false := (isNaN_of_le inOrder.ordered).1
  rw [number] at nan
  cases nan

end Config

end DiagramStudio
