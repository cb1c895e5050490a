import DiagramStudio.Preview.Renderer

/-!
Only the newest request counts. A run of a renderer makes requests, hands back outcomes of any that were
made before, as late and as often as one likes, renders at once, clears and moves the viewport. What has
happened is kept as a row of events, and the latest event alone says how the renderer stands (`Stands`):
it waits for a request just as long as nothing else has happened since this was made. The viewport is
what it was at first whenever no picture is shown.
-/

namespace DiagramStudio

/-! ## The viewport -/

namespace Viewport

/-- The bounds and the step are those of the configuration; no move changes them. -/
structure IsOf (config : ViewerConfig) (v : Viewport) : Prop where
  minZoom : v.minZoom = config.minZoom
  maxZoom : v.maxZoom = config.maxZoom
  zoomStep : v.zoomStep = config.zoomStep

theorem isOf_ofConfig (config : ViewerConfig) : IsOf config (ofConfig config) := ⟨rfl, rfl, rfl⟩

theorem IsOf.apply {config : ViewerConfig} {v : Viewport} (isOf : IsOf config v) (move : Move) :
    IsOf config (v.apply move) := by
  obtain ⟨minZoom, maxZoom, zoomStep⟩ := isOf
  cases move with
  | panTo at_ =>
    simp only [Viewport.apply, panTo]
    split <;> exact ⟨minZoom, maxZoom, zoomStep⟩
  | pinchTo first second =>
    simp only [Viewport.apply, pinchTo]
    split <;> exact ⟨minZoom, maxZoom, zoomStep⟩
  | _ => exact ⟨minZoom, maxZoom, zoomStep⟩

/-- However a viewport was moved, it is reset to what it was at first. -/
theorem IsOf.reset_eq {config : ViewerConfig} {v : Viewport} (isOf : IsOf config v) :
    v.reset = ofConfig config := by
  obtain ⟨minZoom, maxZoom, zoomStep⟩ := isOf
  simp [ofConfig, reset, clamp, minZoom, maxZoom, zoomStep]

end Viewport

/-! ## Numbers and identifiers -/

/-- Requests with different numbers have different identifiers. -/
theorem RenderRequest.number_eq_of_id_eq {r s : RenderRequest} (same : r.id = s.id) : r.number = s.number := by
  have digits : Nat.toDigits 10 r.number = Nat.toDigits 10 s.number :=
    String.ofList_injective ((String.append_right_inj idStem).mp same)
  rw [← Nat.ofDigitChars_ten_toDigits (n := r.number), digits, Nat.ofDigitChars_ten_toDigits]

namespace Renderer

theorem markup?_eq_some_iff {r : Renderer} {markup : String} :
    r.markup? = some markup ↔ r.result = some (.success markup) := by
  unfold markup?
  split <;> simp_all

theorem error?_eq_some_iff {r : Renderer} {message : String} :
    r.error? = some message ↔ r.result = some (.failure message) := by
  unfold error?
  split <;> simp_all

/-- An outcome counts if its request is the one that is waited for. -/
theorem resolve_eq_true_iff {r : Renderer} {request : RenderRequest} {outcome : Outcome} :
    (r.resolve request outcome).1 = true ↔ r.pending = some request.number := by
  unfold resolve
  split <;> simp_all

theorem resolve_eq_self {r : Renderer} {request : RenderRequest} {outcome : Outcome}
    (stale : (r.resolve request outcome).1 = false) : (r.resolve request outcome).2 = r := by
  unfold resolve at stale ⊢
  split
  · next pending => simp [pending] at stale
  · rfl

/-! ## Runs -/

/-- What can be done to a renderer. An outcome is one of a request that has been made, told by its place
    among these, the newest first. An engine is a function, and another one each time, so that any outcome
    can come of it at any time. -/
inductive Step where
  | request (source : String)
  | resolve (place : Nat) (outcome : Outcome)
  | renderWith (engine : Engine Id) (source : String)
  | clear
  | move (move : Viewport.Move)

/-- What has happened to a renderer, as far as it changed the result. -/
inductive Event where
  | made (request : RenderRequest)
  /-- An outcome was handed back, and it counted. -/
  | applied (request : RenderRequest) (outcome : Outcome)
  | cleared

namespace Event

def made? : Event → Option RenderRequest
  | made request => some request
  | _ => none

def applied? : Event → Option RenderRequest
  | applied request _ => some request
  | _ => none

end Event

/-- A renderer with what has happened to it. -/
structure Trace where
  renderer : Renderer
  /-- What has happened, the latest first. -/
  events : List Event

namespace Trace

/-- A run that has not begun. -/
def ofConfig (config : ViewerConfig) : Trace := ⟨.ofConfig config, []⟩

/-- The requests that were made, the newest first. -/
def issued (t : Trace) : List RenderRequest := t.events.filterMap Event.made?

/-- The requests of which an outcome counted, the latest first, each as often as one did. -/
def applied (t : Trace) : List RenderRequest := t.events.filterMap Event.applied?

def make (t : Trace) (source : String) : Trace :=
  ⟨(t.renderer.request source).2, .made (t.renderer.request source).1 :: t.events⟩

def deliver (t : Trace) (request : RenderRequest) (outcome : Outcome) : Trace :=
  match t.renderer.resolve request outcome with
  | (true, renderer) => ⟨renderer, .applied request outcome :: t.events⟩
  | (false, renderer) => ⟨renderer, t.events⟩

def render (t : Trace) (engine : Engine Id) (source : String) : Trace :=
  let request := (t.renderer.request source).1
  match t.renderer.renderWith engine source with
  | (true, renderer) => ⟨renderer, .applied request (request.perform engine) :: .made request :: t.events⟩
  | (false, renderer) => ⟨renderer, .made request :: t.events⟩

def step (t : Trace) : Step → Trace
  | .request source => t.make source
  | .resolve place outcome =>
    match t.issued[place]? with
    | some request => t.deliver request outcome
    | none => t
  | .renderWith engine source => t.render engine source
  | .clear => ⟨t.renderer.clear, .cleared :: t.events⟩
  | .move move => ⟨(t.renderer.move? move).getD t.renderer, t.events⟩

def run (t : Trace) (steps : List Step) : Trace :=
  steps.foldl step t

/-- Rendering at once is a request and its outcome, with nothing in between. -/
theorem render_eq (t : Trace) (engine : Engine Id) (source : String) :
    t.render engine source =
      (t.make source).deliver (t.renderer.request source).1 ((t.renderer.request source).1.perform engine) := rfl

/-! ## What every step keeps -/

/-- Rows of events in which an outcome counted only directly after its request was made. -/
inductive Orderly : List Event → Prop where
  | begin_ : Orderly []
  | made {events : List Event} (request : RenderRequest) (before : Orderly events) :
      Orderly (.made request :: events)
  | applied {events : List Event} (request : RenderRequest) (outcome : Outcome) (before : Orderly events) :
      Orderly (.applied request outcome :: .made request :: events)
  | cleared {events : List Event} (before : Orderly events) : Orderly (.cleared :: events)

/-- How a renderer stands, by the latest event. -/
inductive Stands (config : ViewerConfig) (t : Trace) : Prop where
  /-- Nothing has been asked for since the beginning, or since the renderer was cleared. -/
  | idle (latest : ∀ request, t.events.head? ≠ some (.made request)) (pending : t.renderer.pending = none)
      (result : t.renderer.result = none) (viewport : t.renderer.viewport = .ofConfig config)
  | waiting (newest : RenderRequest) (before : List Event) (events : t.events = .made newest :: before)
      (pending : t.renderer.pending = some newest.number) (result : t.renderer.result = some .loading)
      (viewport : t.renderer.viewport = .ofConfig config)
  | answered (newest : RenderRequest) (outcome : Outcome) (before : List Event)
      (events : t.events = .applied newest outcome :: .made newest :: before)
      (pending : t.renderer.pending = none) (result : t.renderer.result = some (.ofOutcome outcome))
      (viewport : (∀ markup, outcome ≠ .ok markup) → t.renderer.viewport = .ofConfig config)

/-- What every step of a run keeps. -/
structure InStep (config : ViewerConfig) (t : Trace) : Prop where
  descending : t.issued.Pairwise fun newer older => older.number < newer.number
  counted : ∀ request ∈ t.issued, request.number ≤ t.renderer.issued
  isOf : t.renderer.viewport.IsOf config
  orderly : Orderly t.events
  stands : Stands config t

/-- No request counts more often than it was made. -/
theorem Orderly.applied_sublist {events : List Event} (orderly : Orderly events) :
    (events.filterMap Event.applied?).Sublist (events.filterMap Event.made?) := by
  induction orderly with
  | begin_ => exact List.Sublist.refl []
  | made request before ih => exact ih.cons request
  | applied request outcome before ih => exact ih.cons_cons request
  | cleared before ih => exact ih

theorem issued_eq {t : Trace} {newest : RenderRequest} {before : List Event}
    (events : t.events = .made newest :: before) : t.issued = newest :: before.filterMap Event.made? := by
  rw [issued, events]
  rfl

theorem issued_eq_of_applied {t : Trace} {newest : RenderRequest} {outcome : Outcome} {before : List Event}
    (events : t.events = .applied newest outcome :: .made newest :: before) :
    t.issued = newest :: before.filterMap Event.made? := by
  rw [issued, events]
  rfl

/-- A renderer waits for a request as long as nothing has happened since it was made. -/
theorem InStep.pending_iff {config : ViewerConfig} {t : Trace} (inStep : InStep config t)
    {request : RenderRequest} (member : request ∈ t.issued) :
    t.renderer.pending = some request.number ↔ t.events.head? = some (.made request) := by
  cases inStep.stands with
  | idle latest pending => simp [pending, latest request]
  | answered newest outcome before events pending => simp [pending, events]
  | waiting newest before events pending =>
    have descending := inStep.descending
    rw [issued_eq events] at member descending
    rw [pending, events]
    constructor
    · intro same
      rcases List.mem_cons.mp member with rfl | older
      · rfl
      · have smaller := (List.pairwise_cons.mp descending).1 request older
        have equal := Option.some.inj same
        omega
    · intro latest
      cases latest
      rfl

/-! ## One step -/

theorem ofConfig_inStep (config : ViewerConfig) : InStep config (ofConfig config) :=
  ⟨.nil, nofun, Viewport.isOf_ofConfig config, .begin_, .idle nofun rfl rfl rfl⟩

theorem make_inStep {config : ViewerConfig} {t : Trace} (inStep : InStep config t) (source : String) :
    InStep config (t.make source) := by
  obtain ⟨descending, counted, isOf, orderly, _⟩ := inStep
  have fresh : (t.make source).renderer.viewport = .ofConfig config := isOf.reset_eq
  refine ⟨List.pairwise_cons.mpr ⟨fun request older => Nat.lt_succ_of_le (counted request older), descending⟩,
    ?_, ?_, .made _ orderly, .waiting _ t.events rfl rfl rfl fresh⟩
  · intro request member
    rcases List.mem_cons.mp member with rfl | older
    · exact Nat.le_refl _
    · exact Nat.le_succ_of_le (counted request older)
  · rw [fresh]
    exact Viewport.isOf_ofConfig config

/-- An outcome that is not waited for changes nothing. -/
theorem deliver_stale {t : Trace} {request : RenderRequest} (stale : t.renderer.pending ≠ some request.number)
    (outcome : Outcome) : t.deliver request outcome = t := by
  simp [deliver, resolve, stale]

theorem deliver_pending {t : Trace} {request : RenderRequest}
    (pending : t.renderer.pending = some request.number) (outcome : Outcome) :
    t.deliver request outcome =
      ⟨{ t.renderer with pending := none, result := some (.ofOutcome outcome) },
        .applied request outcome :: t.events⟩ := by
  simp [deliver, resolve, pending]

theorem deliver_inStep {config : ViewerConfig} {t : Trace} (inStep : InStep config t) {request : RenderRequest}
    (member : request ∈ t.issued) (outcome : Outcome) : InStep config (t.deliver request outcome) := by
  by_cases pending : t.renderer.pending = some request.number
  · have latest := (inStep.pending_iff member).mp pending
    obtain ⟨descending, counted, isOf, orderly, stands⟩ := inStep
    rw [deliver_pending pending]
    cases stands with
    | idle other => exact absurd latest (other request)
    | answered newest first before events =>
      rw [events] at latest
      cases latest
    | waiting newest before events _ _ viewport =>
      rw [events] at latest
      cases latest
      rw [events] at orderly ⊢
      cases orderly with
      | made _ orderly =>
        rw [issued_eq events] at descending counted
        exact ⟨descending, counted, isOf, .applied _ outcome orderly,
          .answered _ outcome before rfl rfl rfl fun _ => viewport⟩
  · rw [deliver_stale pending]
    exact inStep

theorem clear_inStep {config : ViewerConfig} {t : Trace} (inStep : InStep config t) :
    InStep config ⟨t.renderer.clear, .cleared :: t.events⟩ := by
  obtain ⟨descending, counted, isOf, orderly, _⟩ := inStep
  have fresh : t.renderer.clear.viewport = .ofConfig config := isOf.reset_eq
  refine ⟨descending, counted, ?_, .cleared orderly, .idle nofun rfl rfl fresh⟩
  rw [fresh]
  exact Viewport.isOf_ofConfig config

/-- The viewport is moved only behind an outcome that counted and that is a picture. -/
theorem move_inStep {config : ViewerConfig} {t : Trace} (inStep : InStep config t) (move : Viewport.Move) :
    InStep config ⟨(t.renderer.move? move).getD t.renderer, t.events⟩ := by
  unfold move?
  split
  · next shown =>
    obtain ⟨descending, counted, isOf, orderly, stands⟩ := inStep
    refine ⟨descending, counted, isOf.apply move, orderly, ?_⟩
    cases stands with
    | idle _ _ result => simp [markup?, result] at shown
    | waiting _ _ _ _ result => simp [markup?, result] at shown
    | answered newest outcome before events pending result =>
      refine .answered newest outcome before events pending result ?_
      intro failed
      cases outcome with
      | ok markup => exact absurd rfl (failed markup)
      | error fault => simp [markup?, result, RenderResult.ofOutcome] at shown
  · exact inStep

theorem step_inStep {config : ViewerConfig} {t : Trace} (inStep : InStep config t) (s : Step) :
    InStep config (t.step s) := by
  cases s with
  | request source => exact make_inStep inStep source
  | resolve place outcome =>
    simp only [step]
    split
    · next request found => exact deliver_inStep inStep (List.mem_of_getElem? found) outcome
    · exact inStep
  | renderWith engine source =>
    have made := make_inStep inStep source
    rw [step, render_eq]
    exact deliver_inStep made List.mem_cons_self _
  | clear => exact clear_inStep inStep
  | move move => exact move_inStep inStep move

theorem run_inStep {config : ViewerConfig} {t : Trace} (inStep : InStep config t) (steps : List Step) :
    InStep config (t.run steps) := by
  induction steps generalizing t with
  | nil => exact inStep
  | cons s more ih => exact ih (step_inStep inStep s)

/-! ## What is shown -/

theorem Stands.pending_isSome {config : ViewerConfig} {t : Trace} (stands : Stands config t) :
    t.renderer.pending.isSome ↔ t.renderer.result = some .loading := by
  cases stands with
  | idle _ pending result => simp [pending, result]
  | waiting _ _ _ pending result => simp [pending, result]
  | answered _ outcome _ _ pending result =>
    cases outcome <;> simp [pending, result, RenderResult.ofOutcome]

theorem Stands.newest_of_pending {config : ViewerConfig} {t : Trace} (stands : Stands config t) {number : Nat}
    (pending : t.renderer.pending = some number) :
    ∃ newest, t.issued.head? = some newest ∧ newest.number = number := by
  cases stands with
  | idle _ none_ => simp [none_] at pending
  | answered _ _ _ _ none_ => simp [none_] at pending
  | waiting newest before events number =>
    rw [number] at pending
    exact ⟨newest, by rw [issued_eq events]; rfl, Option.some.inj pending⟩

/-- What is shown in place of loading came of the newest request. -/
theorem Stands.newest_of_result {config : ViewerConfig} {t : Trace} (stands : Stands config t)
    {result : RenderResult} (shown : t.renderer.result = some result) (finished : result ≠ .loading) :
    ∃ newest outcome, t.issued.head? = some newest ∧ .applied newest outcome ∈ t.events ∧
      result = .ofOutcome outcome := by
  cases stands with
  | idle _ _ nothing => simp [nothing] at shown
  | waiting _ _ _ _ loading =>
    rw [loading] at shown
    exact absurd (Option.some.inj shown).symm finished
  | answered newest outcome before events _ same =>
    rw [same] at shown
    refine ⟨newest, outcome, by rw [issued_eq_of_applied events]; rfl, ?_, (Option.some.inj shown).symm⟩
    rw [events]
    exact List.mem_cons_self

theorem Stands.viewport_eq {config : ViewerConfig} {t : Trace} (stands : Stands config t)
    (nothing : t.renderer.markup? = none) : t.renderer.viewport = .ofConfig config := by
  cases stands with
  | idle _ _ _ viewport => exact viewport
  | waiting _ _ _ _ _ viewport => exact viewport
  | answered _ _ _ _ _ result viewport =>
    refine viewport ?_
    rintro markup rfl
    simp [markup?, result, RenderResult.ofOutcome] at nothing

/-- After any run: requests are told apart by numbers that grow and by their identifiers; an outcome counts
    exactly if nothing has happened since its request was made, no other request and no clearing, so that of
    each request one counts at most, and one that does not count changes nothing; the renderer waits exactly
    while it is loading, and for the newest request; a picture or a message came of the newest request; and
    where no picture is shown the viewport is what it was at first and cannot be moved. -/
theorem newest_counts (config : ViewerConfig) (steps : List Step) :
    let t := (ofConfig config).run steps
    let r := t.renderer
    t.issued.Pairwise (fun newer older => older.number < newer.number ∧ older.id ≠ newer.id) ∧
    (∀ request ∈ t.issued, ∀ outcome,
      (r.resolve request outcome).1 = true ↔ t.events.head? = some (.made request)) ∧
    (∀ request outcome, (r.resolve request outcome).1 = false → (r.resolve request outcome).2 = r) ∧
    t.applied.Nodup ∧
    (r.pending.isSome ↔ r.result = some .loading) ∧
    (∀ number, r.pending = some number → ∃ newest, t.issued.head? = some newest ∧ newest.number = number) ∧
    (∀ markup, r.markup? = some markup →
      ∃ newest, t.issued.head? = some newest ∧ .applied newest (.ok markup) ∈ t.events) ∧
    (∀ message, r.error? = some message →
      ∃ newest fault, t.issued.head? = some newest ∧ .applied newest (.error fault) ∈ t.events ∧
        fault.message = message) ∧
    (r.markup? = none → r.viewport = .ofConfig config ∧ ∀ move, r.move? move = none) := by
  intro t r
  have inStep : InStep config t := run_inStep (ofConfig_inStep config) steps
  have stands := inStep.stands
  have apart : t.issued.Pairwise fun newer older => older.number < newer.number ∧ older.id ≠ newer.id :=
    inStep.descending.imp fun smaller =>
      ⟨smaller, fun same => Nat.ne_of_lt smaller (RenderRequest.number_eq_of_id_eq same)⟩
  have distinct : t.issued.Nodup := inStep.descending.imp fun smaller same => by
    rw [same] at smaller
    exact Nat.lt_irrefl _ smaller
  refine ⟨apart, fun request member outcome => resolve_eq_true_iff.trans (inStep.pending_iff member),
    fun request outcome => resolve_eq_self, distinct.sublist inStep.orderly.applied_sublist,
    stands.pending_isSome, fun number => stands.newest_of_pending, ?_, ?_, ?_⟩
  · intro markup shown
    obtain ⟨newest, outcome, first, counted, same⟩ :=
      stands.newest_of_result (markup?_eq_some_iff.mp shown) nofun
    cases outcome with
    | ok drawn =>
      cases same
      exact ⟨newest, first, counted⟩
    | error fault => cases same
  · intro message shown
    obtain ⟨newest, outcome, first, counted, same⟩ :=
      stands.newest_of_result (error?_eq_some_iff.mp shown) nofun
    cases outcome with
    | ok drawn => cases same
    | error fault =>
      cases same
      exact ⟨newest, fault, first, counted, rfl⟩
  · intro nothing
    exact ⟨stands.viewport_eq nothing, fun move => by simp [move?, nothing]⟩

end Trace

end Renderer

end DiagramStudio
