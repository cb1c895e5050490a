import DiagramStudio.Proofs.Workbench.Run

/-!
The picture that is shown is always one of the source: over every run of a workbench, however late and
in whatever order outcomes are handed back, the viewer waits for the newest request or shows what came
of it, and that request was made for the source as it is now.
-/

namespace DiagramStudio.Workbench

variable {σ : Type}

namespace Trace

/-- How the picture stands to the source and to the newest request, in a run of a workbench that was
    opened in the mode `opened`. -/
inductive Picture (opened : ViewMode) (t : Trace σ) : Prop where
  | editing (mode : t.workbench.session.mode = .editor) (pending : t.workbench.renderer.pending = none)
      (result : t.workbench.renderer.result = none)
  /-- The viewer was open from the start, and no picture has been asked for yet. -/
  | untouched (mode : t.workbench.session.mode = .viewer) (first : opened = .viewer) (issued : t.issued = [])
      (pending : t.workbench.renderer.pending = none) (result : t.workbench.renderer.result = none)
  | waiting (newest : RenderRequest) (older : List RenderRequest) (mode : t.workbench.session.mode = .viewer)
      (issued : t.issued = newest :: older) (source : newest.source = t.workbench.session.source)
      (answer : entryFor? newest t.delivered = none)
      (pending : t.workbench.renderer.pending = some newest.number)
      (result : t.workbench.renderer.result = some .loading)
  | answered (newest : RenderRequest) (older : List RenderRequest) (outcome : Outcome)
      (mode : t.workbench.session.mode = .viewer) (issued : t.issued = newest :: older)
      (source : newest.source = t.workbench.session.source)
      (answer : entryFor? newest t.delivered = some outcome) (pending : t.workbench.renderer.pending = none)
      (result : t.workbench.renderer.result = some (.ofOutcome outcome))

/-- What every step of a run keeps. Requests are told apart by their numbers, which grow. -/
structure InStep (opened : ViewMode) (t : Trace σ) : Prop where
  descending : t.issued.Pairwise fun newer older => older.number < newer.number
  counted : ∀ request ∈ t.issued, request.number ≤ t.workbench.renderer.issued
  known : ∀ d ∈ t.delivered, d.1 ∈ t.issued
  picture : Picture opened t

theorem ofWorkbench_inStep [Storage σ] (config : Config) (storage : σ) (location : Location) (time : Nat) :
    let w := open_ config storage location time
    InStep w.session.mode (ofWorkbench w) := by
  refine ⟨.nil, nofun, nofun, ?_⟩
  cases mode : (open_ config storage location time).session.mode with
  | editor => exact .editing mode rfl rfl
  | viewer => exact .untouched mode rfl rfl rfl rfl

/-! ## Operations -/

/-- Where the picture is left alone it stays one of the source. -/
theorem Picture.keep {opened : ViewMode} {t : Trace σ} {w : Workbench σ} (picture : Picture opened t)
    (mode : w.session.mode = t.workbench.session.mode)
    (source : t.workbench.session.mode = .viewer → w.session.source = t.workbench.session.source)
    (pending : w.renderer.pending = t.workbench.renderer.pending)
    (result : w.renderer.result = t.workbench.renderer.result) :
    Picture opened ⟨w, t.issued, t.delivered⟩ := by
  cases picture with
  | editing editor none_ nothing => exact .editing (mode.trans editor) (pending.trans none_) (result.trans nothing)
  | untouched viewer first issued none_ nothing =>
    exact .untouched (mode.trans viewer) first issued (pending.trans none_) (result.trans nothing)
  | waiting newest older viewer issued same answer number loading =>
    exact .waiting newest older (mode.trans viewer) issued (same.trans (source viewer).symm) answer
      (pending.trans number) (result.trans loading)
  | answered newest older outcome viewer issued same answer none_ shown =>
    exact .answered newest older outcome (mode.trans viewer) issued (same.trans (source viewer).symm) answer
      (pending.trans none_) (result.trans shown)

theorem operate_inStep [Storage σ] {opened : ViewMode} {t : Trace σ} (inStep : InStep opened t)
    (op : Operation) : InStep opened (t.step (.operate op)) := by
  obtain ⟨descending, counted, known, picture⟩ := inStep
  have effect := perform_effect t.workbench op
  simp only [step]
  generalize (t.workbench.perform op).1 = request at effect ⊢
  generalize (t.workbench.perform op).2 = w at effect ⊢
  cases effect with
  | quiet mode source _ issued pending result =>
    refine ⟨descending, ?_, known, picture.keep mode source pending result⟩
    intro request member
    rw [issued]
    exact counted request member
  | asked _ mode issued pending result =>
    have fresh : ∀ request ∈ t.issued, request.number < t.workbench.renderer.issued + 1 :=
      fun request member => Nat.lt_succ_of_le (counted request member)
    refine ⟨List.pairwise_cons.mpr ⟨fresh, descending⟩, ?_, ?_, ?_⟩
    · intro request member
      rw [issued]
      rcases List.mem_cons.mp member with rfl | older
      · exact Nat.le_refl _
      · exact Nat.le_of_lt (fresh request older)
    · exact fun d member => List.mem_cons_of_mem _ (known d member)
    · refine .waiting _ t.issued mode rfl rfl ?_ pending result
      -- Nothing that was handed back before can be of a request with a new number.
      apply entryFor?_eq_none
      intro d member same
      have older := fresh d.1 (known d member)
      rw [same] at older
      exact Nat.lt_irrefl _ older
  | left _ mode _ _ issued pending result =>
    refine ⟨descending, ?_, known, .editing mode pending result⟩
    intro request member
    rw [issued]
    exact counted request member

/-! ## Outcomes -/

/-- An outcome that is not waited for changes nothing. -/
theorem resolve_stale {w : Workbench σ} {request : RenderRequest} (outcome : Outcome)
    (stale : w.renderer.pending ≠ some request.number) : (w.resolve request outcome).2 = w := by
  by_cases viewer : w.session.mode = .viewer <;> simp [resolve, Renderer.resolve, viewer, stale]

/-- The outcome that is waited for in the viewer is shown. -/
theorem resolve_pending {w : Workbench σ} {request : RenderRequest} (outcome : Outcome)
    (viewer : w.session.mode = .viewer) (pending : w.renderer.pending = some request.number) :
    (w.resolve request outcome).2 =
      { w with renderer := { w.renderer with pending := none, result := some (.ofOutcome outcome) } } := by
  simp [resolve, Renderer.resolve, viewer, pending]

/-- Whether an outcome counts or not, as many requests have been made after it as before. -/
theorem resolve_issued (w : Workbench σ) (request : RenderRequest) (outcome : Outcome) :
    (w.resolve request outcome).2.renderer.issued = w.renderer.issued := by
  by_cases stale : w.renderer.pending = some request.number
  · by_cases viewer : w.session.mode = .viewer
    · rw [resolve_pending outcome viewer stale]
    · simp [resolve, viewer]
  · rw [resolve_stale outcome stale]

theorem Picture.deliver {opened : ViewMode} {t : Trace σ} (picture : Picture opened t)
    (descending : t.issued.Pairwise fun newer older => older.number < newer.number)
    {request : RenderRequest} (member : request ∈ t.issued) (outcome : Outcome) :
    Picture opened ⟨(t.workbench.resolve request outcome).2, t.issued, t.delivered ++ [(request, outcome)]⟩ := by
  cases picture with
  | editing mode pending result =>
    rw [resolve_stale outcome (by rw [pending]; nofun)]
    exact .editing mode pending result
  | untouched mode first issued pending result =>
    rw [issued] at member
    cases member
  | waiting newest older mode issued source answer pending result =>
    by_cases same : request = newest
    · subst same
      rw [resolve_pending outcome mode pending]
      refine .answered request older outcome mode issued source ?_ rfl rfl
      rw [entryFor?_append, answer]
      simp [entryFor?]
    · have further : request ∈ older := by
        rw [issued] at member
        exact (List.mem_cons.mp member).resolve_left same
      have smaller : request.number < newest.number := by
        rw [issued, List.pairwise_cons] at descending
        exact descending.1 request further
      have stale : t.workbench.renderer.pending ≠ some request.number := by
        rw [pending]
        intro equal
        have := Option.some.inj equal
        omega
      rw [resolve_stale outcome stale]
      refine .waiting newest older mode issued source ?_ pending result
      rw [entryFor?_append, answer]
      simp [entryFor?, same]
  | answered newest older first mode issued source answer pending result =>
    rw [resolve_stale outcome (by rw [pending]; nofun)]
    refine .answered newest older first mode issued source ?_ pending result
    rw [entryFor?_append, answer]
    rfl

theorem deliver_inStep [Storage σ] {opened : ViewMode} {t : Trace σ} (inStep : InStep opened t)
    (place : Nat) (outcome : Outcome) : InStep opened (t.step (.deliver place outcome)) := by
  obtain ⟨descending, counted, known, picture⟩ := inStep
  simp only [step]
  split
  · next request found =>
    have member := List.mem_of_getElem? found
    refine ⟨descending, ?_, ?_, picture.deliver descending member outcome⟩
    · intro request member
      rw [resolve_issued]
      exact counted request member
    · intro d delivered
      rcases List.mem_append.mp delivered with before | now
      · exact known d before
      · rw [List.mem_singleton] at now
        subst now
        exact member
  · exact ⟨descending, counted, known, picture⟩

/-! ## Runs -/

theorem run_inStep [Storage σ] {opened : ViewMode} {t : Trace σ} (inStep : InStep opened t)
    (steps : List Step) : InStep opened (t.run steps) := by
  induction steps generalizing t with
  | nil => exact inStep
  | cons s more ih =>
    cases s with
    | operate op => exact ih (operate_inStep inStep op)
    | deliver place outcome => exact ih (deliver_inStep inStep place outcome)

/-- What is composed for export is a picture that was drawn of the source as it is now. -/
theorem Picture.compose {opened : ViewMode} {t : Trace σ} (picture : Picture opened t) (size : Size)
    (time : Timestamp) :
    t.workbench.compose size time = .error .notRendered ∧ t.workbench.renderer.markup? = none ∨
    ∃ newest markup, t.issued.head? = some newest ∧ newest.source = t.workbench.session.source ∧
      entryFor? newest t.delivered = some (.ok markup) ∧
      t.workbench.compose size time =
        Export.compose markup t.workbench.session.title size time t.workbench.canvas := by
  cases picture with
  | editing _ _ result => left; simp [Workbench.compose, Renderer.markup?, result]
  | untouched _ _ _ _ result => left; simp [Workbench.compose, Renderer.markup?, result]
  | waiting _ _ _ _ _ _ _ result => left; simp [Workbench.compose, Renderer.markup?, result]
  | answered newest older outcome _ issued source answer _ result =>
    cases outcome with
    | error fault => left; simp [Workbench.compose, Renderer.markup?, result, RenderResult.ofOutcome]
    | ok markup =>
      right
      refine ⟨newest, markup, by rw [issued]; rfl, source, answer, ?_⟩
      simp [Workbench.compose, Renderer.markup?, result, RenderResult.ofOutcome]

/-- After any run: nothing is shown or waited for in the editor; in the viewer the newest request was made
    for the source as it is now, and what is shown is what first came of it, if anything has. Only a viewer
    that was open from the start may be without any request. The next operation makes a request just
    where one is called for, and what is exported was drawn of the source as it is now. -/
theorem picture_follows_source [Storage σ] (config : Config) (storage : σ) (location : Location) (time : Nat)
    (steps : List Step) :
    let opened := open_ config storage location time
    let t := (ofWorkbench opened).run steps
    let w := t.workbench
    (w.session.mode = .editor → w.renderer.pending = none ∧ w.renderer.result = none) ∧
    (w.session.mode = .viewer →
      (opened.session.mode = .viewer ∧ t.issued = [] ∧ w.renderer.pending = none ∧ w.renderer.result = none) ∨
      ∃ newest, t.issued.head? = some newest ∧ newest.source = w.session.source ∧
        ((entryFor? newest t.delivered = none ∧ w.renderer.pending = some newest.number ∧
            w.renderer.result = some .loading) ∨
          ∃ outcome, entryFor? newest t.delivered = some outcome ∧ w.renderer.pending = none ∧
            w.renderer.result = some (.ofOutcome outcome))) ∧
    (∀ op, (w.perform op).1.isSome ↔ Asks w (w.perform op).2 op) ∧
    (∀ size stamp,
      (w.compose size stamp = .error .notRendered ∧ w.renderer.markup? = none) ∨
      ∃ newest markup, t.issued.head? = some newest ∧ newest.source = w.session.source ∧
        entryFor? newest t.delivered = some (.ok markup) ∧
        w.compose size stamp = Export.compose markup w.session.title size stamp w.canvas) := by
  intro opened t w
  have picture : Picture opened.session.mode t :=
    (run_inStep (ofWorkbench_inStep config storage location time) steps).picture
  refine ⟨?_, ?_, fun op => (perform_effect w op).isSome_iff, fun size stamp => picture.compose size stamp⟩
  · intro editor
    cases picture with
    | editing _ pending result => exact ⟨pending, result⟩
    | untouched viewer => exact absurd (editor.symm.trans viewer) (by decide)
    | waiting _ _ viewer => exact absurd (editor.symm.trans viewer) (by decide)
    | answered _ _ _ viewer => exact absurd (editor.symm.trans viewer) (by decide)
  · intro viewer
    cases picture with
    | editing editor => exact absurd (editor.symm.trans viewer) (by decide)
    | untouched _ first issued pending result => exact .inl ⟨first, issued, pending, result⟩
    | waiting newest older _ issued source answer pending result =>
      exact .inr ⟨newest, by rw [issued]; rfl, source, .inl ⟨answer, pending, result⟩⟩
    | answered newest older outcome _ issued source answer pending result =>
      exact .inr ⟨newest, by rw [issued]; rfl, source, .inr ⟨outcome, answer, pending, result⟩⟩

end Trace

end DiagramStudio.Workbench
