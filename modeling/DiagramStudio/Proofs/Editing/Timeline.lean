import DiagramStudio.Proofs.Editing.Operation

/-!
The history of a session is a timeline: the versions of the source in the order in which they were made,
and a cursor at the version that is edited. Going back and coming forward move the cursor, a new text is
put behind it, and the oldest versions are dropped beyond the limit. The two stacks of a session and its
source are what lies before the cursor, behind it and at it (`Session.timeline`), and every operation on
the session is the one on the timeline. Since there are never more versions than the limit allows, coming
forward has room to remember what it leaves.
-/

namespace DiagramStudio

/-- Versions of a text, the oldest first, one of which is current. -/
@[ext] structure Timeline where
  /-- How many versions are kept beside the current one. -/
  limit : Nat
  versions : List String
  /-- The place of the current version. -/
  cursor : Nat
  inside : cursor < versions.length

namespace Timeline

/-- A text that has not been changed yet. -/
def ofText (limit : Nat) (text : String) : Timeline := ⟨limit, [text], 0, Nat.one_pos⟩

/-- The versions before the current one. -/
def past (t : Timeline) : List String := t.versions.take t.cursor

def current (t : Timeline) : String := t.versions.get ⟨t.cursor, t.inside⟩

/-- The versions behind the current one. -/
def future (t : Timeline) : List String := t.versions.drop (t.cursor + 1)

/-- Another text becomes the version behind the current one, in place of all that were there; the oldest
    versions are dropped until no more than the limit remain beside it. -/
def edit (t : Timeline) (text : String) : Bool × Timeline :=
  if text = t.current then (false, t)
  else
    let versions := t.versions.take (t.cursor + 1) ++ [text]
    let kept := versions.drop (versions.length - (t.limit + 1))
    (true, ⟨t.limit, kept, kept.length - 1, by
      simp only [kept, versions, List.length_drop, List.length_append, List.length_singleton]
      omega⟩)

/-- Another text takes the place of the current version. -/
def overwrite (t : Timeline) (text : String) : Bool × Timeline :=
  if text = t.current then (false, t)
  else (true, ⟨t.limit, t.versions.set t.cursor text, t.cursor, by rw [List.length_set]; exact t.inside⟩)

/-- The cursor is moved to the version before. -/
def back (t : Timeline) : Bool × Timeline :=
  if t.cursor = 0 then (false, t)
  else (true, { t with cursor := t.cursor - 1, inside := Nat.lt_of_le_of_lt (Nat.sub_le _ _) t.inside })

/-- The cursor is moved to the version behind. -/
def forward (t : Timeline) : Bool × Timeline :=
  if inside : t.cursor + 1 < t.versions.length then (true, { t with cursor := t.cursor + 1, inside := inside })
  else (false, t)

/-- The timeline after an operation on the session; most of these are not about the text. -/
def after (t : Timeline) : Session.Operation → Timeline
  | .setText text => (t.edit text).2
  | .replaceText text => (t.overwrite text).2
  | .clear => (t.edit "").2
  | .undo => t.back.2
  | .redo => t.forward.2
  | .setTitle _ | .generate | .back | .tick | .flush | .save | .wait _ => t

def afterAll (t : Timeline) (operations : List Session.Operation) : Timeline :=
  operations.foldl after t

/-! ## No more versions than are kept -/

/-- There are no more versions than the current one and as many as the limit says. -/
def Bounded (t : Timeline) : Prop := t.versions.length ≤ t.limit + 1

theorem Bounded.edit {t : Timeline} (bounded : t.Bounded) (text : String) : (t.edit text).2.Bounded := by
  unfold Timeline.edit
  split
  · exact bounded
  · simp only [Bounded, List.length_drop]
    omega

theorem Bounded.overwrite {t : Timeline} (bounded : t.Bounded) (text : String) :
    (t.overwrite text).2.Bounded := by
  unfold Timeline.overwrite
  split
  · exact bounded
  · simpa only [Bounded, List.length_set] using bounded

theorem Bounded.back {t : Timeline} (bounded : t.Bounded) : t.back.2.Bounded := by
  unfold Timeline.back
  split <;> exact bounded

theorem Bounded.forward {t : Timeline} (bounded : t.Bounded) : t.forward.2.Bounded := by
  unfold Timeline.forward
  split <;> exact bounded

theorem Bounded.after {t : Timeline} (bounded : t.Bounded) (op : Session.Operation) : (t.after op).Bounded := by
  cases op with
  | setText text => exact bounded.edit text
  | replaceText text => exact bounded.overwrite text
  | clear => exact bounded.edit ""
  | undo => exact bounded.back
  | redo => exact bounded.forward
  | _ => exact bounded

theorem limit_after (t : Timeline) (op : Session.Operation) : (t.after op).limit = t.limit := by
  have edited (text : String) : (t.edit text).2.limit = t.limit := by
    unfold edit
    split <;> rfl
  cases op with
  | setText text => exact edited text
  | clear => exact edited ""
  | replaceText text =>
    simp only [after, overwrite]
    split <;> rfl
  | undo =>
    simp only [after, back]
    split <;> rfl
  | redo =>
    simp only [after, forward]
    split <;> rfl
  | _ => rfl

theorem limit_afterAll (t : Timeline) (operations : List Session.Operation) :
    (t.afterAll operations).limit = t.limit := by
  induction operations generalizing t with
  | nil => rfl
  | cons op more ih => exact (ih (t.after op)).trans (limit_after t op)

/-! ## Moving the cursor there and back -/

theorem forward_back {t : Timeline} (moved : t.back.1 = true) : t.back.2.forward = (true, t) := by
  have first : t.cursor ≠ 0 := by
    intro first
    simp [back, first] at moved
  have same : t.cursor - 1 + 1 = t.cursor := by omega
  simp [back, forward, first, same, t.inside]

theorem back_forward {t : Timeline} (moved : t.forward.1 = true) : t.forward.2.back = (true, t) := by
  have more : t.cursor + 1 < t.versions.length :=
    Decidable.byContradiction fun last => by simp [forward, last] at moved
  simp [back, forward, more]

/-- Nothing is dropped when the cursor moves on: the version it leaves is the latest of the past. -/
theorem past_forward {t : Timeline} (moved : t.forward.1 = true) : t.forward.2.past = t.past ++ [t.current] := by
  have more : t.cursor + 1 < t.versions.length :=
    Decidable.byContradiction fun last => by simp [forward, last] at moved
  simp [forward, more, past, current]

/-! ## Around the current version -/

/-- The timeline with these versions before and behind the current one. -/
def around (limit : Nat) (past : List String) (current : String) (future : List String) : Timeline :=
  ⟨limit, past ++ current :: future, past.length, by simp⟩

section
variable (limit : Nat) (past : List String) (current : String) (future : List String)

@[simp] theorem past_around : (around limit past current future).past = past := by simp [around, Timeline.past]

@[simp] theorem current_around : (around limit past current future).current = current := by
  simp [around, Timeline.current]

@[simp] theorem future_around : (around limit past current future).future = future := by
  simp [around, Timeline.future]

theorem bounded_around : (around limit past current future).Bounded ↔ past.length + future.length ≤ limit := by
  simp only [around, Bounded, List.length_append, List.length_cons]
  omega

theorem edit_around {text : String} (other : text ≠ current) :
    (around limit past current future).edit text =
      (true, around limit ((past ++ [current]).drop (past.length + 1 - limit)) text []) := by
  have before : (past ++ current :: future).take (past.length + 1) = past ++ [current] := by
    simp [List.take_append, List.take_of_length_le]
  have enough : past.length + 1 - limit ≤ (past ++ [current]).length := by simp
  have kept : ((past ++ [current]) ++ [text]).drop (((past ++ [current]) ++ [text]).length - (limit + 1)) =
      (past ++ [current]).drop (past.length + 1 - limit) ++ [text] := by
    rw [← List.drop_append_of_le_length enough]
    congr 1
    simp
  simp only [edit, current_around, other, if_false]
  simp only [around, before, kept, Prod.mk.injEq, true_and, Timeline.mk.injEq]
  simp

theorem overwrite_around {text : String} (other : text ≠ current) :
    (around limit past current future).overwrite text = (true, around limit past text future) := by
  simp only [overwrite, current_around, other, if_false]
  simp [around]

theorem back_around_nil : (around limit [] current future).back = (false, around limit [] current future) := by
  simp [back, around]

theorem back_around_concat (text : String) :
    (around limit (past ++ [text]) current future).back = (true, around limit past text (current :: future)) := by
  simp [back, around]

theorem forward_around_nil : (around limit past current []).forward = (false, around limit past current []) := by
  simp [forward, around]

theorem forward_around_cons (text : String) :
    (around limit past current (text :: future)).forward = (true, around limit (past ++ [current]) text future) := by
  simp [forward, around]

end

end Timeline

/-! ## The history of a session -/

/-- A text remembered behind the others, the oldest dropped as far as the limit asks. -/
theorem History.snapshots_remember (h : History) (text : String) :
    (h.remember text).snapshots = (h.snapshots ++ [text]).drop (h.snapshots.length + 1 - h.limit) := by
  have turned : (text :: h.earlier).reverse = h.snapshots ++ [text] := by simp [snapshots]
  rw [snapshots, remember, List.reverse_take, turned]
  simp [snapshots]

namespace Session

variable {σ : Type}

/-- The history and the source of a session, the source between what is before and what is behind it. -/
def timeline (s : Session σ) : Timeline :=
  .around s.history.limit s.history.snapshots s.source s.history.later

theorem timeline_congr {s s' : Session σ} (history : s'.history = s.history) (source : s'.source = s.source) :
    s'.timeline = s.timeline := by
  rw [timeline, timeline, history, source]

theorem bounded_timeline (s : Session σ) :
    s.timeline.Bounded ↔ s.history.earlier.length + s.history.later.length ≤ s.history.limit := by
  rw [timeline, Timeline.bounded_around, History.snapshots, List.length_reverse]

theorem timeline_setText (s : Session σ) (text : String) :
    Prod.map id timeline (s.setText text) = s.timeline.edit text := by
  by_cases same : text = s.source
  · simp [setText, same, Timeline.edit, timeline]
  · rw [timeline, Timeline.edit_around _ _ _ _ same, ← History.snapshots_remember]
    simp [setText, same, timeline, withSource, touch, sync, History.record, History.remember, History.snapshots]

theorem timeline_replaceText (s : Session σ) (text : String) :
    Prod.map id timeline (s.replaceText text) = s.timeline.overwrite text := by
  by_cases same : text = s.source
  · simp [replaceText, same, Timeline.overwrite, timeline]
  · rw [timeline, Timeline.overwrite_around _ _ _ _ same]
    simp [replaceText, same, timeline, withSource, touch, sync]

/-- Where the history leads to, whether the source differs there or not. -/
theorem timeline_travel (s : Session σ) (text : String) (history : History) :
    Prod.map id timeline (s.travel (some (text, history))) =
      (true, .around history.limit history.snapshots text history.later) := by
  by_cases same : text = s.source
  · simp [travel, same, timeline]
  · simp [travel, same, timeline, withSource, touch, sync]

theorem timeline_undo (s : Session σ) : Prod.map id timeline s.undo = s.timeline.back := by
  rw [undo, History.undo?, timeline]
  cases earlier : s.history.earlier with
  | nil =>
    have none_ : s.history.snapshots = [] := by simp [History.snapshots, earlier]
    rw [none_, Timeline.back_around_nil]
    simp [travel, timeline, none_]
  | cons text more =>
    have last : s.history.snapshots = more.reverse ++ [text] := by simp [History.snapshots, earlier]
    rw [last, Timeline.back_around_concat]
    exact timeline_travel s text _

/-- Coming forward drops nothing: where there is a version behind the current one, fewer are before it than
    are kept. -/
theorem timeline_redo {s : Session σ} (bounded : s.timeline.Bounded) :
    Prod.map id timeline s.redo = s.timeline.forward := by
  rw [bounded_timeline] at bounded
  rw [redo, History.redo?, timeline]
  cases later : s.history.later with
  | nil =>
    rw [Timeline.forward_around_nil]
    simp [travel, timeline, later]
  | cons text more =>
    have room : s.history.snapshots.length + 1 - s.history.limit = 0 := by
      rw [later, List.length_cons] at bounded
      rw [History.snapshots, List.length_reverse]
      omega
    have remembered : (({ s.history with later := more } : History).remember s.source).snapshots =
        s.history.snapshots ++ [s.source] := by
      rw [History.snapshots_remember]
      change (s.history.snapshots ++ [s.source]).drop (s.history.snapshots.length + 1 - s.history.limit) = _
      rw [room, List.drop_zero]
    rw [Timeline.forward_around_cons, ← remembered]
    exact timeline_travel s text _

theorem timeline_setTitle (s : Session σ) (title : String) : (s.setTitle title).2.timeline = s.timeline := by
  unfold setTitle
  split <;> rfl

theorem timeline_switch (s : Session σ) (mode : ViewMode) : (s.switch mode).2.timeline = s.timeline := by
  unfold switch
  split <;> rfl

/-- A session has the history and the source that its timeline says. -/
theorem eq_of_timeline {s s' : Session σ} (same : s'.timeline = s.timeline) :
    s'.history = s.history ∧ s'.source = s.source := by
  have limit : s'.history.limit = s.history.limit := congrArg Timeline.limit same
  have past := congrArg Timeline.past same
  have current := congrArg Timeline.current same
  have future := congrArg Timeline.future same
  simp only [timeline, Timeline.past_around, Timeline.current_around, Timeline.future_around] at past current future
  refine ⟨?_, current⟩
  rw [History.mk.injEq]
  exact ⟨limit, List.reverse_inj.mp past, future⟩

/-- Where the history leads nowhere, nothing is changed. -/
theorem travel_eq_self {s : Session σ} {goal : Option (String × History)} (stays : (s.travel goal).1 = false) :
    (s.travel goal).2 = s := by
  cases goal with
  | none => rfl
  | some goal => cases stays

/-- Coming forward again after going back leads to where one was. -/
theorem redo_undo {s : Session σ} (bounded : s.timeline.Bounded) (moved : s.undo.1 = true) :
    s.undo.2.redo.1 = true ∧ s.undo.2.redo.2.history = s.history ∧ s.undo.2.redo.2.source = s.source := by
  have back := timeline_undo s
  have before : s.undo.2.timeline = s.timeline.back.2 := congrArg Prod.snd back
  have movedBack : s.timeline.back.1 = true := (congrArg Prod.fst back).symm.trans moved
  have kept : s.undo.2.timeline.Bounded := by
    rw [before]
    exact bounded.back
  have again : Prod.map id timeline s.undo.2.redo = (true, s.timeline) := by
    rw [timeline_redo kept, before, Timeline.forward_back movedBack]
  exact ⟨congrArg Prod.fst again, eq_of_timeline (congrArg Prod.snd again)⟩

/-- Going back again after coming forward leads to where one was. -/
theorem undo_redo {s : Session σ} (bounded : s.timeline.Bounded) (moved : s.redo.1 = true) :
    s.redo.2.undo.1 = true ∧ s.redo.2.undo.2.history = s.history ∧ s.redo.2.undo.2.source = s.source := by
  have forward := timeline_redo bounded
  have behind : s.redo.2.timeline = s.timeline.forward.2 := congrArg Prod.snd forward
  have movedForward : s.timeline.forward.1 = true := (congrArg Prod.fst forward).symm.trans moved
  have again : Prod.map id timeline s.redo.2.undo = (true, s.timeline) := by
    rw [timeline_undo, behind, Timeline.back_forward movedForward]
  exact ⟨congrArg Prod.fst again, eq_of_timeline (congrArg Prod.snd again)⟩

/-- Coming forward remembers the version that is left behind all that were remembered before. -/
theorem snapshots_redo {s : Session σ} (bounded : s.timeline.Bounded) (moved : s.redo.1 = true) :
    s.redo.2.history.snapshots = s.history.snapshots ++ [s.source] := by
  have forward := timeline_redo bounded
  have movedForward : s.timeline.forward.1 = true := (congrArg Prod.fst forward).symm.trans moved
  have past : s.redo.2.timeline.past = s.timeline.forward.2.past := congrArg (Timeline.past ·.2) forward
  rw [Timeline.past_forward movedForward] at past
  simpa only [timeline, Timeline.past_around, Timeline.current_around] using past

/-! ## Runs -/

variable [Storage σ]

/-- Every operation on a session is the one on its timeline. -/
theorem timeline_after {s : Session σ} (bounded : s.timeline.Bounded) (op : Operation) :
    (s.after op).timeline = s.timeline.after op := by
  cases op with
  | setText text => exact congrArg Prod.snd (timeline_setText s text)
  | replaceText text => exact congrArg Prod.snd (timeline_replaceText s text)
  | setTitle title => exact timeline_setTitle s title
  | clear => exact (timeline_setTitle _ "").trans (congrArg Prod.snd (timeline_setText s ""))
  | undo => exact congrArg Prod.snd (timeline_undo s)
  | redo => exact congrArg Prod.snd (timeline_redo bounded)
  | generate => exact timeline_switch s .viewer
  | back => exact timeline_switch s .editor
  | tick =>
    have same := tick_sameEditing s
    exact timeline_congr same.history same.source
  | flush =>
    have same := flush_sameEditing s
    exact timeline_congr same.history same.source
  | save =>
    have same := save_sameEditing s
    exact timeline_congr same.history same.source
  | wait milliseconds => rfl

theorem timeline_afterAll {s : Session σ} (bounded : s.timeline.Bounded) (operations : List Operation) :
    (s.afterAll operations).timeline = s.timeline.afterAll operations ∧
      (s.afterAll operations).timeline.Bounded := by
  induction operations generalizing s with
  | nil => exact ⟨rfl, bounded⟩
  | cons op more ih =>
    have step := timeline_after bounded op
    have next : (s.after op).timeline.Bounded := by
      rw [step]
      exact bounded.after op
    have rest := ih next
    rw [step] at rest
    exact rest

/-- After any row of operations the stacks and the source of a session are those of the timeline that began
    with the source alone, and so is what the operations say of themselves. No more is kept than the limit
    says, coming forward loses nothing, and going back and coming forward undo each other. -/
theorem history_is_timeline (config : Config) (storage : σ) (location : Location) (time : Nat)
    (operations : List Operation) :
    let opened := load config storage location time
    let s := opened.afterAll operations
    let t := (Timeline.ofText config.editor.historyLimit opened.source).afterAll operations
    (s.history.snapshots = t.past ∧ s.source = t.current ∧ s.history.later = t.future) ∧
    (∀ text, (s.setText text).1 = (t.edit text).1 ∧ (s.replaceText text).1 = (t.overwrite text).1) ∧
    (s.undo.1 = t.back.1 ∧ (s.undo.1 = false → s.undo.2 = s)) ∧
    (s.redo.1 = t.forward.1 ∧ (s.redo.1 = false → s.redo.2 = s)) ∧
    s.history.earlier.length + s.history.later.length ≤ config.editor.historyLimit ∧
    (s.redo.1 = true → s.redo.2.history.snapshots = s.history.snapshots ++ [s.source]) ∧
    (s.undo.1 = true →
      s.undo.2.redo.1 = true ∧ s.undo.2.redo.2.history = s.history ∧ s.undo.2.redo.2.source = s.source) ∧
    (s.redo.1 = true →
      s.redo.2.undo.1 = true ∧ s.redo.2.undo.2.history = s.history ∧ s.redo.2.undo.2.source = s.source) := by
  intro opened s t
  have first : opened.timeline.Bounded := Nat.le_add_left 1 _
  obtain ⟨same, bounded⟩ := timeline_afterAll first operations
  change s.timeline = t at same
  change s.timeline.Bounded at bounded
  have limit : s.history.limit = config.editor.historyLimit :=
    (congrArg Timeline.limit same).trans (Timeline.limit_afterAll _ operations)
  have parts : s.history.snapshots = t.past ∧ s.source = t.current ∧ s.history.later = t.future := by
    rw [← same]
    simp [timeline]
  have lengths := (bounded_timeline s).mp bounded
  rw [limit] at lengths
  have edited (text : String) := congrArg Prod.fst (timeline_setText s text)
  have overwritten (text : String) := congrArg Prod.fst (timeline_replaceText s text)
  have back := congrArg Prod.fst (timeline_undo s)
  have forward := congrArg Prod.fst (timeline_redo bounded)
  rw [same] at edited overwritten back forward
  exact ⟨parts, fun text => ⟨edited text, overwritten text⟩, ⟨back, travel_eq_self⟩, ⟨forward, travel_eq_self⟩,
    lengths, snapshots_redo bounded, redo_undo bounded, undo_redo bounded⟩

end Session

end DiagramStudio
