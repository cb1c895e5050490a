import DiagramStudio.Proofs.Editing.Recorded

/-!
When a session writes by itself. What bears on it is the time of the latest change of source or title, as
long as no write was tried since (`unwritten?`): the deadline is this time and the delay, and there is none
where there is no such change (`InStep`). An operation either leaves all of this as it is, or changes
source or title, or tries to write (`Effect`).
-/

namespace DiagramStudio.Session

variable {σ : Type}

/-! ## What one operation does -/

/-- Nothing has happened that bears on saving. -/
structure Quiet (s s' : Session (Recorded σ)) : Prop where
  source : s'.source = s.source
  title : s'.title = s.title
  status : s'.status = s.status
  autosave : s'.autosave = s.autosave
  keys : s'.keys = s.keys
  attempts : s'.storage.attempts = s.storage.attempts

/-- Source or title has become another one. -/
structure Changed (s s' : Session (Recorded σ)) : Prop where
  other : ¬(s'.source = s.source ∧ s'.title = s.title)
  status : s'.status = .dirty
  autosave : s'.autosave = s.autosave.schedule s.time
  keys : s'.keys = s.keys
  attempts : s'.storage.attempts = s.storage.attempts

/-- A write of source and title was tried. -/
structure Attempted (s s' : Session (Recorded σ)) (success : Bool) : Prop where
  source : s'.source = s.source
  title : s'.title = s.title
  time : s'.time = s.time
  keys : s'.keys = s.keys
  autosave : s'.autosave = s.autosave.cancel
  status : s'.status = if success then .saved else s.status
  written : ∃ written, s'.storage.attempts = s.storage.attempts ++ written ∧
    Writing s.keys s.source s.title written success

theorem Quiet.refl (s : Session (Recorded σ)) : Quiet s s := ⟨rfl, rfl, rfl, rfl, rfl, rfl⟩

theorem Attempted.attempts_ne {s s' : Session (Recorded σ)} {success : Bool} (attempted : Attempted s s' success) :
    s'.storage.attempts ≠ s.storage.attempts := by
  obtain ⟨written, attempts, writing⟩ := attempted.written
  rw [attempts]
  exact fun same => writing.ne_nil (List.append_right_eq_self.mp same)

/-- The operation asks for a write now. -/
def Asks (s : Session σ) (op : Operation) : Prop :=
  op = .save ∨ (op = .flush ∧ s.status = .dirty) ∨ (op = .tick ∧ s.autosave.isDue s.time = true)

theorem asks_tick {s : Session σ} : Asks s .tick ↔ s.autosave.isDue s.time = true := by simp [Asks]

/-- Everything that an operation can do, and whether it asks for a write. -/
inductive Effect (s : Session (Recorded σ)) (op : Operation) (s' : Session (Recorded σ)) : Prop where
  | quiet (silent : ¬Asks s op) (same : Quiet s s')
  | changed (silent : ¬Asks s op) (change : Changed s s')
  | attempted {success : Bool} (asks : Asks s op) (attempt : Attempted s s' success)

/-- An operation that edits asks for no write. -/
theorem Effect.ofEdit {s s' : Session (Recorded σ)} {op : Operation} (edited : Quiet s s' ∨ Changed s s')
    (silent : ¬Asks s op) : Effect s op s' := by
  rcases edited with same | change
  · exact .quiet silent same
  · exact .changed silent change

theorem setText_edits (s : Session (Recorded σ)) (text : String) :
    Quiet s (s.setText text).2 ∨ Changed s (s.setText text).2 := by
  unfold setText
  split
  · exact .inl (Quiet.refl s)
  · next other => exact .inr ⟨fun same => other same.1, rfl, rfl, rfl, rfl⟩

theorem replaceText_edits (s : Session (Recorded σ)) (text : String) :
    Quiet s (s.replaceText text).2 ∨ Changed s (s.replaceText text).2 := by
  unfold replaceText
  split
  · exact .inl (Quiet.refl s)
  · next other => exact .inr ⟨fun same => other same.1, rfl, rfl, rfl, rfl⟩

theorem setTitle_edits (s : Session (Recorded σ)) (title : String) :
    Quiet s (s.setTitle title).2 ∨ Changed s (s.setTitle title).2 := by
  unfold setTitle
  split
  · exact .inl (Quiet.refl s)
  · next other => exact .inr ⟨fun same => other same.2, rfl, rfl, rfl, rfl⟩

theorem travel_edits (s : Session (Recorded σ)) (goal : Option (String × History)) :
    Quiet s (s.travel goal).2 ∨ Changed s (s.travel goal).2 := by
  rcases goal with _ | ⟨text, history⟩
  · exact .inl (Quiet.refl s)
  · simp only [travel]
    split
    · exact .inl ⟨rfl, rfl, rfl, rfl, rfl, rfl⟩
    · next other => exact .inr ⟨fun same => other same.1, rfl, rfl, rfl, rfl⟩

theorem switch_quiet (s : Session (Recorded σ)) (mode : ViewMode) : Quiet s (s.switch mode).2 := by
  unfold switch
  split
  · exact Quiet.refl s
  · exact ⟨rfl, rfl, rfl, rfl, rfl, rfl⟩

/-- The title is emptied at the time at which the source was, so both together are one change. -/
theorem clear_edits (s : Session (Recorded σ)) : Quiet s s.clear ∨ Changed s s.clear := by
  by_cases empty : "" = s.source
  · have stays : s.setText "" = (false, s) := if_pos empty
    rw [clear, stays]
    exact setTitle_edits s ""
  · have emptied : s.setText "" = (true, ({ s with history := s.history.record s.source }).withSource "") :=
      if_neg empty
    rw [clear, emptied, setTitle]
    right
    split <;> exact ⟨fun same => empty same.1, rfl, rfl, rfl, rfl⟩

section

variable [Storage σ]

theorem save_attempted (s : Session (Recorded σ)) : Attempted s s.save.2 s.save.1.isOk := by
  obtain ⟨written, writing, after, _⟩ := persist_writing { s with autosave := s.autosave.cancel }
  have saved : s.save.2 = { s with
      autosave := s.autosave.cancel
      storage := ⟨s.save.2.storage.storage, s.storage.attempts ++ written⟩
      status := if s.save.1.isOk then .saved else s.status } := after
  rw [saved]
  exact ⟨rfl, rfl, rfl, rfl, rfl, rfl, written, rfl, writing⟩

theorem tick_attempted {s : Session (Recorded σ)} (due : s.autosave.isDue s.time = true) :
    Attempted s s.tick.2 s.tick.1 := by
  rw [tick_of_due due]
  exact save_attempted s

theorem after_effect (s : Session (Recorded σ)) (op : Operation) : Effect s op (s.after op) := by
  cases op with
  | setText text => exact .ofEdit (setText_edits s text) (by simp [Asks])
  | replaceText text => exact .ofEdit (replaceText_edits s text) (by simp [Asks])
  | setTitle title => exact .ofEdit (setTitle_edits s title) (by simp [Asks])
  | clear => exact .ofEdit (clear_edits s) (by simp [Asks])
  | undo => exact .ofEdit (travel_edits s _) (by simp [Asks])
  | redo => exact .ofEdit (travel_edits s _) (by simp [Asks])
  | generate => exact .quiet (by simp [Asks]) (switch_quiet s .viewer)
  | back => exact .quiet (by simp [Asks]) (switch_quiet s .editor)
  | wait milliseconds => exact .quiet (by simp [Asks]) ⟨rfl, rfl, rfl, rfl, rfl, rfl⟩
  | save => exact .attempted (.inl rfl) (save_attempted s)
  | flush =>
    cases status : s.status with
    | saved =>
      have same : s.after .flush = s := by simp [after, flush, status]
      rw [same]
      exact .quiet (by simp [Asks, status]) (Quiet.refl s)
    | dirty =>
      have saved : s.after .flush = s.save.2 := by simp [after, flush, status]
      rw [saved]
      exact .attempted (.inr (.inl ⟨rfl, status⟩)) (save_attempted s)
  | tick =>
    by_cases due : s.autosave.isDue s.time = true
    · exact .attempted (.inr (.inr ⟨rfl, due⟩)) (tick_attempted due)
    · rw [after, tick_of_early due]
      exact .quiet (by simp [Asks, due]) (Quiet.refl s)

end

/-! ## What has happened in a run -/

/-- What can happen in a run that bears on saving. -/
inductive Event where
  /-- Source or title became another one, at this time. -/
  | changed (time : Nat)
  /-- A write was tried. -/
  | attempted
deriving Repr, DecidableEq

def Event.time? : Event → Option Nat
  | changed time => some time
  | attempted => none

/-- A session of which the tries to write are recorded, and what has happened in it, the latest first. -/
structure Watch (σ : Type) where
  session : Session (Recorded σ)
  events : List Event := []

namespace Watch

/-- The times of all changes, the latest first. -/
def changes (w : Watch σ) : List Nat := w.events.filterMap Event.time?

/-- The time of the latest change, if no write was tried since. -/
def unwritten? (w : Watch σ) : Option Nat := w.events.head?.bind Event.time?

/-- Where a change waits for being written, it is the latest of all. -/
theorem changes_of_unwritten {w : Watch σ} {changed : Nat} (waiting : w.unwritten? = some changed) :
    w.changes.head? = some changed := by
  rw [unwritten?] at waiting
  rw [changes]
  cases events : w.events with
  | nil => simp [events] at waiting
  | cons event before =>
    have time : event.time? = some changed := by simpa [events] using waiting
    simp [time]

/-- The deadline is the time of the latest change and the delay, as long as no write was tried since. -/
structure InStep (config : Config) (w : Watch σ) : Prop where
  keys : w.session.keys = config.storage
  delay : w.session.autosave.delay = config.editor.autosaveDelay
  deadline : w.session.autosave.deadline = w.unwritten?.map (· + config.editor.autosaveDelay)
  saved : w.session.status = .saved → w.unwritten? = none

theorem InStep.isDue_iff {config : Config} {w : Watch σ} (inStep : InStep config w) :
    w.session.autosave.isDue w.session.time = true ↔
      ∃ changed, w.unwritten? = some changed ∧ changed + config.editor.autosaveDelay ≤ w.session.time := by
  rw [Autosave.isDue, inStep.deadline]
  cases w.unwritten? <;> simp

variable [Storage σ]

def load (config : Config) (storage : σ) (location : Location) (time : Nat) : Watch σ :=
  ⟨Session.load config ⟨storage, []⟩ location time, []⟩

/-- One operation more. What happens in it is read off what it leaves behind. -/
def after (w : Watch σ) (op : Operation) : Watch σ :=
  let s := w.session.after op
  let changed := if s.source = w.session.source ∧ s.title = w.session.title then []
    else [Event.changed w.session.time]
  let attempted := if s.storage.attempts = w.session.storage.attempts then [] else [Event.attempted]
  ⟨s, attempted ++ changed ++ w.events⟩

def afterAll (w : Watch σ) (operations : List Operation) : Watch σ := operations.foldl after w

/-- The operation tries to write something. -/
def Tries (w : Watch σ) (op : Operation) : Prop :=
  (w.after op).session.storage.attempts ≠ w.session.storage.attempts

theorem afterAll_cons (w : Watch σ) (op : Operation) (more : List Operation) :
    w.afterAll (op :: more) = (w.after op).afterAll more := rfl

theorem session_afterAll (w : Watch σ) (operations : List Operation) :
    (w.afterAll operations).session = w.session.afterAll operations := by
  induction operations generalizing w with
  | nil => rfl
  | cons op more ih => exact ih (w.after op)

theorem events_of_quiet {w : Watch σ} {op : Operation} (same : Quiet w.session (w.session.after op)) :
    (w.after op).events = w.events := by
  simp [after, same.source, same.title, same.attempts]

theorem events_of_changed {w : Watch σ} {op : Operation} (change : Changed w.session (w.session.after op)) :
    (w.after op).events = .changed w.session.time :: w.events := by
  simp [after, change.other, change.attempts]

theorem events_of_tries {w : Watch σ} {op : Operation} (tries : w.Tries op) :
    (w.after op).events = .attempted :: w.events := by
  cases after_effect w.session op with
  | quiet _ same => exact absurd same.attempts tries
  | changed _ change => exact absurd change.attempts tries
  | attempted _ attempt => simp [after, attempt.source, attempt.title, attempt.attempts_ne]

theorem unwritten_of_tries {w : Watch σ} {op : Operation} (tries : w.Tries op) :
    (w.after op).unwritten? = none := by
  rw [unwritten?, events_of_tries tries]
  rfl

theorem changes_of_tries {w : Watch σ} {op : Operation} (tries : w.Tries op) :
    (w.after op).changes = w.changes := by
  rw [changes, changes, events_of_tries tries]
  rfl

/-- Changes are never taken back. -/
theorem changes_suffix_after (w : Watch σ) (op : Operation) : w.changes <:+ (w.after op).changes := by
  cases after_effect w.session op with
  | quiet _ same =>
    have kept : (w.after op).changes = w.changes := congrArg (List.filterMap Event.time?) (events_of_quiet same)
    exact kept ▸ List.suffix_rfl
  | changed _ change =>
    rw [changes, changes, events_of_changed change]
    exact List.suffix_cons _ _
  | attempted _ attempt =>
    have kept := changes_of_tries attempt.attempts_ne
    exact kept ▸ List.suffix_rfl

theorem changes_suffix_afterAll (w : Watch σ) (operations : List Operation) :
    w.changes <:+ (w.afterAll operations).changes := by
  induction operations generalizing w with
  | nil => exact List.suffix_rfl
  | cons op more ih => exact (changes_suffix_after w op).trans (ih (w.after op))

/-- Where a row changes nothing, neither its first operation does nor the others do. -/
theorem changes_cons {w : Watch σ} {op : Operation} {more : List Operation}
    (same : (w.afterAll (op :: more)).changes = w.changes) :
    (w.after op).changes = w.changes ∧ ((w.after op).afterAll more).changes = (w.after op).changes := by
  have first := changes_suffix_after w op
  have rest := changes_suffix_afterAll (w.after op) more
  rw [afterAll_cons] at same
  rw [same] at rest
  -- the row of changes has come back to its first length, so it never was longer in between
  have back : (w.after op).changes = w.changes :=
    rest.eq_of_length (Nat.le_antisymm rest.length_le first.length_le)
  exact ⟨back, same.trans back.symm⟩

/-! ## The deadline -/

theorem load_inStep (config : Config) (storage : σ) (location : Location) (time : Nat) :
    InStep config (load config storage location time) :=
  ⟨rfl, rfl, rfl, fun _ => rfl⟩

theorem after_inStep {config : Config} {w : Watch σ} (inStep : InStep config w) (op : Operation) :
    InStep config (w.after op) := by
  obtain ⟨keys, delay, deadline, saved⟩ := inStep
  cases after_effect w.session op with
  | quiet _ same =>
    have unwritten : (w.after op).unwritten? = w.unwritten? := by
      rw [unwritten?, unwritten?, events_of_quiet same]
    refine ⟨same.keys.trans keys, ?_, ?_, ?_⟩
    · exact (congrArg Autosave.delay same.autosave).trans delay
    · rw [unwritten]
      exact (congrArg Autosave.deadline same.autosave).trans deadline
    · rw [unwritten]
      exact fun status => saved (same.status.symm.trans status)
  | changed _ change =>
    have unwritten : (w.after op).unwritten? = some w.session.time := by
      rw [unwritten?, events_of_changed change]
      rfl
    refine ⟨change.keys.trans keys, ?_, ?_, ?_⟩
    · exact (congrArg Autosave.delay change.autosave).trans delay
    · rw [unwritten, ← delay]
      exact congrArg Autosave.deadline change.autosave
    · exact fun status => nomatch change.status.symm.trans status
  | attempted _ attempt =>
    have unwritten : (w.after op).unwritten? = none := unwritten_of_tries attempt.attempts_ne
    refine ⟨attempt.keys.trans keys, ?_, ?_, fun _ => unwritten⟩
    · exact (congrArg Autosave.delay attempt.autosave).trans delay
    · rw [unwritten]
      exact congrArg Autosave.deadline attempt.autosave

theorem afterAll_inStep {config : Config} {w : Watch σ} (inStep : InStep config w) (operations : List Operation) :
    InStep config (w.afterAll operations) := by
  induction operations generalizing w with
  | nil => exact inStep
  | cons op more ih => exact ih (after_inStep inStep op)

theorem tries_iff_asks {w : Watch σ} {op : Operation} : w.Tries op ↔ Asks w.session op := by
  cases after_effect w.session op with
  | quiet silent same => exact ⟨fun tries => absurd same.attempts tries, fun asks => absurd asks silent⟩
  | changed silent change => exact ⟨fun tries => absurd change.attempts tries, fun asks => absurd asks silent⟩
  | attempted asks attempt => exact ⟨fun _ => asks, fun _ => attempt.attempts_ne⟩

/-- A tick tries to write if something has changed since the last try, the latest change a whole delay ago. -/
theorem InStep.tries_iff {config : Config} {w : Watch σ} (inStep : InStep config w) (op : Operation) :
    w.Tries op ↔ op = .save ∨ (op = .flush ∧ w.session.status = .dirty) ∨
      (op = .tick ∧ ∃ changed, w.unwritten? = some changed ∧
        changed + config.editor.autosaveDelay ≤ w.session.time) := by
  rw [tries_iff_asks, Asks, inStep.isDue_iff]

theorem InStep.tick_writes {config : Config} {w : Watch σ} (inStep : InStep config w) (tries : w.Tries .tick) :
    ∃ written, w.session.tick.2.storage.attempts = w.session.storage.attempts ++ written ∧
      Writing config.storage w.session.source w.session.title written w.session.tick.1 := by
  rw [tries_iff_asks, asks_tick] at tries
  rw [← inStep.keys]
  exact (tick_attempted tries).written

theorem tick_of_not_tries {w : Watch σ} (idle : ¬w.Tries .tick) : w.session.tick = (false, w.session) := by
  rw [tries_iff_asks, asks_tick] at idle
  exact tick_of_early idle

/-! ## Rows of operations -/

/-- A row in which nothing is saved on demand, and after each operation of which the latest change is less
    than the delay ago. -/
def Burst (delay : Nat) (w : Watch σ) : List Operation → Prop
  | [] => True
  | op :: more =>
    op ≠ .save ∧ op ≠ .flush ∧
    (∃ changed ∈ (w.after op).changes.head?, (w.after op).session.time < changed + delay) ∧
    Burst delay (w.after op) more

/-- In a burst nothing is tried to be written, so what happens in it is changes only. -/
theorem InStep.burst {config : Config} {w : Watch σ} (inStep : InStep config w) {operations : List Operation}
    (burst : Burst config.editor.autosaveDelay w operations) :
    (w.afterAll operations).session.storage.attempts = w.session.storage.attempts ∧
      ∃ recent : List Nat, (w.afterAll operations).events = recent.map .changed ++ w.events := by
  induction operations generalizing w with
  | nil => exact ⟨rfl, [], rfl⟩
  | cons op more ih =>
    obtain ⟨noSave, noFlush, ⟨latest, last, soon⟩, rest⟩ := burst
    obtain ⟨attempts, recent, events⟩ := ih (after_inStep inStep op) rest
    cases after_effect w.session op with
    | quiet _ same =>
      rw [events_of_quiet same] at events
      exact ⟨attempts.trans same.attempts, recent, events⟩
    | changed _ change =>
      rw [events_of_changed change] at events
      refine ⟨attempts.trans change.attempts, recent ++ [w.session.time], ?_⟩
      rw [List.map_append, List.append_assoc]
      exact events
    | attempted asks attempt =>
      -- a tick that tries comes a whole delay after the latest change
      exfalso
      have tries : w.Tries op := tries_iff_asks.mpr asks
      rcases (inStep.tries_iff op).mp tries with save | ⟨flush, _⟩ | ⟨_, changed, waiting, due⟩
      · exact noSave save
      · exact noFlush flush
      · rw [changes_of_tries tries, changes_of_unwritten waiting] at last
        have time : (w.after op).session.time = w.session.time := attempt.time
        rw [time] at soon
        cases last
        omega

/-- Without a change nothing begins to wait for being written. -/
theorem unwritten_after {w : Watch σ} (none_ : w.unwritten? = none) {op : Operation}
    (same : (w.after op).changes = w.changes) : (w.after op).unwritten? = none := by
  cases after_effect w.session op with
  | quiet _ same => rwa [unwritten?, events_of_quiet same]
  | attempted _ attempt => exact unwritten_of_tries attempt.attempts_ne
  | changed _ change =>
    -- a change makes the row of changes longer
    have longer := congrArg List.length same
    rw [changes, changes, events_of_changed change] at longer
    exact absurd longer (Nat.succ_ne_self _)

theorem unwritten_afterAll {w : Watch σ} (none_ : w.unwritten? = none) {operations : List Operation}
    (same : (w.afterAll operations).changes = w.changes) : (w.afterAll operations).unwritten? = none := by
  induction operations generalizing w with
  | nil => exact none_
  | cons op more ih =>
    obtain ⟨first, rest⟩ := changes_cons same
    exact ih (unwritten_after none_ first) rest

/-- Where nothing waits for being written, nothing is, unless on demand or after a change. -/
theorem InStep.attempts_afterAll {config : Config} {w : Watch σ} (inStep : InStep config w)
    (none_ : w.unwritten? = none) {operations : List Operation}
    (unasked : ∀ op ∈ operations, op ≠ .save ∧ op ≠ .flush)
    (same : (w.afterAll operations).changes = w.changes) :
    (w.afterAll operations).session.storage.attempts = w.session.storage.attempts := by
  induction operations generalizing w with
  | nil => rfl
  | cons op more ih =>
    obtain ⟨first, rest⟩ := changes_cons same
    obtain ⟨⟨noSave, noFlush⟩, unasked⟩ := List.forall_mem_cons.mp unasked
    have silent : ¬w.Tries op := by
      rw [inStep.tries_iff]
      rintro (save | ⟨flush, _⟩ | ⟨_, _, waiting, _⟩)
      · exact noSave save
      · exact noFlush flush
      · exact nomatch none_.symm.trans waiting
    exact (ih (after_inStep inStep op) (unwritten_after none_ first) unasked rest).trans
      (Decidable.of_not_not silent)

/-- After a burst that changed something, a tick a whole delay after the latest change tries to write what
    came of it all. Nothing is tried before and, unless on demand or after a change, nothing behind. -/
theorem InStep.burst_written {config : Config} {w : Watch σ} (inStep : InStep config w)
    {operations : List Operation} (burst : Burst config.editor.autosaveDelay w operations)
    (changing : (w.afterAll operations).changes ≠ w.changes) :
    let b := w.afterAll operations
    ∃ latest, b.changes.head? = some latest ∧
      ∀ rest, latest + config.editor.autosaveDelay ≤ b.session.time + rest →
        let due := b.after (.wait rest)
        let tick := due.session.tick
        (∃ written, tick.2.storage.attempts = w.session.storage.attempts ++ written ∧
          Writing config.storage b.session.source b.session.title written tick.1) ∧
        ∀ more, (∀ op ∈ more, op ≠ .save ∧ op ≠ .flush) →
          ((due.after .tick).afterAll more).changes = b.changes →
          ((due.after .tick).afterAll more).session.storage.attempts = tick.2.storage.attempts := by
  intro b
  obtain ⟨attempts, recent, events⟩ := inStep.burst burst
  have waiting : ∃ latest, b.unwritten? = some latest := by
    cases recent with
    | nil => exact absurd (congrArg (List.filterMap Event.time?) events) changing
    | cons latest before =>
      refine ⟨latest, ?_⟩
      rw [unwritten?, events]
      rfl
  obtain ⟨latest, waiting⟩ := waiting
  refine ⟨latest, changes_of_unwritten waiting, ?_⟩
  intro rest passed due tick
  have dueInStep : InStep config due := after_inStep (afterAll_inStep inStep operations) _
  have quiet : due.events = b.events := events_of_quiet ⟨rfl, rfl, rfl, rfl, rfl, rfl⟩
  have still : due.unwritten? = some latest := by rwa [unwritten?, quiet]
  have tries : due.Tries .tick := (dueInStep.tries_iff .tick).mpr (.inr (.inr ⟨rfl, latest, still, passed⟩))
  obtain ⟨written, attempted, writing⟩ := dueInStep.tick_writes tries
  refine ⟨⟨written, ?_, writing⟩, ?_⟩
  · rw [attempted]
    exact congrArg (· ++ written) attempts
  · intro more unasked same
    refine (after_inStep dueInStep .tick).attempts_afterAll (unwritten_of_tries tries) unasked ?_
    rw [same, changes_of_tries tries, changes, changes, quiet]

/-- Between two ticks that try to write, something has changed. -/
theorem not_tries_twice {config : Config} {w : Watch σ} (inStep : InStep config w) (tries : w.Tries .tick)
    {more : List Operation} (same : ((w.after .tick).afterAll more).changes = w.changes) :
    ¬((w.after .tick).afterAll more).Tries .tick := by
  have none_ := unwritten_afterAll (unwritten_of_tries tries) (same.trans (changes_of_tries tries).symm)
  rw [(afterAll_inStep (after_inStep inStep .tick) more).tries_iff]
  rintro (save | ⟨flush, _⟩ | ⟨_, _, waiting, _⟩)
  · cases save
  · cases flush
  · exact nomatch none_.symm.trans waiting

/-- After any row of operations, a tick tries to write if and only if source or title has changed since a
    write was tried, by a tick that was due, a save or a flush of what had changed, and the latest change is
    a whole delay ago. It tries the source and, if that was written, the title, with what they are now, and
    says whether both were. A burst of changes is written once, as it ends; between two ticks that try,
    something has changed; and a session that is saved has no deadline. The record of the tries is only
    watched: the session is the one that the operations make over the storage itself. -/
theorem tick_tries_after_delay (config : Config) (storage : σ) (location : Location) (time : Nat)
    (operations : List Operation) :
    let delay := config.editor.autosaveDelay
    let w := (load config storage location time).afterAll operations
    let s := w.session
    s.unrecorded = (Session.load config storage location time).afterAll operations ∧
    (∀ op, w.Tries op ↔ op = .save ∨ (op = .flush ∧ s.status = .dirty) ∨
      (op = .tick ∧ ∃ changed, w.unwritten? = some changed ∧ changed + delay ≤ s.time)) ∧
    (w.Tries .tick → ∃ written, s.tick.2.storage.attempts = s.storage.attempts ++ written ∧
      Writing config.storage s.source s.title written s.tick.1) ∧
    (¬w.Tries .tick → s.tick = (false, s)) ∧
    (∀ burst, Burst delay w burst →
      let b := w.afterAll burst
      b.session.storage.attempts = s.storage.attempts ∧
      (b.changes ≠ w.changes → ∃ latest, b.changes.head? = some latest ∧
        ∀ rest, latest + delay ≤ b.session.time + rest →
          let due := b.after (.wait rest)
          let tick := due.session.tick
          (∃ written, tick.2.storage.attempts = s.storage.attempts ++ written ∧
            Writing config.storage b.session.source b.session.title written tick.1) ∧
          ∀ more, (∀ op ∈ more, op ≠ .save ∧ op ≠ .flush) →
            ((due.after .tick).afterAll more).changes = b.changes →
            ((due.after .tick).afterAll more).session.storage.attempts = tick.2.storage.attempts)) ∧
    (w.Tries .tick → ∀ more, ((w.after .tick).afterAll more).changes = w.changes →
      ¬((w.after .tick).afterAll more).Tries .tick) ∧
    (s.status = .saved → s.autosave.deadline = none) := by
  intro delay w s
  have inStep : InStep config w := afterAll_inStep (load_inStep config storage location time) operations
  have watched : s.unrecorded = (Session.load config storage location time).afterAll operations := by
    rw [← unrecorded_load, ← unrecorded_afterAll]
    exact congrArg unrecorded (session_afterAll _ operations)
  refine ⟨watched, inStep.tries_iff, inStep.tick_writes, tick_of_not_tries, ?_, ?_, ?_⟩
  · exact fun burst within => ⟨(inStep.burst within).1, inStep.burst_written within⟩
  · exact fun tries more => not_tries_twice inStep tries
  · intro saved
    rw [inStep.deadline, inStep.saved saved]
    rfl

end Watch

end DiagramStudio.Session
