import DiagramStudio.Proofs.Editing.Recorded

/-!
What is in storage when a session counts as saved. A slot keeps what was last written to it (`Slots`),
whichever writes fail. A session may count as saved before it has ever written, but once it has, a session
that counts as saved has source and title in their slots (`Stored`): whatever changes one of them makes the
session count as unsaved, and only writing both makes it count as saved again. A session that is opened over
the same slots begins with what is in them.

Where source and title share a slot, the title is in it, being written last. But a save that fails leaves the
session as saved as it was: one that is cut off between the two puts the source in the title's place, and the
session does not count as unsaved for it (`Torn`).
-/

namespace DiagramStudio

/-- Storage in which a slot keeps what was last written to it. Which slots cannot be written or read, and
    when, is up to the storage; a write that fails changes no slot. -/
class Slots (σ : Type) [Storage σ] where
  held : σ → (key : String) → Option String
  held_of_get {s : σ} {key : String} {value : Option String} :
    Storage.get s key = .ok value → held s key = value
  held_of_set {s after : σ} {key value : String} :
    Storage.set s key value = (.ok (), after) →
      ∀ other, held after other = if other = key then some value else held s other
  held_of_fault {s after : σ} {key value : String} {fault : StorageFault} :
    Storage.set s key value = (.error fault, after) → held after = held s

namespace MemoryStorage

theorem read_eq_ok {s : MemoryStorage} {key : String} {value : Option String} (read : s.read key = .ok value) :
    s.stored? key = value := by
  unfold MemoryStorage.read at read
  split at read
  · cases read
  · exact Except.ok.inj read

theorem write_eq_ok {s after : MemoryStorage} {key value : String} (written : s.write key value = (.ok (), after)) :
    entryFor? key s.writeFaults = none ∧
      after = { s with slots := withEntry key value s.slots, writes := s.writes + 1 } := by
  unfold write at written
  split at written
  · cases written
  · next sound => exact ⟨sound, (congrArg Prod.snd written).symm⟩

theorem write_eq_error {s after : MemoryStorage} {key value : String} {fault : StorageFault}
    (failed : s.write key value = (.error fault, after)) : after = s := by
  unfold write at failed
  split at failed
  · exact (congrArg Prod.snd failed).symm
  · cases failed

instance : Slots MemoryStorage where
  held := stored?
  held_of_get := read_eq_ok
  held_of_set written other := by
    obtain ⟨_, rfl⟩ := write_eq_ok written
    split
    · next same => exact same ▸ entryFor?_withEntry_self _ _ _
    · next ne => exact entryFor?_withEntry_of_ne ne _ _
  held_of_fault failed := by rw [write_eq_error failed]

end MemoryStorage

/-- Slots of which single writes fail, by a schedule that holds a fault for each of them that does. Behind its
    end they are done. -/
structure ScheduledStorage where
  slots : List (String × String) := []
  faults : List (Option StorageFault) := []

namespace ScheduledStorage

def write (s : ScheduledStorage) (key value : String) : Except StorageFault Unit × ScheduledStorage :=
  match s.faults with
  | some fault :: later => (.error fault, { s with faults := later })
  | _ => (.ok (), { slots := withEntry key value s.slots, faults := s.faults.tail })

instance : Storage ScheduledStorage where
  get s key := .ok (entryFor? key s.slots)
  set := write

instance : Slots ScheduledStorage where
  held s key := entryFor? key s.slots
  held_of_get read := Except.ok.inj read
  held_of_set {s after key value} written other := by
    change s.write key value = _ at written
    unfold write at written
    split at written
    · cases written
    · obtain ⟨-, rfl⟩ := Prod.mk.inj written
      split
      · next same => exact same ▸ entryFor?_withEntry_self _ _ _
      · next ne => exact entryFor?_withEntry_of_ne ne _ _
  held_of_fault {s after key value fault} failed := by
    change s.write key value = _ at failed
    unfold write at failed
    split at failed
    · obtain ⟨-, rfl⟩ := Prod.mk.inj failed
      rfl
    · cases failed

end ScheduledStorage

namespace Session

open Slots (held)

variable {σ : Type}

/-! ## What one operation does -/

/-- Nothing is written, and where source or title has become another one the session counts as unsaved. -/
structure LeavesSlots (s s' : Session σ) : Prop where
  storage : s'.storage = s.storage
  keys : s'.keys = s.keys
  saved : s'.status = .saved → s.status = .saved ∧ s'.source = s.source ∧ s'.title = s.title

theorem LeavesSlots.refl (s : Session σ) : LeavesSlots s s := ⟨rfl, rfl, fun saved => ⟨saved, rfl, rfl⟩⟩

theorem LeavesSlots.trans {s t u : Session σ} (first : LeavesSlots s t) (second : LeavesSlots t u) :
    LeavesSlots s u := by
  refine ⟨second.storage.trans first.storage, second.keys.trans first.keys, fun saved => ?_⟩
  obtain ⟨between, source, title⟩ := second.saved saved
  obtain ⟨before, source', title'⟩ := first.saved between
  exact ⟨before, source.trans source', title.trans title'⟩

theorem setText_leavesSlots (s : Session σ) (text : String) : LeavesSlots s (s.setText text).2 := by
  unfold setText
  split
  · exact .refl s
  · exact ⟨rfl, rfl, fun saved => by cases saved⟩

theorem replaceText_leavesSlots (s : Session σ) (text : String) : LeavesSlots s (s.replaceText text).2 := by
  unfold replaceText
  split
  · exact .refl s
  · exact ⟨rfl, rfl, fun saved => by cases saved⟩

theorem setTitle_leavesSlots (s : Session σ) (title : String) : LeavesSlots s (s.setTitle title).2 := by
  unfold setTitle
  split
  · exact .refl s
  · exact ⟨rfl, rfl, fun saved => by cases saved⟩

theorem travel_leavesSlots (s : Session σ) (goal : Option (String × History)) :
    LeavesSlots s (s.travel goal).2 := by
  rcases goal with _ | ⟨text, history⟩
  · exact .refl s
  · simp only [travel]
    split
    · exact ⟨rfl, rfl, fun saved => ⟨saved, rfl, rfl⟩⟩
    · exact ⟨rfl, rfl, fun saved => by cases saved⟩

theorem switch_leavesSlots (s : Session σ) (mode : ViewMode) : LeavesSlots s (s.switch mode).2 := by
  unfold switch
  split
  · exact .refl s
  · exact ⟨rfl, rfl, fun saved => ⟨saved, rfl, rfl⟩⟩

section

variable [Storage σ]

/-- The operation writes source and title, both. -/
def Writes (s : Session σ) : Operation → Prop
  | .tick => s.tick.1 = true
  | .flush => s.status = .dirty ∧ s.flush.1.isOk = true
  | .save => s.save.1.isOk = true
  | _ => False

/-- Saving is cut off between its two writes: the source is written and the title is not. -/
def CutOff (s : Session σ) : Prop :=
  ∃ between fault, Storage.set s.storage s.keys.codeKey s.source = (.ok (), between) ∧
    (Storage.set between s.keys.titleKey s.title).1 = .error fault

/-- The operation saves and is cut off. -/
def Tears (s : Session σ) : Operation → Prop
  | .tick => s.autosave.isDue s.time = true ∧ s.CutOff
  | .flush => s.status = .dirty ∧ s.CutOff
  | .save => s.CutOff
  | _ => False

/-- What an operation does to storage: nothing, or what saving does. -/
inductive Storing (s : Session σ) (op : Operation) : Prop where
  | leaves (idle : ¬s.Writes op) (whole : ¬s.Tears op) (left : LeavesSlots s (s.after op))
  | saves (same : s.after op = s.save.2) (writes : s.Writes op ↔ s.save.1.isOk = true) (tears : s.Tears op ↔ s.CutOff)

theorem after_storing (s : Session σ) (op : Operation) : Storing s op := by
  cases op with
  | setText text => exact .leaves id id (setText_leavesSlots s text)
  | replaceText text => exact .leaves id id (replaceText_leavesSlots s text)
  | setTitle title => exact .leaves id id (setTitle_leavesSlots s title)
  | clear => exact .leaves id id ((setText_leavesSlots s "").trans (setTitle_leavesSlots _ ""))
  | undo => exact .leaves id id (travel_leavesSlots s _)
  | redo => exact .leaves id id (travel_leavesSlots s _)
  | generate => exact .leaves id id (switch_leavesSlots s .viewer)
  | back => exact .leaves id id (switch_leavesSlots s .editor)
  | wait milliseconds => exact .leaves id id ⟨rfl, rfl, fun saved => ⟨saved, rfl, rfl⟩⟩
  | save => exact .saves rfl Iff.rfl Iff.rfl
  | flush =>
    cases status : s.status with
    | saved =>
      have same : s.after .flush = s := by simp [after, flush, status]
      refine .leaves (by simp [Writes, status]) (by simp [Tears, status]) ?_
      rw [same]
      exact .refl s
    | dirty =>
      exact .saves (by simp [after, flush, status]) (by simp [Writes, flush, status]) (and_iff_right status)
  | tick =>
    by_cases due : s.autosave.isDue s.time = true
    · exact .saves (by rw [after, tick_of_due due]) (by rw [Writes, tick_of_due due]) (and_iff_right due)
    · have idle : s.tick = (false, s) := tick_of_early due
      refine .leaves (by simp [Writes, idle]) (fun tears => due tears.1) ?_
      rw [after, idle]
      exact .refl s

theorem persist_keys (s : Session σ) : s.persist.2.keys = s.keys := by
  rcases source : Storage.set s.storage s.keys.codeKey s.source with ⟨fault | _, between⟩
  · rw [persist_of_source_fails source]
  · rcases title : Storage.set between s.keys.titleKey s.title with ⟨fault | _, storage⟩
    · rw [persist_of_title_fails source title]
    · rw [persist_of_complete source title]

theorem after_keys (s : Session σ) (op : Operation) : (s.after op).keys = s.keys := by
  cases after_storing s op with
  | leaves _ _ left => exact left.keys
  | saves same _ _ =>
    rw [same]
    exact persist_keys { s with autosave := s.autosave.cancel }

theorem CutOff.persist_fails {s : Session σ} (cut : s.CutOff) : s.persist.1.isOk = false := by
  obtain ⟨between, fault, source, title⟩ := cut
  rcases second : Storage.set between s.keys.titleKey s.title with ⟨_, storage⟩
  rw [second] at title
  subst title
  rw [persist_of_title_fails source second]
  rfl

theorem Writes.not_tears {s : Session σ} {op : Operation} (writes : s.Writes op) : ¬s.Tears op := by
  cases after_storing s op with
  | leaves idle _ _ => exact absurd writes idle
  | saves _ written tears =>
    intro torn
    have cut : CutOff { s with autosave := s.autosave.cancel } := tears.mp torn
    have fails : s.save.1.isOk = false := cut.persist_fails
    rw [written, fails] at writes
    cases writes

end

/-! ## What is in the slots -/

variable [Storage σ] [Slots σ]

/-- Source and title are each in their slot. In a slot that they share is the title, or the source if it is
    `torn`. -/
structure Kept (s : Session σ) (torn : Prop) : Prop where
  title : s.keys.codeKey ≠ s.keys.titleKey ∨ ¬torn → held s.storage s.keys.titleKey = some s.title
  source : s.keys.codeKey ≠ s.keys.titleKey ∨ torn → held s.storage s.keys.codeKey = some s.source

/-- No more counts for it than what the slots hold, their keys, and the two texts. -/
theorem Kept.congr {s s' : Session σ} {torn torn' : Prop} (kept : s.Kept torn)
    (slots : held s'.storage = held s.storage) (keys : s'.keys = s.keys) (source : s'.source = s.source)
    (title : s'.title = s.title) (same : torn' ↔ torn) : s'.Kept torn' := by
  refine ⟨?_, ?_⟩
  · rw [slots, keys, title, same]
    exact kept.title
  · rw [slots, keys, source, same]
    exact kept.source

/-- If the session counts as saved, source and title are in their slots. -/
def Stored (s : Session σ) (torn : Prop) : Prop := s.status = .saved → s.Kept torn

theorem LeavesSlots.stored {s s' : Session σ} {torn : Prop} (left : LeavesSlots s s') (stored : s.Stored torn) :
    s'.Stored torn := by
  intro saved
  obtain ⟨before, source, title⟩ := left.saved saved
  exact (stored before).congr (congrArg held left.storage) left.keys source title Iff.rfl

/-- Saving fails before the first slot is written, or between the two, or it writes both. -/
inductive Persisting (s : Session σ) : Prop where
  | nothing {fault : StorageFault} {storage : σ} (done : s.persist = (.error fault, { s with storage := storage }))
      (whole : ¬s.CutOff) (same : held storage = held s.storage)
  | source {fault : StorageFault} {storage : σ} (done : s.persist = (.error fault, { s with storage := storage }))
      (cut : s.CutOff)
      (slots : ∀ key, held storage key = if key = s.keys.codeKey then some s.source else held s.storage key)
  | both {storage : σ} (done : s.persist = (.ok (), { s with storage := storage, status := .saved }))
      (title : held storage s.keys.titleKey = some s.title)
      (source : s.keys.codeKey ≠ s.keys.titleKey → held storage s.keys.codeKey = some s.source)

theorem persist_persisting (s : Session σ) : Persisting s := by
  rcases source : Storage.set s.storage s.keys.codeKey s.source with ⟨fault | _, between⟩
  · refine .nothing (persist_of_source_fails source) ?_ (Slots.held_of_fault source)
    rintro ⟨_, _, written, _⟩
    cases source.symm.trans written
  · rcases title : Storage.set between s.keys.titleKey s.title with ⟨fault | _, storage⟩
    · refine .source (persist_of_title_fails source title) ⟨between, fault, source, by rw [title]⟩ fun key => ?_
      rw [Slots.held_of_fault title]
      exact Slots.held_of_set source key
    · refine .both (persist_of_complete source title) ?_ ?_
      · rw [Slots.held_of_set title, if_pos rfl]
      · intro apart
        rw [Slots.held_of_set title, if_neg apart, Slots.held_of_set source, if_pos rfl]

/-- A save that is cut off puts the source into its slot, be it the one that the title is in. -/
theorem persist_stored {s : Session σ} {torn : Prop} (stored : s.Stored torn ∨ s.persist.1.isOk = true) :
    s.persist.2.Stored (s.CutOff ∨ torn ∧ ¬s.persist.1.isOk = true) := by
  cases persist_persisting s with
  | @nothing fault _ done whole same =>
    rw [done] at stored ⊢
    rcases stored with stored | written
    · have flag : s.CutOff ∨ torn ∧ ¬(Except.error fault : Except StorageFault Unit).isOk = true ↔ torn :=
        ⟨fun torn => (torn.resolve_left whole).1, fun torn => .inr ⟨torn, Bool.false_ne_true⟩⟩
      exact fun saved => (stored saved).congr same rfl rfl rfl flag
    · cases written
  | source done cut slots =>
    rw [done] at stored ⊢
    rcases stored with stored | written
    · intro saved
      refine ⟨fun own => ?_, fun _ => ?_⟩
      · have apart : s.keys.codeKey ≠ s.keys.titleKey := own.resolve_right fun intact => intact (.inl cut)
        rw [slots, if_neg apart.symm]
        exact (stored saved).title (.inl apart)
      · rw [slots, if_pos rfl]
    · cases written
  | both done title source =>
    have whole : ¬s.CutOff := fun cut => by
      have fails := cut.persist_fails
      rw [done] at fails
      cases fails
    rw [done]
    refine fun _ => ⟨fun _ => title, fun own => source (own.resolve_right ?_)⟩
    rintro (cut | ⟨_, unwritten⟩)
    · exact whole cut
    · exact unwritten rfl

/-- The first write of both puts them into their slots, and there they stay for as long as the session
    counts as saved, unless a save of both to one slot is cut off. -/
theorem after_stored {s : Session σ} {op : Operation} {torn : Prop} (stored : s.Stored torn ∨ s.Writes op) :
    (s.after op).Stored (s.Tears op ∨ torn ∧ ¬s.Writes op) := by
  cases after_storing s op with
  | leaves idle whole left =>
    have same : (s.Tears op ∨ torn ∧ ¬s.Writes op) = torn := by
      simp only [idle, whole, not_false_eq_true, and_true, false_or]
    rw [same]
    exact left.stored (stored.resolve_right idle)
  | saves same writes tears =>
    have idle : LeavesSlots s { s with autosave := s.autosave.cancel } := ⟨rfl, rfl, fun saved => ⟨saved, rfl, rfl⟩⟩
    rw [same, tears, writes]
    exact persist_stored (stored.imp idle.stored writes.mp)

/-! ## Runs -/

/-- What happens to a session: an operation, or slots begin or cease to fail, whatever they hold. -/
inductive Step (σ : Type) [Storage σ] [Slots σ] where
  | operate (op : Operation)
  | turn (change : σ → σ) (same : ∀ storage, held (change storage) = held storage)

def step (s : Session σ) : Step σ → Session σ
  | .operate op => s.after op
  | .turn change _ => { s with storage := change s.storage }

def run (s : Session σ) (steps : List (Step σ)) : Session σ := steps.foldl step s

/-- In the course of the steps source and title are written, both. -/
def Written (s : Session σ) : List (Step σ) → Prop
  | [] => False
  | .operate op :: more => s.Writes op ∨ (s.after op).Written more
  | .turn change same :: more => (s.step (.turn change same)).Written more

/-- In the course of the steps a save is cut off, and after it the two are not written together again. -/
def Torn (s : Session σ) : List (Step σ) → Prop
  | [] => False
  | .operate op :: more => (s.after op).Torn more ∨ s.Tears op ∧ ¬(s.after op).Written more
  | .turn change same :: more => (s.step (.turn change same)).Torn more

theorem step_keys (s : Session σ) (event : Step σ) : (s.step event).keys = s.keys := by
  cases event with
  | operate op => exact after_keys s op
  | turn change same => rfl

theorem run_keys (s : Session σ) (steps : List (Step σ)) : (s.run steps).keys = s.keys := by
  induction steps generalizing s with
  | nil => rfl
  | cons event more ih => exact (ih (s.step event)).trans (step_keys s event)

theorem turn_stored {s : Session σ} {torn : Prop} (stored : s.Stored torn) {change : σ → σ}
    (same : ∀ storage, held (change storage) = held storage) : (s.step (.turn change same)).Stored torn := by
  exact fun saved => (stored saved).congr (same s.storage) rfl rfl rfl Iff.rfl

theorem run_stored {s : Session σ} {torn : Prop} {steps : List (Step σ)}
    (stored : s.Stored torn ∨ s.Written steps) : (s.run steps).Stored (s.Torn steps ∨ torn ∧ ¬s.Written steps) := by
  induction steps generalizing s torn with
  | nil =>
    have same : (s.Torn [] ∨ torn ∧ ¬s.Written []) = torn := by
      simp only [Torn, Written, not_false_eq_true, and_true, false_or]
    rw [same]
    exact stored.resolve_right id
  | cons event more ih =>
    cases event with
    | operate op =>
      have next : (s.after op).Stored (s.Tears op ∨ torn ∧ ¬s.Writes op) ∨ (s.after op).Written more := by
        rcases stored with stored | writes | written
        · exact .inl (after_stored (.inl stored))
        · exact .inl (after_stored (.inr writes))
        · exact .inr written
      have same : (s.Torn (.operate op :: more) ∨ torn ∧ ¬s.Written (.operate op :: more)) =
          ((s.after op).Torn more ∨ (s.Tears op ∨ torn ∧ ¬s.Writes op) ∧ ¬(s.after op).Written more) := by
        simp only [Torn, Written, not_or, or_and_right, or_assoc, and_assoc]
      rw [same]
      exact ih next
    | turn change same => exact ih (stored.imp_left fun stored => turn_stored stored same)

/-! ## Opening again -/

/-- A slot that can be read gives what it holds, unless that is empty. -/
theorem slot?_of_held {storage : σ} {key text : String} (readable : (Storage.get storage key).isOk = true)
    (holds : held storage key = some text) : slot? storage key = if text = "" then none else some text := by
  rcases read : Storage.get storage key with fault | value
  · rw [read] at readable
    cases readable
  · have value : value = some text := (Slots.held_of_get read).symm.trans holds
    simp only [slot?, read, value, String.isEmpty_iff]

omit [Slots σ] in
theorem initial_of_slots {keys : StorageConfig} {storage : σ} {location : Location} {source title : String}
    (noLink : (location.fragment.bind fun fragment => SharedState.decode? fragment.toList) = none)
    (code : slot? storage keys.codeKey = if source = "" then none else some source)
    (name : slot? storage keys.titleKey = if title = "" then none else some title) :
    initial keys storage location =
      (⟨if source = "" then defaultSource else source, if title = "" then defaultTitle else title, .editor⟩,
        if source = "" ∧ title = "" then .defaults else .storage) := by
  rw [initial, noLink]
  simp only [code, name]
  by_cases noSource : source = "" <;> by_cases noTitle : title = "" <;> simp [noSource, noTitle]

omit [Slots σ] in
theorem load_of_slots {config : Config} {storage : σ} {location : Location} {source title : String}
    (noLink : (location.fragment.bind fun fragment => SharedState.decode? fragment.toList) = none)
    (code : slot? storage config.storage.codeKey = if source = "" then none else some source)
    (name : slot? storage config.storage.titleKey = if title = "" then none else some title) (time : Nat) :
    let s := load config storage location time
    s.mode = .editor ∧ s.history.earlier = [] ∧ s.history.later = [] ∧
    s.source = (if source = "" then defaultSource else source) ∧
    s.title = (if title = "" then defaultTitle else title) ∧
    s.origin = (if source = "" ∧ title = "" then .defaults else .storage) := by
  simp only [load, initial_of_slots noLink code name, sync, and_self]

/-- Once source and title have been written together, a session that counts as saved has each of them in its
    slot, whatever has happened in between: edits, saves of which a part or nothing was written, and slots that
    fail at some times and not at others. In a slot that they share is the title, unless a save has been cut
    off since the two were last written together: then it is the source. A session that is opened over two
    slots without a link begins with them, or with the default of what is empty. -/
theorem saved_is_stored (config : Config) (storage : σ) (location : Location) (time : Nat) (steps : List (Step σ)) :
    let opened := load config storage location time
    let s := opened.run steps
    let codeKey := config.storage.codeKey
    let titleKey := config.storage.titleKey
    opened.Written steps → s.status = .saved →
    (codeKey = titleKey →
      (¬opened.Torn steps → held s.storage titleKey = some s.title) ∧
      (opened.Torn steps → held s.storage titleKey = some s.source)) ∧
    (codeKey ≠ titleKey →
      held s.storage titleKey = some s.title ∧
      held s.storage codeKey = some s.source ∧
      ∀ (config' : Config) (location' : Location) (time' : Nat),
        config'.storage = config.storage →
        (location'.fragment.bind fun fragment => SharedState.decode? fragment.toList) = none →
        (∀ key ∈ [codeKey, titleKey], (Storage.get s.storage key).isOk = true) →
        let again := load config' s.storage location' time'
        again.mode = .editor ∧ again.history.earlier = [] ∧ again.history.later = [] ∧
        again.source = (if s.source = "" then defaultSource else s.source) ∧
        again.title = (if s.title = "" then defaultTitle else s.title) ∧
        again.origin = (if s.source = "" ∧ s.title = "" then .defaults else .storage)) := by
  intro opened s codeKey titleKey written saved
  have keys : s.keys = config.storage := run_keys opened steps
  -- Nothing is asked of the slots of a session that was opened: what was written since has put both into them.
  have stored : s.Stored (opened.Torn steps ∨ False ∧ ¬opened.Written steps) := run_stored (.inr written)
  obtain ⟨title, source⟩ := stored saved
  simp only [keys, false_and, or_false] at title source
  refine ⟨fun shared => ⟨fun whole => title (.inr whole), fun torn => ?_⟩, fun apart => ?_⟩
  · have source := source (.inr torn)
    rwa [show config.storage.codeKey = titleKey from shared] at source
  · have title := title (.inl apart)
    have source := source (.inl apart)
    refine ⟨title, source, ?_⟩
    intro config' location' time' sameKeys noLink readable
    have code := slot?_of_held (readable codeKey (by simp)) source
    have name := slot?_of_held (readable titleKey (by simp)) title
    have keys' : config'.storage.codeKey = codeKey ∧ config'.storage.titleKey = titleKey := by
      simp [sameKeys, codeKey, titleKey]
    rw [← keys'.1] at code
    rw [← keys'.2] at name
    exact load_of_slots noLink code name time'

/-- A tick whose title is not written, a save, then a save whose title is not written and a flush of both. -/
theorem saved_is_stored_after_torn_saves :
    let config : Config := {}
    let opened := load config (default : MemoryStorage) {} 0
    let fails : Step MemoryStorage := .turn (·.failing config.storage.titleKey (some (.io .noSpace))) fun _ => rfl
    let works : Step MemoryStorage := .turn (·.failing config.storage.titleKey none) fun _ => rfl
    let before := [.operate (.setText "pie"), fails, .operate (.wait 1000), .operate .tick, works]
    let later := [.operate (.setTitle ""), .operate (.setText "gantt"), fails, .operate .save, .operate .undo, works,
      .operate .flush]
    let s := opened.run (before ++ .operate .save :: later)
    opened.Written (before ++ .operate .save :: later) ∧ s.status = .saved ∧
    held s.storage config.storage.titleKey = some s.title ∧ held s.storage config.storage.codeKey = some s.source ∧
    (load config s.storage {} 0).title = defaultTitle := by
  intro config opened fails works before later s
  have saves : (opened.run before).save.1.isOk = true := by decide +kernel
  have written : opened.Written (before ++ .operate .save :: later) := .inr (.inr (.inr (.inl saves)))
  have saved : s.status = .saved := by decide +kernel
  have apart : config.storage.codeKey ≠ config.storage.titleKey := by decide
  obtain ⟨title, source, again⟩ := (saved_is_stored config default {} 0 _ written saved).2 apart
  have readable : ∀ key ∈ [config.storage.codeKey, config.storage.titleKey],
      (Storage.get s.storage key).isOk = true := by decide +kernel
  obtain ⟨_, _, _, _, shown, _⟩ := again config {} 0 rfl rfl readable
  have untitled : s.title = "" := by decide +kernel
  exact ⟨written, saved, title, source, shown.trans (if_pos untitled)⟩

/-- One slot for both: they are written, and a second save is cut off after the source. The session counts as
    saved as before, and its title is not in storage. -/
theorem not_stored_of_shared_slot :
    let config : Config := { storage := { codeKey := "diagram", titleKey := "diagram" } }
    let storage : ScheduledStorage := { faults := [none, none, none, some (.io .noSpace)] }
    let opened := load config storage {} 0
    let steps : List (Step ScheduledStorage) := [.setText "pie", .setTitle "T", .save, .save].map .operate
    let s := opened.run steps
    opened.Written steps ∧ s.status = .saved ∧ s.title = "T" ∧
    held s.storage config.storage.titleKey = some "pie" := by
  intro config storage opened steps s
  have saves : ((opened.setText "pie").2.setTitle "T").2.save.1.isOk = true := by decide +kernel
  exact ⟨.inr (.inr (.inl saves)), by decide +kernel, by decide +kernel, by decide +kernel⟩

end Session

end DiagramStudio
