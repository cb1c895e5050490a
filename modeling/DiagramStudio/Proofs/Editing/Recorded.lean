import DiagramStudio.Proofs.Editing.Operation

/-!
Storage that keeps a record of what was written to it, or tried to be. A session over it does what it does
over the storage itself (`unrecorded_after`), so that a record shows of any run which writes were tried;
which of them fail, and when, is up to the storage. A session that is saved tries its source and, if that
was written, its title, each once (`Writing`).
-/

namespace DiagramStudio

/-- One try to write a value under a key. -/
structure Attempt where
  key : String
  value : String
  succeeded : Bool
deriving Repr, DecidableEq

/-- Storage with a record of all tries to write, the earliest first. -/
structure Recorded (σ : Type) where
  storage : σ
  attempts : List Attempt := []

variable {σ : Type}

instance [Storage σ] : Storage (Recorded σ) where
  get r key := Storage.get r.storage key
  set r key value :=
    let (result, storage) := Storage.set r.storage key value
    (result, ⟨storage, r.attempts ++ [⟨key, value, result.isOk⟩]⟩)

theorem set_recorded [Storage σ] {r : Recorded σ} {key value : String} {result : Except StorageFault Unit}
    {storage : σ} (done : Storage.set r.storage key value = (result, storage)) :
    Storage.set r key value = (result, ⟨storage, r.attempts ++ [⟨key, value, result.isOk⟩]⟩) := by
  simp only [Storage.set, done]

/-- What is tried when source and title are saved, and whether all of it was written. -/
inductive Writing (keys : StorageConfig) (source title : String) : List Attempt → Bool → Prop where
  | sourceFails : Writing keys source title [⟨keys.codeKey, source, false⟩] false
  | titleFails :
    Writing keys source title [⟨keys.codeKey, source, true⟩, ⟨keys.titleKey, title, false⟩] false
  | complete : Writing keys source title [⟨keys.codeKey, source, true⟩, ⟨keys.titleKey, title, true⟩] true

theorem Writing.ne_nil {keys : StorageConfig} {source title : String} {written : List Attempt} {success : Bool}
    (writing : Writing keys source title written success) : written ≠ [] := by
  cases writing <;> exact List.cons_ne_nil _ _

namespace Session

/-- The session over the storage itself. -/
def unrecorded (s : Session (Recorded σ)) : Session σ := { s with storage := s.storage.storage }

/-! ## A record changes nothing -/

theorem unrecorded_setText (s : Session (Recorded σ)) (text : String) :
    Prod.map id unrecorded (s.setText text) = s.unrecorded.setText text := by
  by_cases same : text = s.source <;> simp [setText, unrecorded, same, withSource, touch, sync, token, shared]

theorem unrecorded_replaceText (s : Session (Recorded σ)) (text : String) :
    Prod.map id unrecorded (s.replaceText text) = s.unrecorded.replaceText text := by
  by_cases same : text = s.source <;> simp [replaceText, unrecorded, same, withSource, touch, sync, token, shared]

theorem unrecorded_setTitle (s : Session (Recorded σ)) (title : String) :
    Prod.map id unrecorded (s.setTitle title) = s.unrecorded.setTitle title := by
  by_cases same : title = s.title <;> simp [setTitle, unrecorded, same, touch, sync, token, shared]

theorem unrecorded_travel (s : Session (Recorded σ)) (goal : Option (String × History)) :
    Prod.map id unrecorded (s.travel goal) = s.unrecorded.travel goal := by
  rcases goal with _ | ⟨text, history⟩
  · rfl
  · by_cases same : text = s.source <;> simp [travel, unrecorded, same, withSource, touch, sync, token, shared]

theorem unrecorded_switch (s : Session (Recorded σ)) (mode : ViewMode) :
    Prod.map id unrecorded (s.switch mode) = s.unrecorded.switch mode := by
  by_cases same : s.mode = mode <;> simp [switch, unrecorded, same, sync, token, shared]

variable [Storage σ]

/-- A session begins the same, with or without a record. -/
theorem unrecorded_load (config : Config) (storage : σ) (location : Location) (time : Nat) :
    (load config (⟨storage, []⟩ : Recorded σ) location time).unrecorded = load config storage location time := rfl

theorem persist_of_source_fails {s : Session σ} {fault : StorageFault} {storage : σ}
    (source : Storage.set s.storage s.keys.codeKey s.source = (.error fault, storage)) :
    s.persist = (.error fault, { s with storage := storage }) := by
  simp only [persist, source]

theorem persist_of_title_fails {s : Session σ} {fault : StorageFault} {between storage : σ}
    (source : Storage.set s.storage s.keys.codeKey s.source = (.ok (), between))
    (title : Storage.set between s.keys.titleKey s.title = (.error fault, storage)) :
    s.persist = (.error fault, { s with storage := storage }) := by
  simp only [persist, source, title]

theorem persist_of_complete {s : Session σ} {between storage : σ}
    (source : Storage.set s.storage s.keys.codeKey s.source = (.ok (), between))
    (title : Storage.set between s.keys.titleKey s.title = (.ok (), storage)) :
    s.persist = (.ok (), { s with storage := storage, status := .saved }) := by
  simp only [persist, source, title]

/-- Saving tries what has to be written, and only if all of it was written the session is a saved one.
    To the storage itself it does the same. -/
theorem persist_writing (s : Session (Recorded σ)) :
    ∃ written, Writing s.keys s.source s.title written s.persist.1.isOk ∧
      s.persist.2 = { s with
        storage := ⟨s.persist.2.storage.storage, s.storage.attempts ++ written⟩
        status := if s.persist.1.isOk then .saved else s.status } ∧
      s.unrecorded.persist = Prod.map id unrecorded s.persist := by
  rcases source : Storage.set s.storage.storage s.keys.codeKey s.source with ⟨fault | _, between⟩
  · rw [persist_of_source_fails (set_recorded source), persist_of_source_fails (s := s.unrecorded) source]
    exact ⟨_, .sourceFails, rfl, rfl⟩
  · rcases title : Storage.set between s.keys.titleKey s.title with ⟨fault | _, storage⟩
    · rw [persist_of_title_fails (set_recorded source) (set_recorded title),
        persist_of_title_fails (s := s.unrecorded) source title, List.append_assoc]
      exact ⟨_, .titleFails, rfl, rfl⟩
    · rw [persist_of_complete (set_recorded source) (set_recorded title),
        persist_of_complete (s := s.unrecorded) source title, List.append_assoc]
      exact ⟨_, .complete, rfl, rfl⟩

theorem unrecorded_save (s : Session (Recorded σ)) : Prod.map id unrecorded s.save = s.unrecorded.save := by
  obtain ⟨_, _, _, same⟩ := persist_writing { s with autosave := s.autosave.cancel }
  exact same.symm

theorem unrecorded_flush (s : Session (Recorded σ)) : Prod.map id unrecorded s.flush = s.unrecorded.flush := by
  by_cases saved : s.status = .saved
  · simp [flush, unrecorded, saved]
  · simp [flush, show s.unrecorded.status ≠ .saved from saved, saved, unrecorded_save]

theorem tick_of_due {s : Session σ} (due : s.autosave.isDue s.time = true) :
    s.tick = (s.save.1.isOk, s.save.2) := by
  rw [tick, if_pos due]
  rcases s.save with ⟨fault | _, _⟩ <;> rfl

theorem tick_of_early {s : Session σ} (early : ¬s.autosave.isDue s.time = true) : s.tick = (false, s) :=
  if_neg early

theorem unrecorded_tick (s : Session (Recorded σ)) : Prod.map id unrecorded s.tick = s.unrecorded.tick := by
  by_cases due : s.autosave.isDue s.time
  · rw [tick_of_due due, tick_of_due (s := s.unrecorded) due, ← unrecorded_save]
    rfl
  · rw [tick_of_early due, tick_of_early (s := s.unrecorded) due]
    rfl

theorem unrecorded_after (s : Session (Recorded σ)) (op : Operation) :
    (s.after op).unrecorded = s.unrecorded.after op := by
  cases op with
  | setText text => exact congrArg Prod.snd (unrecorded_setText s text)
  | replaceText text => exact congrArg Prod.snd (unrecorded_replaceText s text)
  | setTitle title => exact congrArg Prod.snd (unrecorded_setTitle s title)
  | clear =>
    have source : (s.setText "").2.unrecorded = (s.unrecorded.setText "").2 :=
      congrArg Prod.snd (unrecorded_setText s "")
    have title := congrArg Prod.snd (unrecorded_setTitle (s.setText "").2 "")
    rw [source] at title
    exact title
  | undo => exact congrArg Prod.snd (unrecorded_travel s _)
  | redo => exact congrArg Prod.snd (unrecorded_travel s _)
  | generate => exact congrArg Prod.snd (unrecorded_switch s .viewer)
  | back => exact congrArg Prod.snd (unrecorded_switch s .editor)
  | tick => exact congrArg Prod.snd (unrecorded_tick s)
  | flush => exact congrArg Prod.snd (unrecorded_flush s)
  | save => exact congrArg Prod.snd (unrecorded_save s)
  | wait milliseconds => rfl

theorem unrecorded_afterAll (s : Session (Recorded σ)) (operations : List Operation) :
    (s.afterAll operations).unrecorded = s.unrecorded.afterAll operations := by
  induction operations generalizing s with
  | nil => rfl
  | cons op more ih => rw [afterAll_cons, ih, unrecorded_after, afterAll_cons]

end Session

end DiagramStudio
