import DiagramStudio.Proofs.Editing.Saving
import DiagramStudio.Proofs.Editing.Stored

/-!
Saving that fails. Whatever was written of it, the session counts afterwards as it did before
(`Fails.after_eq`). A tick that is due and a flush that writes only ever begin where something is unsaved
(`Pending`), so what they fail to write stays unsaved until it is written. Saving on demand begins anywhere: on
a session that counts as saved, be it a linked one that has never been written, it fails without a trace
in the status, and a flush behind it does nothing.
-/

namespace DiagramStudio

theorem MemoryStorage.write_of_sound {s : MemoryStorage} {key : String} (sound : entryFor? key s.writeFaults = none)
    (value : String) :
    s.write key value = (.ok (), { s with slots := withEntry key value s.slots, writes := s.writes + 1 }) := by
  simp only [write, sound]

namespace Session

open Slots (held)

variable {σ : Type}

/-! ## What happens to a session -/

/-- An operation, or the storage becomes another one: with other slots in it, or with others that fail. -/
inductive Happening (σ : Type) where
  | operate (op : Operation)
  | exchange (storage : σ)

variable [Storage σ]

def happen (s : Session σ) : Happening σ → Session σ
  | .operate op => s.after op
  | .exchange storage => { s with storage := storage }

def live (s : Session σ) (happenings : List (Happening σ)) : Session σ := happenings.foldl happen s

/-- The operation tries to write source and title and does not write both. -/
def Fails (s : Session σ) (op : Operation) : Prop := s.Asks op ∧ ¬s.Writes op

/-- In the course of what happens nothing that is tried is written to its end. -/
def Unwritten (s : Session σ) : List (Happening σ) → Prop
  | [] => True
  | .operate op :: more => ¬s.Writes op ∧ (s.after op).Unwritten more
  | .exchange storage :: more => ({ s with storage := storage } : Session σ).Unwritten more

/-! ## What is due is unsaved -/

/-- A session that is to be saved by itself counts as unsaved. -/
def Pending (s : Session σ) : Prop := s.autosave.deadline ≠ none → s.status = .dirty

/-- A record of the tries may be thought of behind any session. -/
theorem exists_effect (s : Session σ) (op : Operation) :
    ∃ r : Session (Recorded σ), r.unrecorded = s ∧ (r.after op).unrecorded = s.after op ∧ Effect r op (r.after op) := by
  let r : Session (Recorded σ) := { s with storage := ⟨s.storage, []⟩ }
  have same : r.unrecorded = s := rfl
  exact ⟨r, same, by rw [unrecorded_after, same], after_effect r op⟩

theorem after_pending {s : Session σ} (pending : s.Pending) (op : Operation) : (s.after op).Pending := by
  obtain ⟨r, rfl, same, effect⟩ := exists_effect s op
  rw [← same]
  cases effect with
  | quiet _ quiet =>
    intro due
    have waiting : r.unrecorded.autosave.deadline ≠ none := by
      rwa [← show (r.after op).autosave = r.unrecorded.autosave from quiet.autosave]
    exact quiet.status.trans (pending waiting)
  | changed _ change => exact fun _ => change.status
  | attempted _ attempt => exact fun due => absurd (congrArg Autosave.deadline attempt.autosave) due

theorem happen_pending {s : Session σ} (pending : s.Pending) (happening : Happening σ) :
    (s.happen happening).Pending := by
  cases happening with
  | operate op => exact after_pending pending op
  | exchange storage => exact pending

theorem live_pending {s : Session σ} (pending : s.Pending) (happenings : List (Happening σ)) :
    (s.live happenings).Pending := by
  induction happenings generalizing s with
  | nil => exact pending
  | cons happening more ih => exact ih (happen_pending pending happening)

omit [Storage σ] in
theorem Pending.dirty_of_due {s : Session σ} (pending : s.Pending) (due : s.autosave.isDue s.time = true) :
    s.status = .dirty := by
  refine pending fun none_ => ?_
  simp [Autosave.isDue, none_] at due

theorem live_keys (s : Session σ) (happenings : List (Happening σ)) : (s.live happenings).keys = s.keys := by
  induction happenings generalizing s with
  | nil => rfl
  | cons happening more ih =>
    refine (ih (s.happen happening)).trans ?_
    cases happening with
    | operate op => exact after_keys s op
    | exchange storage => rfl

/-! ## One save that fails -/

/-- A save that fails leaves nothing behind but what it did to storage and that nothing is due. -/
theorem save_of_fails {s : Session σ} (fails : s.save.1.isOk = false) :
    s.save.2 = { s with storage := s.save.2.storage, autosave := s.autosave.cancel } := by
  let idle : Session σ := { s with autosave := s.autosave.cancel }
  have saves : s.save = idle.persist := rfl
  rw [saves] at fails ⊢
  rcases source : Storage.set idle.storage idle.keys.codeKey idle.source with ⟨fault | _, between⟩
  · rw [persist_of_source_fails source]
  · rcases title : Storage.set between idle.keys.titleKey idle.title with ⟨fault | _, storage⟩
    · rw [persist_of_title_fails source title]
    · rw [persist_of_complete source title] at fails
      cases fails

/-- An operation that tries to write does what a save on demand does. -/
theorem Asks.after_eq {s : Session σ} {op : Operation} (asks : s.Asks op) :
    s.after op = s.save.2 ∧ (s.Writes op ↔ s.save.1.isOk = true) := by
  rcases asks with rfl | ⟨rfl, dirty⟩ | ⟨rfl, due⟩
  · exact ⟨rfl, Iff.rfl⟩
  · simp [after, Writes, flush, dirty]
  · simp [after, Writes, tick_of_due due]

theorem Fails.after_eq {s : Session σ} {op : Operation} (fails : s.Fails op) :
    s.after op = { s with storage := (s.after op).storage, autosave := s.autosave.cancel } := by
  obtain ⟨asks, unwritten⟩ := fails
  obtain ⟨same, writes⟩ := asks.after_eq
  rw [same]
  exact save_of_fails (Bool.eq_false_iff.mpr (mt writes.mpr unwritten))

theorem Tears.fails {s : Session σ} {op : Operation} (tears : s.Tears op) : s.Fails op := by
  refine ⟨?_, fun writes => writes.not_tears tears⟩
  cases op with
  | tick => exact .inr (.inr ⟨rfl, tears.1⟩)
  | flush => exact .inr (.inl ⟨rfl, tears.1⟩)
  | save => exact .inl rfl
  | _ => exact tears.elim

/-- Only a save on demand can fail on a session that counts as saved. -/
theorem Fails.save_of_saved {s : Session σ} {op : Operation} (fails : s.Fails op) (pending : s.Pending)
    (saved : s.status = .saved) : op = .save := by
  rcases fails.1 with save | ⟨_, dirty⟩ | ⟨_, due⟩
  · exact save
  · cases saved.symm.trans dirty
  · cases saved.symm.trans (pending.dirty_of_due due)

/-! ## Unsaved until written -/

theorem after_dirty {s : Session σ} {op : Operation} (dirty : s.status = .dirty) (unwritten : ¬s.Writes op) :
    (s.after op).status = .dirty := by
  by_cases asks : s.Asks op
  · have fails : s.Fails op := ⟨asks, unwritten⟩
    rw [fails.after_eq]
    exact dirty
  · obtain ⟨r, rfl, same, effect⟩ := exists_effect s op
    rw [← same]
    cases effect with
    | quiet _ quiet => exact quiet.status.trans dirty
    | changed _ change => exact change.status
    | attempted tried _ => exact absurd tried asks

theorem live_dirty {s : Session σ} (dirty : s.status = .dirty) {happenings : List (Happening σ)}
    (unwritten : s.Unwritten happenings) : (s.live happenings).status = .dirty := by
  induction happenings generalizing s with
  | nil => exact dirty
  | cons happening more ih =>
    cases happening with
    | operate op => exact ih (after_dirty dirty unwritten.1) unwritten.2
    | exchange storage => exact ih (s := { s with storage := storage }) dirty unwritten

theorem flush_of_saved {s : Session σ} (saved : s.status = .saved) : s.flush = (.ok (), s) := if_pos saved

/-- A flush of what is unsaved writes the source and the title that there are now. -/
theorem flush_of_dirty {s : Session σ} {between storage : σ} (dirty : s.status = .dirty)
    (source : Storage.set s.storage s.keys.codeKey s.source = (.ok (), between))
    (title : Storage.set between s.keys.titleKey s.title = (.ok (), storage)) :
    s.flush = (.ok (), { s with storage := storage, autosave := s.autosave.cancel, status := .saved }) := by
  rw [flush, if_neg (by simp [dirty]), save]
  exact persist_of_complete (s := { s with autosave := s.autosave.cancel }) source title

/-! ## Reachable sessions -/

/-- Whatever has happened to a session, a tick, a flush or a save that tries to write and fails changes
    nothing in it but storage and that nothing is due; being cut off between the two slots is a case of it. If
    the session counted as unsaved it goes on to do so whatever happens, until all is written, and the first
    flush under which both writes succeed does them with the source and the title of that time. If it counted
    as saved the operation was a save on demand, and it counts as saved still: a flush then does nothing, over
    any storage. So what failed is told as unsaved exactly where something was unsaved before. -/
theorem failing_keeps_unsaved (config : Config) (storage : σ) (location : Location) (time : Nat)
    (before : List (Happening σ)) (op : Operation) :
    let s := (load config storage location time).live before
    let failed := s.after op
    (s.Tears op → s.Fails op) ∧
    (s.Fails op →
      failed = { s with storage := failed.storage, autosave := s.autosave.cancel } ∧
      (failed.status = .dirty ↔ s.status = .dirty) ∧
      (s.status = .dirty → ∀ later, failed.Unwritten later →
        let t := failed.live later
        t.status = .dirty ∧
        ∀ between written, Storage.set t.storage config.storage.codeKey t.source = (.ok (), between) →
          Storage.set between config.storage.titleKey t.title = (.ok (), written) →
          t.flush = (.ok (), { t with storage := written, autosave := t.autosave.cancel, status := .saved })) ∧
      (s.status = .saved → op = .save ∧ ∀ working : σ,
        let t : Session σ := { failed with storage := working }
        t.flush = (.ok (), t))) := by
  intro s failed
  refine ⟨Tears.fails, fun fails => ?_⟩
  have pending : s.Pending := live_pending (fun due => absurd rfl due) before
  have same : failed = { s with storage := failed.storage, autosave := s.autosave.cancel } := fails.after_eq
  have status : failed.status = s.status := congrArg (·.status) same
  refine ⟨same, by rw [status], ?_, ?_⟩
  · intro dirty later unwritten t
    have still : t.status = .dirty := live_dirty (status.trans dirty) unwritten
    have keys : t.keys = config.storage :=
      (live_keys failed later).trans ((after_keys s op).trans (live_keys _ before))
    refine ⟨still, fun between written source title => ?_⟩
    rw [← keys] at source title
    exact flush_of_dirty still source title
  · intro saved
    exact ⟨fails.save_of_saved pending saved, fun working => flush_of_saved (status.trans saved)⟩

/-- Slots in memory fail by their keys. -/
theorem cutOff_of_memory {s : Session MemoryStorage} (fault : StorageFault)
    (source : entryFor? s.keys.codeKey s.storage.writeFaults = none)
    (title : entryFor? s.keys.titleKey s.storage.writeFaults = some fault) : s.CutOff :=
  ⟨_, fault, MemoryStorage.write_of_sound source _, by simp [Storage.set, MemoryStorage.write, title]⟩

/-- A tick whose title is not written, another title, a flush that fails, and one once the slot can be written. -/
theorem failing_keeps_unsaved_cut_off :
    let config : Config := {}
    let broken := (default : MemoryStorage).failing config.storage.titleKey (some (.io .noSpace))
    let before := [.operate (.setText "pie"), .exchange broken, .operate (.wait 1000)]
    let s := (load config (default : MemoryStorage) {} 0).live before
    let later := [.operate (.setTitle "Shares"), .operate .flush, .exchange (broken.failing config.storage.titleKey none)]
    let t := (s.after .tick).live later
    s.Tears .tick ∧ s.Fails .tick ∧ t.status = .dirty ∧ t.flush.2.status = .saved ∧
    held t.flush.2.storage config.storage.codeKey = some "pie" ∧
    held t.flush.2.storage config.storage.titleKey = some "Shares" := by
  intro config broken before s later t
  have tears : s.Tears .tick :=
    ⟨by decide +kernel, cutOff_of_memory (.io .noSpace) (by decide +kernel) (by decide +kernel)⟩
  obtain ⟨fails, after⟩ := failing_keeps_unsaved config default {} 0 before .tick
  obtain ⟨_, _, unsaved, _⟩ := after (fails tears)
  have unwritten : (s.after .tick).Unwritten later :=
    ⟨id, fun writes => absurd writes.2 (by decide +kernel), trivial⟩
  obtain ⟨dirty, flushed⟩ := unsaved (by decide +kernel) later unwritten
  have saved := flushed _ _ (MemoryStorage.write_of_sound (by decide +kernel) _)
    (MemoryStorage.write_of_sound (by decide +kernel) _)
  refine ⟨tears, fails tears, dirty, by rw [saved], by decide +kernel, by decide +kernel⟩

/-- A linked session whose title slot fails: a save is cut off, the session counts as saved, and a flush once the
    slot can be written again leaves the title unwritten. -/
theorem not_unsaved_of_link :
    let config : Config := {}
    let broken := (default : MemoryStorage).failing config.storage.titleKey (some (.io .noSpace))
    let link := String.ofList (SharedState.mk "pie" "Shares" .editor).encode
    let s := load config broken (.withFragment link) 0
    let failed := s.after .save
    let t := { failed with storage := failed.storage.failing config.storage.titleKey none }
    s.title = "Shares" ∧ s.Tears .save ∧ s.Fails .save ∧ failed.status ≠ .dirty ∧
    held failed.storage config.storage.codeKey = some "pie" ∧
    t.flush = (.ok (), t) ∧ held t.storage config.storage.titleKey = none := by
  intro config broken link s failed t
  have tears : s.Tears .save := cutOff_of_memory (.io .noSpace) (by decide +kernel) (by decide +kernel)
  have saved : failed.status = .saved := by decide +kernel
  refine ⟨by decide +kernel, tears, tears.fails, by simp [saved], by decide +kernel, flush_of_saved saved, by decide +kernel⟩

end Session

end DiagramStudio
