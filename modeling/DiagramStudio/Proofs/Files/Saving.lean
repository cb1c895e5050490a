import DiagramStudio.Proofs.Editing.Stored
import DiagramStudio.Proofs.Files.Slots

/-!
Saving to a session file. Where the file can be used (`Usable`), a value that is to be written is written, and the
slots are what they were with that value under its key (`Saves.set`): a session that was saved is what later
sessions begin with (`Saves.persist`). Whatever the session file holds, and whether it can be used or
not, all that saving makes or changes is that file and the directories on its way (`persist_leaves`), so a
file beside it is left as it is (`persist_beside`).
-/

namespace DiagramStudio.SessionFile

open Text (Utf8.encode)

/-- The file system with the directories of the session file in it, as far as they can be made. -/
def prepared (f : SessionFile) : Disk := (f.disk.makeDirectories f.directory).2

theorem extended_prepared (f : SessionFile) : f.disk.Extended f.prepared :=
  Disk.extended_makeDirectories f.disk f.directory

/-! ## Files beside it -/

/-- What stands at a place is not the session file. -/
def IsApart (f : SessionFile) (place : Place) : Prop :=
  ∀ goal, f.prepared.fileAt f.path = .ok goal → ¬ f.prepared.Shares goal place

variable {f f' f'' : SessionFile} {path : List Char} {place : Place} {bytes : List UInt8}

/-- Nothing of the file system has gone, and what stands at the place is kept there. -/
structure Leaves (f f' : SessionFile) (place : Place) : Prop where
  grown : f.disk.Grown f'.disk
  kept : f.disk.KeptAt f'.disk place

theorem Leaves.refl (f : SessionFile) (place : Place) : f.Leaves f place := ⟨.refl _, .refl _ _⟩

theorem Leaves.trans (first : f.Leaves f' place) (second : f'.Leaves f'' place) : f.Leaves f'' place :=
  ⟨first.grown.trans second.grown, first.kept.trans second.kept⟩

/-- Storing slots leaves what is not the session file, and the file stays where it is. -/
theorem store_leaves (apart : f.IsApart place) (entries : List (String × String)) :
    f.Leaves (f.store entries).2 place ∧
      ((f.store entries).1 = .ok () → (f.store entries).2.IsApart place) := by
  have extended := extended_prepared f
  have kept := Disk.keptAt_makeDirectories f.disk f.directory place
  unfold IsApart at apart
  rw [prepared] at extended apart
  rw [store]
  split
  · next fault d made =>
    rw [made] at extended kept
    exact ⟨⟨extended.grown, kept⟩, fun done => by cases done⟩
  next d made =>
  rw [made] at extended kept apart
  split
  · exact ⟨⟨extended.grown, kept⟩, fun done => by cases done⟩
  next d' written =>
  obtain ⟨goal, found, same⟩ := Disk.write_cases written
  have apart := apart goal found
  -- The directories are there after this, so the session file stays at the place that it has now.
  rcases same with rfl | ⟨fillable, rfl⟩
  · have again := Disk.makeDirectories_again made (.refl _)
    refine ⟨⟨extended.grown, kept⟩, fun _ => ?_⟩
    rw [IsApart, prepared, again]
    intro goal' found'
    cases found.symm.trans found'
    exact apart
  · have grown := Disk.grown_fill fillable (Utf8.encode (Toml.writeTexts entries))
    have again := Disk.makeDirectories_again made grown
    have beside := Disk.at?_fill_of_not_shares fillable (Utf8.encode (Toml.writeTexts entries)) apart
    refine ⟨⟨extended.grown.trans grown, kept.trans (.inl beside)⟩, fun _ => ?_⟩
    rw [IsApart, prepared, again]
    intro goal' found'
    rw [← (Disk.leadsTo_fill found fillable _).eq_of_fileAt found']
    exact Disk.not_shares_fill fillable _ apart

theorem set_leaves (apart : f.IsApart place) (key value : String) :
    f.Leaves (Storage.set f key value).2 place ∧
      ((Storage.set f key value).1 = .ok () → (Storage.set f key value).2.IsApart place) := by
  simp only [Storage.set, write]
  split
  · exact ⟨.refl f place, fun done => by cases done⟩
  · exact store_leaves apart _

/-- Saving a session leaves what is not the session file, whether it succeeds or not. -/
theorem persist_leaves {session : Session SessionFile} (apart : session.storage.IsApart place) :
    session.storage.Leaves session.persist.2.storage place := by
  have first := set_leaves apart session.keys.codeKey session.source
  rcases source : Storage.set session.storage session.keys.codeKey session.source with ⟨fault | _, between⟩
  · rw [source] at first
    rw [Session.persist_of_source_fails source]
    exact first.1
  · rw [source] at first
    have second := set_leaves (first.2 rfl) session.keys.titleKey session.title
    rcases title : Storage.set between session.keys.titleKey session.title with ⟨fault | _, storage⟩
    · rw [title] at second
      rw [Session.persist_of_title_fails source title]
      exact first.1.trans second.1
    · rw [title] at second
      rw [Session.persist_of_complete source title]
      exact first.1.trans second.1

/-- A path leads to a file that is not the session file. -/
structure Beside (f : SessionFile) (path : List Char) (place : Place) (bytes : List UInt8) : Prop where
  leads : f.disk.LeadsTo path place bytes
  apart : f.IsApart place

/-- A file beside the session file is left as it is by saving, whether that succeeds or not. -/
theorem persist_beside {session : Session SessionFile} (beside : session.storage.Beside path place bytes) :
    session.persist.2.storage.disk.LeadsTo path place bytes := by
  have left_ := persist_leaves beside.apart
  exact beside.leads.kept left_.grown (left_.kept.same beside.leads.2.2)

/-! ## The file itself -/

/-- The session file can be used: the directories on its way are there or can be made, it can be written, what is
    written is at the end of its path, and its owner may read it and write it again. -/
structure Usable (f : SessionFile) (place : Place) : Prop where
  made : (f.disk.makeDirectories f.directory).1 = .ok ()
  found : f.prepared.fileAt f.path = .ok place
  located (bytes : List UInt8) : (f.prepared.fill place bytes).locate f.path = .ok place
  allowed : ∀ r ∈ [Right.read, .write], ((f.prepared.nodeAt? place).getD (f.prepared.made (.file []))).allows r = true

theorem Usable.made_eq (usable : f.Usable place) :
    f.disk.makeDirectories f.directory = (.ok (), f.prepared) := Prod.ext usable.made rfl

/-- A session file that can be used can still be used once something has been written to it. -/
theorem Usable.filled (usable : f.Usable place) (fillable : f.prepared.Fillable place)
    (bytes : List UInt8) : Usable ⟨f.prepared.fill place bytes, f.directory⟩ place := by
  have grown := Disk.grown_fill fillable bytes
  have again := Disk.makeDirectories_again usable.made_eq grown
  have same : (⟨f.prepared.fill place bytes, f.directory⟩ : SessionFile).prepared = f.prepared.fill place bytes :=
    congrArg Prod.snd again
  refine ⟨congrArg Prod.fst again, ?_, fun more => ?_, fun r member => ?_⟩
  · rw [same]
    exact Disk.fileAt_fill usable.found fillable bytes (usable.allowed .write (by simp))
  · rw [same]
    have refillable : (f.prepared.fill place bytes).Fillable place :=
      .inr ⟨bytes, Disk.at?_fill fillable bytes⟩
    have regrown := Disk.grown_fill refillable more
    exact Disk.locate_grown regrown (usable.located bytes)
  · obtain ⟨n, there, _, rights⟩ := Disk.nodeAt?_fill fillable bytes
    rw [same, there, Option.getD_some, rights]
    exact usable.allowed r member

/-- The session file holds these slots, and others can be written to it. -/
structure Saves (f : SessionFile) (entries : List (String × String)) : Prop where
  usable : ∃ place, f.Usable place
  regular : Regular f.disk f.directory
  slots : f.slots = .ok entries
  distinct : (entries.map (·.1)).Nodup

theorem Starts.saves {entries : List (String × String)} (starts : Starts f.disk f.directory entries)
    (usable : f.Usable place) : f.Saves entries :=
  ⟨⟨place, usable⟩, starts.tracks.regular, starts.slots_eq, starts.distinct⟩

/-- What is stored in a session file that can be used is what it holds then, and it can still be used. -/
theorem Saves.store {entries : List (String × String)} (saves : f.Saves entries) {entries' : List (String × String)}
    (distinct : (entries'.map (·.1)).Nodup) :
    ∃ f', f.store entries' = (.ok (), f') ∧ f'.directory = f.directory ∧ f'.Saves entries' := by
  obtain ⟨⟨place, usable⟩, regular, -, -⟩ := saves
  have fillable : f.prepared.Fillable place := regular place usable.found
  let bytes := Utf8.encode (Toml.writeTexts entries')
  have leads := Disk.leadsTo_fill usable.found fillable bytes
  have holds : Holds (f.prepared.fill place bytes) f.directory entries' :=
    ⟨place, _, leads, Toml.readTexts?_writeTexts distinct⟩
  have read := Disk.read_fill fillable bytes (usable.located bytes) (usable.allowed .read (by simp))
  refine ⟨⟨f.prepared.fill place bytes, f.directory⟩, ?_, rfl,
    ⟨place, usable.filled fillable bytes⟩, holds.regular, ?_, distinct⟩
  · rw [SessionFile.store, usable.made_eq]
    simp only [Disk.writeText, Disk.write_eq usable.found fillable]
    rfl
  · exact slots_of_readText (readText_of_read read) (Toml.readTexts?_writeTexts distinct)

theorem Saves.set {entries : List (String × String)} (saves : f.Saves entries) (key value : String) :
    ∃ f', Storage.set f key value = (.ok (), f') ∧ f'.directory = f.directory ∧
      f'.Saves (withEntry key value entries) := by
  have written : Storage.set f key value = f.store (withEntry key value entries) := by
    simp only [Storage.set, write, saves.slots]
  rw [written]
  exact saves.store (nodup_keys_withEntry saves.distinct key value)

theorem Saves.get_eq {entries : List (String × String)} (saves : f.Saves entries) (key : String) :
    Storage.get f key = .ok (entryFor? key entries) := by
  simp only [Storage.get, SessionFile.read, saves.slots, Except.map]

/-- A session is saved to a session file that can be used: its source and title are in their slots, no other slot is
    changed, and later sessions begin with them. -/
theorem Saves.persist {session : Session SessionFile} {entries : List (String × String)}
    (saves : session.storage.Saves entries) (different : session.keys.codeKey ≠ session.keys.titleKey) :
    ∃ f', session.persist = (.ok (), { session with storage := f', status := .saved }) ∧
      f'.directory = session.storage.directory ∧
      (∀ key, Storage.get f' key = .ok (if key = session.keys.codeKey then some session.source
        else if key = session.keys.titleKey then some session.title
        else entryFor? key entries)) ∧
      ∀ (config : Config) (location : Location) (time : Nat), config.storage = session.keys →
        (location.fragment.bind fun fragment => SharedState.decode? fragment.toList) = none →
        let later := Session.load config f' location time
        later.source = (if session.source = "" then Session.defaultSource else session.source) ∧
        later.title = (if session.title = "" then Session.defaultTitle else session.title) := by
  obtain ⟨between, source, same, saves⟩ := saves.set session.keys.codeKey session.source
  obtain ⟨f', title, same', saves⟩ := saves.set session.keys.titleKey session.title
  have slots (key : String) : Storage.get f' key = .ok (if key = session.keys.codeKey then some session.source
      else if key = session.keys.titleKey then some session.title else entryFor? key entries) := by
    rw [saves.get_eq]
    by_cases isTitle : key = session.keys.titleKey
    · rw [isTitle, entryFor?_withEntry_self, if_neg (Ne.symm different), if_pos rfl]
    rw [entryFor?_withEntry_of_ne isTitle, if_neg isTitle]
    by_cases isCode : key = session.keys.codeKey
    · rw [isCode, entryFor?_withEntry_self, if_pos rfl]
    · rw [entryFor?_withEntry_of_ne isCode, if_neg isCode]
  refine ⟨f', Session.persist_of_complete source title, same'.trans same, slots, ?_⟩
  intro config location time sameKeys noLink
  have code : Session.slot? f' config.storage.codeKey = if session.source = "" then none else some session.source := by
    simp only [Session.slot?, slots, sameKeys, if_true, String.isEmpty_iff]
  have name : Session.slot? f' config.storage.titleKey = if session.title = "" then none else some session.title := by
    simp only [Session.slot?, slots, sameKeys, if_neg (Ne.symm different), if_true, String.isEmpty_iff]
  obtain ⟨_, _, _, first, second, _⟩ := Session.load_of_slots noLink code name time
  exact ⟨first, second⟩

end DiagramStudio.SessionFile
