import Mathlib
import DiagramStudio.Files.SessionFile
import DiagramStudio.Proofs.Files.Directories
import DiagramStudio.Proofs.Text.Utf8
import DiagramStudio.Proofs.Toml.Written

/-!
The session file of a directory as a map. Reads and writes through any number of storages over one directory,
each of which has nothing but the path of the file, answer as one map does that starts with what the file holds
(`performAll_refines`), as long as the system itself does not fail. A file that holds no table of texts is left as
it is by all of them.
-/

namespace DiagramStudio

/-! ## Entries -/

theorem mem_keys_withEntry {key k value : String} {entries : List (String × String)}
    (member : k ∈ (withEntry key value entries).map (·.1)) : k = key ∨ k ∈ entries.map (·.1) := by
  obtain ⟨e, inside, rfl⟩ := List.mem_map.mp member
  rcases mem_withEntry inside with rfl | old
  · exact .inl rfl
  · exact .inr (List.mem_map_of_mem old)

theorem nodup_keys_withEntry {entries : List (String × String)} (distinct : (entries.map (·.1)).Nodup)
    (key value : String) : ((withEntry key value entries).map (·.1)).Nodup := by
  induction entries with
  | nil => exact List.nodup_cons.mpr ⟨List.not_mem_nil, List.nodup_nil⟩
  | cons e more ih =>
    obtain ⟨fresh, later⟩ := List.nodup_cons.mp distinct
    rw [withEntry]
    split
    · next same => exact List.nodup_cons.mpr ⟨same ▸ fresh, later⟩
    · next other =>
      refine List.nodup_cons.mpr ⟨fun member => ?_, ih later⟩
      rcases mem_keys_withEntry member with same | inside
      · exact other same
      · exact fresh inside

namespace SessionFile

open Text (Utf8.encode)
open Disk (Fillable Extended)

/-- The path of the session file of a directory. -/
def pathIn (directory : List Char) : List Char := Path.join directory fileName

/-- The session file of a directory is there, and it holds these slots. -/
def Holds (d : Disk) (directory : List Char) (entries : List (String × String)) : Prop :=
  ∃ place text, d.LeadsTo (pathIn directory) place (Text.Utf8.encode text) ∧ Toml.readTexts? text = some entries

/-- A failure of the system. -/
def IsIo {α : Type} (outcome : Except StorageFault α) : Prop := ∃ fault, outcome = .error (.io fault)

instance {α : Type} (outcome : Except StorageFault α) : Decidable (IsIo outcome) :=
  match outcome with
  | .error (.io fault) => isTrue ⟨fault, rfl⟩
  | .error (.format _) => isFalse nofun
  | .ok _ => isFalse nofun

/-! ## One file -/

theorem readText_of_read {d : Disk} {path text : List Char} (read : d.read path = .ok (Text.Utf8.encode text)) :
    d.readText path = .ok text := by
  rw [Disk.readText, read]
  simp only [Text.Utf8.decode?_encode]

theorem read_of_readText {d : Disk} {path text : List Char} (read : d.readText path = .ok text) :
    d.read path = .ok (Text.Utf8.encode text) := by
  rw [Disk.readText] at read
  split at read
  · cases read
  next bytes raw =>
  split at read
  · next decoded =>
    cases read
    rw [raw, Text.Utf8.decode?_eq_some_iff.mp decoded]
  · cases read

theorem slots_of_readText {f : SessionFile} {text : List Char} {entries : List (String × String)}
    (read : f.disk.readText f.path = .ok text) (texts : Toml.readTexts? text = some entries) :
    f.slots = .ok entries := by
  rw [slots, read]
  simp only [texts]

/-- The slots that a file holds are read, or the system fails. -/
theorem Holds.slots_cases {d : Disk} {directory : List Char} {entries : List (String × String)}
    (holds : Holds d directory entries) : slots ⟨d, directory⟩ = .ok entries ∨ IsIo (slots ⟨d, directory⟩) := by
  obtain ⟨place, text, leads, texts⟩ := holds
  rcases leads.read_cases with read | fault | fault
  · left
    exact slots_of_readText (readText_of_read read) texts
  · right
    have failed : d.readText (path ⟨d, directory⟩) = .error .tooManyLinks := by
      rw [Disk.readText, show d.read (path ⟨d, directory⟩) = _ from fault]
    exact ⟨.tooManyLinks, by rw [slots, failed]⟩
  · right
    have failed : d.readText (path ⟨d, directory⟩) = .error .notPermitted := by
      rw [Disk.readText, show d.read (path ⟨d, directory⟩) = _ from fault]
    exact ⟨.notPermitted, by rw [slots, failed]⟩

/-- What can be written to a session file is a file, or nothing stands there, once the directories on its way are
    there. -/
def Regular (d : Disk) (directory : List Char) : Prop :=
  ∀ place, (d.makeDirectories directory).2.fileAt (pathIn directory) = .ok place →
    (d.makeDirectories directory).2.Fillable place

theorem Holds.regular {d : Disk} {directory : List Char} {entries : List (String × String)}
    (holds : Holds d directory entries) : Regular d directory := by
  obtain ⟨place, text, leads, _⟩ := holds
  have extended := Disk.extended_makeDirectories d directory
  intro goal found
  have leads := leads.extended extended
  rw [← leads.eq_of_fileAt found]
  exact leads.fillable

/-- Slots with distinct keys are stored, or the system fails. -/
theorem store_cases {d : Disk} {directory : List Char} (regular : Regular d directory)
    {entries : List (String × String)} (distinct : (entries.map (·.1)).Nodup) :
    IsIo (store ⟨d, directory⟩ entries).1 ∨
      (store ⟨d, directory⟩ entries).1 = .ok () ∧ Holds (store ⟨d, directory⟩ entries).2.disk directory entries := by
  unfold Regular at regular
  rw [store]
  split
  · next fault d₁ _ => exact .inl ⟨fault, rfl⟩
  next d₁ made =>
  simp only at made
  rw [made] at regular
  split
  · next fault _ => exact .inl ⟨fault, rfl⟩
  next d₂ written =>
  right
  cases found : d₁.fileAt (pathIn directory) with
  | error fault =>
    rw [Disk.writeText, Disk.write, show d₁.fileAt (path ⟨d, directory⟩) = _ from found] at written
    cases written
  | ok place =>
    have fillable := regular place found
    rw [Disk.writeText, show path ⟨d, directory⟩ = pathIn directory from rfl, Disk.write_eq found fillable] at written
    cases written
    exact ⟨rfl, place, _, Disk.leadsTo_fill found fillable _, Toml.readTexts?_writeTexts distinct⟩

/-! ## Accesses -/

/-- What is asked of a storage. -/
inductive Access where
  | get (key : String)
  | set (key value : String)

/-- What a storage answers: the value under a key, or that one was written. -/
inductive Reply where
  | value (found : Option String)
  | done
deriving Repr, DecidableEq

/-- An access through a storage over a directory. A storage knows no more than the path of its file, so it is all
    the same which of several over one directory is asked. -/
def perform (directory : List Char) (d : Disk) : Access → Except StorageFault Reply × Disk
  | .get key => ((Storage.get (⟨d, directory⟩ : SessionFile) key).map .value, d)
  | .set key value =>
    let (outcome, f) := Storage.set (⟨d, directory⟩ : SessionFile) key value
    (outcome.map fun () => .done, f.disk)

/-- One access after the other, with all answers. -/
def performAll (directory : List Char) (d : Disk) : List Access → List (Except StorageFault Reply) × Disk
  | [] => ([], d)
  | access :: more =>
    let (reply, d) := perform directory d access
    let (replies, d) := performAll directory d more
    (reply :: replies, d)

/-- What a map answers, and the map after that. -/
def Access.ofMap (m : String → Option String) : Access → Reply × (String → Option String)
  | .get key => (.value (m key), m)
  | .set key value => (.done, fun k => if k = key then some value else m k)

/-- All that a map answers to one access after the other. -/
def repliesOfMap (m : String → Option String) : List Access → List Reply
  | [] => []
  | access :: more => (access.ofMap m).1 :: repliesOfMap (access.ofMap m).2 more

/-- What the slots are at the start: none if the session file is absent, and those in it if it is valid. -/
inductive Starts (d : Disk) (directory : List Char) : List (String × String) → Prop where
  | absent (missing : d.readText (pathIn directory) = .error .notFound) (regular : Regular d directory) :
    Starts d directory []
  | valid {place : Place} {bytes : List UInt8} {text : List Char} {entries : List (String × String)}
    (located : d.locate (pathIn directory) = .ok place) (file : d.at? place = some (.file bytes))
    (read : d.readText (pathIn directory) = .ok text) (texts : Toml.readTexts? text = some entries) :
    Starts d directory entries

/-- The session file of a directory is what a map says, as far as it can be read. -/
structure Tracks (d : Disk) (directory : List Char) (m : String → Option String) : Prop where
  regular : Regular d directory
  slots : IsIo (slots ⟨d, directory⟩) ∨ ∃ entries, SessionFile.slots ⟨d, directory⟩ = .ok entries ∧
    (entries.map (·.1)).Nodup ∧ ∀ key, m key = entryFor? key entries

theorem Holds.tracks {d : Disk} {directory : List Char} {entries : List (String × String)}
    (holds : Holds d directory entries) : Tracks d directory (entryFor? · entries) := by
  have ⟨_, _, _, texts⟩ := holds
  refine ⟨holds.regular, ?_⟩
  rcases holds.slots_cases with read | failed
  · exact .inr ⟨entries, read, Toml.keys_nodup_of_readTexts? texts, fun _ => rfl⟩
  · exact .inl failed

theorem Starts.slots_eq {d : Disk} {directory : List Char} {entries : List (String × String)}
    (starts : Starts d directory entries) : slots ⟨d, directory⟩ = .ok entries := by
  cases starts with
  | absent missing _ => rw [slots, show d.readText (path ⟨d, directory⟩) = _ from missing]
  | valid _ _ read texts => exact slots_of_readText read texts

theorem Starts.distinct {d : Disk} {directory : List Char} {entries : List (String × String)}
    (starts : Starts d directory entries) : (entries.map (·.1)).Nodup := by
  cases starts with
  | absent _ _ => exact List.nodup_nil
  | valid _ _ _ texts => exact Toml.keys_nodup_of_readTexts? texts

theorem Starts.tracks {d : Disk} {directory : List Char} {entries : List (String × String)}
    (starts : Starts d directory entries) : Tracks d directory (entryFor? · entries) := by
  refine ⟨?_, .inr ⟨entries, starts.slots_eq, starts.distinct, fun _ => rfl⟩⟩
  cases starts with
  | absent _ regular => exact regular
  | valid located file read texts =>
    have leads := Disk.leadsTo_of_read located file (read_of_readText read)
    exact Holds.regular ⟨_, _, leads, texts⟩

/-- A storage answers as the map does that its file is, and the file is what the map becomes; or the system
    fails. -/
theorem Tracks.perform {d : Disk} {directory : List Char} {m : String → Option String}
    (tracks : Tracks d directory m) (access : Access) :
    IsIo (perform directory d access).1 ∨
      (perform directory d access).1 = .ok (access.ofMap m).1 ∧
        Tracks (perform directory d access).2 directory (access.ofMap m).2 := by
  obtain ⟨fault, failed⟩ | ⟨entries, slots, distinct, same⟩ := tracks.slots
  · left
    refine ⟨fault, ?_⟩
    cases access with
    | get key => simp only [SessionFile.perform, Storage.get, read, failed]; rfl
    | set key value => simp only [SessionFile.perform, Storage.set, write, failed]; rfl
  · cases access with
    | get key =>
      refine .inr ⟨?_, tracks⟩
      simp only [SessionFile.perform, Storage.get, read, slots, Access.ofMap, same]
      rfl
    | set key value =>
      have written : (Storage.set (⟨d, directory⟩ : SessionFile) key value) =
          store ⟨d, directory⟩ (withEntry key value entries) := by
        simp only [Storage.set, write, slots]
      simp only [SessionFile.perform, written]
      obtain ⟨fault, failed⟩ | ⟨done, holds⟩ :=
        store_cases tracks.regular (nodup_keys_withEntry distinct key value)
      · exact .inl ⟨fault, by rw [failed]; rfl⟩
      · refine .inr ⟨by rw [done]; rfl, ?_⟩
        have changed : (fun k => if k = key then some value else m k) =
            (entryFor? · (withEntry key value entries)) := by
          funext k
          split
          · next self => rw [self, entryFor?_withEntry_self]
          · next other => rw [entryFor?_withEntry_of_ne other, same]
        rw [Access.ofMap, changed]
        exact holds.tracks

theorem Tracks.performAll {d : Disk} {directory : List Char} {m : String → Option String}
    (tracks : Tracks d directory m) {accesses : List Access}
    (sound : ∀ reply ∈ (performAll directory d accesses).1, ¬ IsIo reply) :
    (performAll directory d accesses).1 = (repliesOfMap m accesses).map .ok := by
  induction accesses generalizing d m with
  | nil => rfl
  | cons access more ih =>
    rw [SessionFile.performAll] at sound ⊢
    simp only at sound ⊢
    rcases tracks.perform access with failed | ⟨replied, tracks⟩
    · exact absurd failed (sound _ List.mem_cons_self)
    · rw [repliesOfMap, List.map_cons, replied, ih tracks fun reply later => sound reply (List.mem_cons_of_mem _ later)]

/-- Accesses to a file that holds no table of texts all fail, and the file stays as it is. -/
theorem performAll_of_no_table {d : Disk} {directory text : List Char}
    (read : d.readText (pathIn directory) = .ok text) (noTable : Toml.readTexts? text = none)
    (accesses : List Access) :
    performAll directory d accesses =
      (List.replicate accesses.length (.error (.format "not a table of texts")), d) := by
  have failed : slots ⟨d, directory⟩ = .error (.format "not a table of texts") := by
    rw [slots, show d.readText (path ⟨d, directory⟩) = _ from read]
    simp only [noTable]
  induction accesses with
  | nil => rfl
  | cons access more ih =>
    have one : perform directory d access = (.error (.format "not a table of texts"), d) := by
      cases access with
      | get key => simp only [perform, Storage.get, SessionFile.read, failed]; rfl
      | set key value => simp only [perform, Storage.set, write, failed]; rfl
    rw [performAll, one]
    simp only [ih, List.length_cons, List.replicate_succ]

/-- A session file is a map. -/
theorem performAll_refines (d : Disk) (directory : List Char) (accesses : List Access) :
    (∀ entries, Starts d directory entries → (∀ reply ∈ (performAll directory d accesses).1, ¬ IsIo reply) →
      (performAll directory d accesses).1 = (repliesOfMap (entryFor? · entries) accesses).map .ok) ∧
    (∀ text, d.readText (pathIn directory) = .ok text → Toml.readTexts? text = none →
      performAll directory d accesses =
        (List.replicate accesses.length (.error (.format "not a table of texts")), d)) :=
  ⟨fun _ starts sound => starts.tracks.performAll sound,
    fun _ read noTable => performAll_of_no_table read noTable accesses⟩

/-- A file system with one directory in it, in which the program works. -/
def desk : Disk :=
  { places := [(["home"], 1)], nodes := [(1, ⟨.directory, 0o755, true, 0⟩)], here := ["home"], mask := 0o022, now := 0 }

/-- The file system with a session file in that directory. -/
def deskWith (text : List Char) : Disk := desk.add ["home", "session.toml"] (desk.made (.file (Text.Utf8.encode text)))

/-- What is asked of storages over the directory in it; the keys and values have quotes, line breaks and controls. -/
def trickyAccesses : List Access :=
  [.get "a", .set "\"a\\\n" "x\r\u0007\n'''\"\"\"", .set "" "", .get "\"a\\\n", .get "", .get "a"]

/-- Such keys and values are kept apart, in a directory that is made for them; and a file with anything else in it
    is kept from them. -/
theorem performAll_refines_tricky :
    Starts desk "data".toList [] ∧ (∀ reply ∈ (performAll "data".toList desk trickyAccesses).1, ¬ IsIo reply) ∧
      (performAll "data".toList desk trickyAccesses).1 =
        (repliesOfMap (fun key => entryFor? key []) trickyAccesses).map .ok ∧
      performAll [] (deskWith "a = 1".toList) trickyAccesses =
        (List.replicate 6 (.error (.format "not a table of texts")), deskWith "a = 1".toList) := by
  have starts : Starts desk "data".toList [] := by
    refine .absent (by cbv) fun place found => .inl ?_
    have there : (desk.makeDirectories "data".toList).2.fileAt (pathIn "data".toList) =
        .ok ["home", "data", "session.toml"] := by cbv
    cases there.symm.trans found
    cbv
  have replies : (performAll "data".toList desk trickyAccesses).1 =
      [.ok (.value none), .ok .done, .ok .done, .ok (.value (some "x\r\u0007\n'''\"\"\"")), .ok (.value (some "")),
        .ok (.value none)] := by cbv
  have sound : ∀ reply ∈ (performAll "data".toList desk trickyAccesses).1, ¬ IsIo reply := by
    rw [replies]
    decide
  exact ⟨starts, sound, (performAll_refines _ _ _).1 _ starts sound, (performAll_refines _ _ _).2 _ (by cbv) (by cbv)⟩

end SessionFile

end DiagramStudio
