import DiagramStudio.Command.Run
import DiagramStudio.Proofs.Editing.Address
import DiagramStudio.Proofs.Files.Saving
import DiagramStudio.Proofs.Share.Link

/-!
Sharing a file and opening the link. The token of a link stands for what was shared: the file that is written out of
a link is the one that was shared, byte for byte, and a session that is saved from it has its text and its title
(`open_of_share`).
-/

namespace DiagramStudio

namespace Command

open Text (Utf8.encode)

/-- The link to a state: its token behind an address, or alone. -/
def linkTo (state : SharedState) : (base : Option String) → String
  | some base => String.ofList (Link.make base.toList state.encode)
  | none => String.ofList state.encode

/-- A state can be made of the link. -/
def Decodes (link : String) (state : SharedState) : Prop :=
  ∃ token, Link.token? link.toList = some token ∧ SharedState.decode? token = some state

theorem decodes_linkTo (state : SharedState) (base : Option String) : Decodes (linkTo state base) state := by
  have plain := SharedState.isPlain_encode state
  have some_ := SharedState.encode_ne_nil state
  have token : Link.token? (linkTo state base).toList = some state.encode := by
    cases base with
    | none => rw [linkTo, String.toList_ofList, Link.token?_self plain some_]
    | some address => rw [linkTo, String.toList_ofList, Link.token?_make _ plain some_]
  exact ⟨state.encode, token, SharedState.decode?_encode state⟩

theorem Decodes.validToken? {link : String} {state : SharedState} (decodes : Decodes link state) :
    ∃ token, Command.validToken? link = some token ∧ SharedState.decode? token = some state := by
  obtain ⟨token, found, decoded⟩ := decodes
  refine ⟨token, ?_, decoded⟩
  rw [Command.validToken?, found, Option.filter_some, decoded]
  rfl

theorem validToken?_eq_none {link : String} (none_ : ∀ state, ¬Decodes link state) : validToken? link = none := by
  rw [validToken?, Option.filter_eq_none_iff]
  intro token found decoded
  obtain ⟨state, decoded⟩ := Option.isSome_iff_exists.mp decoded
  exact none_ state ⟨token, found, decoded⟩

/-- What is shared of a file. -/
def sharedState (source : List Char) (input : String) (asked : Option String) (viewer : Bool) : SharedState :=
  ⟨String.ofList source, titleOf input asked, if viewer then .viewer else .editor⟩

theorem share_eq {disk : Disk} {input : String} {source : List Char}
    (read : disk.read input.toList = .ok (Utf8.encode source)) (asked : Option String) (viewer : Bool)
    (base : Option String) :
    share disk input asked viewer base = .ok (linkTo (sharedState source input asked viewer) base) := by
  have text : loadSource disk input = .ok (String.ofList source) := by
    rw [loadSource, SessionFile.readText_of_read read]
  rw [share, text]
  cases base <;> rfl

/-! ## Opening -/

/-- The session file of a run, over what the file system is then. -/
def sessionFile (t : Surroundings) (dataDir : Option String) (disk : Disk) : SessionFile :=
  ⟨disk, (dataDir.map String.toList).getD (dataDirectory t.home)⟩

/-- The source of a link written to the file that is asked for, else printed. -/
def sourceOut (disk : Disk) (output : Option String) (source : String) : Except Failure (Disk × String) :=
  match output with
  | some path => (writeOut disk path source.toList).map fun disk => (disk, "")
  | none => .ok (disk, line source)

/-- A link that a state can be made of is opened as a session that has the state's source and title; its source is
    written out first, and it is saved after that, over what has been written. -/
theorem open_of_decodes (t : Surroundings) (config : Config) {link : String} {state : SharedState}
    (decodes : Decodes link state) (output : Option String) (save : Bool) (dataDir : Option String) :
    ∃ session : Disk → Session SessionFile,
      (∀ disk, (session disk).source = state.source ∧ (session disk).title = state.title ∧
        (session disk).keys = config.storage ∧ (session disk).storage = sessionFile t dataDir disk) ∧
      open_ t config link output save dataDir =
        match sourceOut t.disk output state.source with
        | .error failure => .failed failure t.disk
        | .ok (written, printed) =>
          if save then
            ⟨(session written).persist.1.mapError .storage, printed, (session written).persist.2.storage.disk⟩
          else ⟨.ok (), printed, written⟩ := by
  obtain ⟨token, valid, decoded⟩ := decodes.validToken?
  rw [← String.toList_ofList (l := token)] at decoded
  have same := (Session.load_of_decode? config (sessionFile t dataDir t.disk) decoded 0 0).1
  have keys : (Session.load config (sessionFile t dataDir t.disk) (.withFragment (String.ofList token)) 0).keys =
      config.storage := by
    simp only [Session.load, Session.sync]
  have opened := open_.eq_def t config link output save dataDir
  rw [valid] at opened
  simp only [← sessionFile.eq_def] at opened
  rw [← Location.withFragment] at same
  -- Of the session that is loaded, no more is needed than what it shares and the keys that it has.
  generalize Session.load config (sessionFile t dataDir t.disk) (.withFragment (String.ofList token)) 0 = loaded
    at same keys opened
  subst same
  refine ⟨fun disk => { loaded with storage := sessionFile t dataDir disk, autosave := loaded.autosave.cancel },
    fun disk => ⟨rfl, rfl, keys, rfl⟩, ?_⟩
  rw [opened]
  rfl

/-- A link to a state, whose source can be written to a file. -/
theorem open_eq (t : Surroundings) (config : Config) (state : SharedState) (base : Option String) {output : String}
    {written : Disk} (out : t.disk.writeText output.toList state.source.toList = .ok written) (save : Bool)
    (dataDir : Option String) :
    ∃ session : Session SessionFile, session.source = state.source ∧ session.title = state.title ∧
      session.keys = config.storage ∧ session.storage = sessionFile t dataDir written ∧
      open_ t config (linkTo state base) (some output) save dataDir =
        if save then ⟨session.persist.1.mapError .storage, "", session.persist.2.storage.disk⟩
        else ⟨.ok (), "", written⟩ := by
  obtain ⟨session, stands, opened⟩ := open_of_decodes t config (decodes_linkTo state base) (some output) save dataDir
  obtain ⟨source, title, keys, storage⟩ := stands written
  rw [sourceOut, writeOut, out] at opened
  exact ⟨session written, source, title, keys, storage, opened⟩

/-- Sharing a file and opening the link. The link is printed, whatever the file is called and whatever address it is
    put behind. Where it is opened, the file is written out byte for byte, and the session is saved if that is asked
    for: the slots of source and title are those of the file then, and later sessions begin with them. -/
theorem open_of_share {s t : Surroundings} {config config' : Option String} {c c' : Config}
    (loaded : loadConfig s config = .ok c) (loaded' : loadConfig t config' = .ok c')
    {input source : String} (read : s.disk.read input.toList = .ok (Utf8.encode source.toList))
    {output : String} {place : Place} (found : t.disk.fileAt output.toList = .ok place)
    (fillable : t.disk.Fillable place) (asked : Option String) (viewer : Bool) (base : Option String) (save : Bool)
    (dataDir : Option String) (level level' : String) :
    let title := titleOf input asked
    let written := t.disk.fill place (Utf8.encode source.toList)
    ∃ link, run s ⟨.share input asked viewer base, config, level⟩ = ⟨.ok (), line link, s.disk⟩ ∧
      let opened := run t ⟨.open_ link (some output) save dataDir, config', level'⟩
      (save = false →
        opened.result = .ok () ∧ opened.disk.LeadsTo output.toList place (Utf8.encode source.toList) ∧
        ∀ other, ¬ t.disk.Shares place other → opened.disk.at? other = t.disk.at? other) ∧
      (save = true → (sessionFile t dataDir written).IsApart place →
        opened.disk.LeadsTo output.toList place (Utf8.encode source.toList)) ∧
      (save = true → c'.storage.codeKey ≠ c'.storage.titleKey → ∀ entries goal,
        SessionFile.Starts written (sessionFile t dataDir written).directory entries →
        (sessionFile t dataDir written).Usable goal →
        opened.result = .ok () ∧
        (∀ key, Storage.get (sessionFile t dataDir opened.disk) key =
          .ok (if key = c'.storage.codeKey then some source
            else if key = c'.storage.titleKey then some title
            else entryFor? key entries)) ∧
        ∀ (c'' : Config) (location : Location) (time : Nat), c''.storage = c'.storage →
          (location.fragment.bind fun fragment => SharedState.decode? fragment.toList) = none →
          let later := Session.load c'' (sessionFile t dataDir opened.disk) location time
          later.source = (if source = "" then Session.defaultSource else source) ∧
          later.title = (if title = "" then Session.defaultTitle else title)) := by
  intro title written
  let state := sharedState source.toList input asked viewer
  refine ⟨linkTo state base, ?_, ?_⟩
  · simp only [run, loaded, perform, share_eq read]
    rfl
  intro opened
  have leads : written.LeadsTo output.toList place (Utf8.encode source.toList) :=
    Disk.leadsTo_fill found fillable _
  have shared : state.source = source := String.ofList_toList
  have out : t.disk.writeText output.toList state.source.toList = .ok written := by
    rw [shared, Disk.writeText, Disk.write_eq found fillable]
  obtain ⟨session, source_, title_, keys, storage, effect⟩ := open_eq t c' state base out save dataDir
  have opened_ : opened = open_ t c' (linkTo state base) (some output) save dataDir := by
    simp only [opened, run, loaded', perform]
  rw [effect] at opened_
  refine ⟨?_, ?_, ?_⟩
  · rintro rfl
    rw [opened_]
    exact ⟨rfl, leads, fun other apart => Disk.at?_fill_of_not_shares fillable _ apart⟩
  · rintro rfl apart
    have beside : session.storage.Beside output.toList place (Utf8.encode source.toList) := by
      rw [storage]
      exact ⟨leads, apart⟩
    rw [opened_]
    exact SessionFile.persist_beside beside
  · rintro rfl different entries goal starts usable
    have saves : session.storage.Saves entries := by
      rw [storage]
      exact starts.saves usable
    obtain ⟨f, persisted, directory, slots, later⟩ := saves.persist (by rwa [keys])
    have disk : sessionFile t dataDir opened.disk = f := by
      rw [opened_, persisted]
      rw [storage] at directory
      cases f
      cases directory
      rfl
    have done : opened.result = .ok () := by
      rw [opened_, persisted]
      rfl
    rw [keys, source_, title_, shared] at slots later
    rw [disk]
    exact ⟨done, slots, later⟩

/-- Surroundings with one file in the directory in which the program works. -/
def workplace : Surroundings :=
  { disk := SessionFile.desk.add ["home", "a.mmd"] (SessionFile.desk.made (.file (Utf8.encode "é\r\n".toList)))
    home := "/home", now := ⟨2024, 2, 29, 12, 0, 0⟩, launch := fun _ disk => (.error (.start .notFound), disk) }

/-- A file with a character of two bytes, which is shared behind an address that has marks of its own, and saved in a
    directory that is made for it. -/
theorem open_of_share_saved :
    loadConfig workplace none = .ok {} ∧
    workplace.disk.fileAt "b.mmd".toList = .ok ["home", "b.mmd"] ∧
    ∃ link, run workplace ⟨.share "a.mmd" none true (some "x#y#"), none, "warn"⟩ = ⟨.ok (), line link, workplace.disk⟩ ∧
      let opened := run workplace ⟨.open_ link (some "b.mmd") true (some "data"), none, "warn"⟩
      opened.result = .ok () ∧ opened.disk.LeadsTo "b.mmd".toList ["home", "b.mmd"] (Utf8.encode "é\r\n".toList) ∧
      Storage.get (sessionFile workplace (some "data") opened.disk) "mermaid-go-title" = .ok (some "a") := by
  have loaded : loadConfig workplace none = .ok {} := by
    rw [loadConfig, if_neg (Bool.eq_false_iff.mp (by cbv)), if_neg (Bool.eq_false_iff.mp (by cbv))]
  have read : workplace.disk.read "a.mmd".toList = .ok (Utf8.encode "é\r\n".toList) := by cbv
  have found : workplace.disk.fileAt "b.mmd".toList = .ok ["home", "b.mmd"] := by cbv
  have fillable : workplace.disk.Fillable ["home", "b.mmd"] := .inl (by cbv)
  obtain ⟨link, shared, _, beside, saved⟩ := open_of_share loaded loaded read found fillable none true
    (some "x#y#") true (some "data") "warn" "warn"
  let f := sessionFile workplace (some "data") (workplace.disk.fill ["home", "b.mmd"] (Utf8.encode "é\r\n".toList))
  have there : f.prepared.fileAt f.path = .ok ["home", "data", "session.toml"] := by cbv
  have free : f.prepared.at? ["home", "data", "session.toml"] = none := by cbv
  have apart : f.IsApart ["home", "b.mmd"] := by
    intro goal at_
    cases there.symm.trans at_
    rintro (same | ⟨number, new, _⟩)
    · exact absurd same (by decide)
    · rw [show f.prepared.numberAt? ["home", "data", "session.toml"] = none by cbv] at new
      cases new
  have starts : SessionFile.Starts f.disk f.directory [] := by
    refine .absent (by cbv) fun place at_ => .inl ?_
    cases there.symm.trans at_
    exact free
  have usable : f.Usable ["home", "data", "session.toml"] := by
    refine ⟨by cbv, there, fun bytes => ?_, fun r member => ?_⟩
    · exact Disk.locate_fill (by cbv) (by cbv) (.inl free) bytes
    · simp only [List.mem_cons, List.not_mem_nil, or_false] at member
      rcases member with rfl | rfl <;> cbv
  obtain ⟨done, slots, _⟩ := saved rfl (by decide) [] _ starts usable
  have title := slots "mermaid-go-title"
  rw [if_neg (by decide), if_pos (by decide), show titleOf "a.mmd" none = "a" by cbv] at title
  exact ⟨loaded, found, link, shared, done, beside rfl apart, title⟩

end Command

end DiagramStudio
