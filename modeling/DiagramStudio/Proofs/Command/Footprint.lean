import DiagramStudio.Proofs.Command.Sharing

/-!
What a run leaves of the file system (`run_footprint`). Checking and sharing leave all of it. Drawing writes one file,
behind everything that can fail in front of that. Opening a link writes one file, and the session file only after that;
nothing at all if no state can be made of the link. All that counts of the renderer is what it does with one job, which
can be told in front of the run (`run_of_launch`).
-/

namespace DiagramStudio.Command

open Text

variable {s : Surroundings} {asked : Option String}

/-! ## One file -/

/-- A text was written to the file that a path names, and nothing else was created or changed. -/
structure WroteOnly (d : Disk) (path : String) (text : List Char) (d' : Disk) : Prop where
  written : d.writeText path.toList text = .ok d'
  only : ∃ goal, d.fileAt path.toList = .ok goal ∧ ∀ place, ¬d.Shares goal place → d'.at? place = d.at? place

theorem wroteOnly {d d' : Disk} {path : String} {text : List Char} (written : d.writeText path.toList text = .ok d') :
    WroteOnly d path text d' := by
  obtain ⟨goal, found, rfl | ⟨fillable, rfl⟩⟩ := Disk.write_cases written
  · exact ⟨written, goal, found, fun _ _ => rfl⟩
  · exact ⟨written, goal, found, fun place apart => Disk.at?_fill_of_not_shares fillable _ apart⟩

theorem writeOut_eq_ok_iff {d d' : Disk} {path : String} {text : List Char} :
    writeOut d path text = .ok d' ↔ d.writeText path.toList text = .ok d' := by
  rw [writeOut]
  cases d.writeText path.toList text <;> simp [Except.mapError]

/-! ## Drawing -/

/-- The renderer is reached: the configuration is loaded, the source is read, and it is not turned down. -/
structure Reached (s : Surroundings) (asked : Option String) (input : String) (config : Config) (source : String) :
    Prop where
  loaded : loadConfig s asked = .ok config
  read : loadSource s.disk input = .ok source
  accepted : precheck source.toList = .ok ()

/-- All steps of drawing in front of the last one, which have succeeded: the renderer was reached, has ended well and
    has left a picture that is text; that was measured, cleaned, and composed as a document. -/
structure Rendering (s : Surroundings) (asked : Option String) (input : String) (title : Option String) where
  config : Config
  source : String
  reached : Reached s asked input config source
  ending : Ending
  /-- The file system as the renderer has left it. -/
  disk : Disk
  ended : s.launch (jobFor config source) s.disk = (.ok ending, disk)
  success : ending.success = true
  bytes : List UInt8
  produced : ending.picture = .ok bytes
  markup : List Char
  decoded : Text.Utf8.decode? bytes = some markup
  size : Size
  measured : Markup.extent markup = .ok size
  drawing : List Char
  cleaned : Markup.clean markup = .ok drawing
  document : Export
  composed : Studio.compose config (String.ofList markup) (titleOf input title) size s.now = .ok document

/-- The path of the export: the one that is asked for, else one made of the title and the time. -/
def exportPath (s : Surroundings) (input : String) (output title : Option String) : String :=
  output.getD (FileName.make (titleOf input title) s.now documentExtension)

theorem drawn_eq (launch : Launcher) (config : Config) (source : String) (disk : Disk) :
    Studio.render config (launch.engine config.render.command config.render.args) source disk =
      match precheck source.toList with
      | .error fault => (.error (.render fault), disk)
      | .ok () =>
        let (ended, disk) := launch (jobFor config source) disk
        (((jobFor config source).outcome ended).mapError .render, disk) := by
  simp only [Studio.render, RenderRequest.perform, Renderer.request]
  cases precheck source.toList <;> rfl

/-- The renderer is started once at most, and for what can be told in front of the run: renderers that do the same with
    that one job leave the same. -/
theorem run_of_launch {launch : Launcher} {i : Invocation}
    (same : ∀ job, job? s i = some job → launch job s.disk = s.launch job s.disk) :
    run { s with launch := launch } i = run s i := by
  obtain ⟨task, asked, level⟩ := i
  have sameConfig : loadConfig { s with launch := launch } asked = loadConfig s asked := rfl
  simp only [run, sameConfig]
  cases loaded : loadConfig s asked with
  | error failure => rfl
  | ok config =>
    cases task with
    | check input => rfl
    | share input title viewer base => rfl
    | open_ link output save dataDir => rfl
    | render input output title =>
      have sameDrawn : render { s with launch := launch } config input output title = render s config input output title := by
        unfold render
        cases read : loadSource s.disk input with
        | error failure => rfl
        | ok source =>
          cases accepted : precheck source.toList with
          | error fault => simp only [drawn_eq, accepted]
          | ok =>
            have told : job? s ⟨.render input output title, asked, level⟩ = some (jobFor config source) := by
              simp [job?, loaded, read, accepted, Except.toOption]
            simp only [drawn_eq, accepted, same _ told]
      simp only [perform, sameDrawn]

/-- There is a picture only of a renderer that has ended well and has left a text. -/
theorem outcome_eq_ok {job : Job} {ended : Except LaunchFault Ending} {markup : String}
    (drawn : job.outcome ended = .ok markup) :
    ∃ ending bytes text, ended = .ok ending ∧ ending.success = true ∧ ending.picture = .ok bytes ∧
      Text.Utf8.decode? bytes = some text ∧ markup = String.ofList text := by
  cases ended with
  | error fault => cases drawn
  | ok ending =>
    rw [Job.outcome] at drawn
    split at drawn
    · next success =>
      cases picture : ending.picture with
      | error fault =>
        rw [picture] at drawn
        cases drawn
      | ok bytes =>
        rw [picture] at drawn
        cases decoded : Text.Utf8.decode? bytes with
        | none =>
          simp only [decoded] at drawn
          cases drawn
        | some text =>
          simp only [decoded] at drawn
          cases drawn
          exact ⟨ending, bytes, text, rfl, success, picture, decoded, rfl⟩
    · cases drawn

theorem clean_of_compose {markup title : String} {size : Size} {time : Timestamp} {config : CanvasConfig} {made : Export}
    (composed : Export.compose markup title size time config = .ok made) :
    ∃ drawing, Markup.clean markup.toList = .ok drawing := by
  rw [Export.compose] at composed
  split at composed
  · cases composed
  split at composed
  · cases composed
  split at composed
  · cases composed
  next drawing cleaned => exact ⟨drawing, cleaned⟩

/-- There is a document only of a picture that gives a size and can be cleaned. -/
theorem document_eq_ok {config : Config} {text : List Char} {title : String} {now : Timestamp} {made : Export}
    (composed : document config (String.ofList text) title now = .ok made) :
    ∃ size drawing, Markup.extent text = .ok size ∧ Markup.clean text = .ok drawing ∧
      Studio.compose config (String.ofList text) title size now = .ok made := by
  rw [document, String.toList_ofList] at composed
  split at composed
  · cases composed
  next size measured =>
  cases inner : Export.compose (String.ofList text) title size now config.canvas with
  | error fault =>
    rw [Studio.compose, inner] at composed
    cases composed
  | ok made' =>
    obtain ⟨drawing, cleaned⟩ := clean_of_compose inner
    rw [String.toList_ofList] at cleaned
    exact ⟨size, drawing, measured, cleaned, composed⟩

/-- What drawing leaves. -/
inductive Rendered (s : Surroundings) (asked : Option String) (input : String) (output title : Option String)
    (effect : Effect) : Prop where
  /-- It fails in front of the renderer, and leaves all as it is. -/
  | turnedDown {failure : Failure} (failed : effect.result = .error failure) (disk : effect.disk = s.disk)
  /-- It fails behind the renderer, and leaves all as that has left it. -/
  | failed {failure : Failure} {config : Config} {source : String} (reached : Reached s asked input config source)
    (failed : effect.result = .error failure) (disk : effect.disk = (s.launch (jobFor config source) s.disk).2)
  /-- Everything has succeeded, and the export is written. -/
  | exported (r : Rendering s asked input title) (done : effect.result = .ok ())
    (disk : WroteOnly r.disk (exportPath s input output title) r.document.svg effect.disk)

/-- Without the renderer nothing is written. -/
theorem rendered_of_not_reached {config : Config} (loaded : loadConfig s asked = .ok config) {input : String}
    (turned : ∀ source, ¬Reached s asked input config source) (output title : Option String) :
    Rendered s asked input output title (perform s config (.render input output title)) := by
  have failed : ∃ failure, render s config input output title = (.error failure, s.disk) := by
    unfold render
    cases read : loadSource s.disk input with
    | error failure => exact ⟨failure, rfl⟩
    | ok source =>
      cases accepted : precheck source.toList with
      | ok => exact absurd ⟨loaded, read, accepted⟩ (turned source)
      | error fault => exact ⟨.render fault, by simp only [drawn_eq, accepted]; rfl⟩
  obtain ⟨failure, failed⟩ := failed
  rw [perform, failed]
  exact .turnedDown rfl rfl

/-- What is left to do once the renderer has ended. -/
theorem render_of_reached {config : Config} {input source : String} (reached : Reached s asked input config source)
    {ended : Except LaunchFault Ending} {disk : Disk} (launched : s.launch (jobFor config source) s.disk = (ended, disk))
    (output title : Option String) :
    render s config input output title =
      match (((jobFor config source).outcome ended).mapError .render).bind fun markup =>
          document config markup (titleOf input title) s.now with
      | .error failure => (.error failure, disk)
      | .ok made =>
        match writeOut disk (exportPath s input output title) made.svg with
        | .error failure => (.error failure, disk)
        | .ok disk => (.ok (), disk) := by
  unfold render
  simp only [reached.read, drawn_eq, reached.accepted, launched]
  rfl

/-- Once the renderer has ended, drawing fails over what it has left, or writes the export. -/
theorem rendered_of_reached {config : Config} {input source : String} (reached : Reached s asked input config source)
    (output title : Option String) :
    Rendered s asked input output title (perform s config (.render input output title)) := by
  rcases launched : s.launch (jobFor config source) s.disk with ⟨ended, disk⟩
  have left_ : disk = (s.launch (jobFor config source) s.disk).2 := (congrArg Prod.snd launched).symm
  rw [perform, render_of_reached reached launched]
  cases drawn : (jobFor config source).outcome ended with
  | error fault => exact .failed reached rfl left_
  | ok markup =>
    obtain ⟨ending, bytes, text, rfl, success, produced, decoded, rfl⟩ := outcome_eq_ok drawn
    simp only [Except.mapError, Except.bind]
    cases composed : document config (String.ofList text) (titleOf input title) s.now with
    | error failure => exact .failed reached rfl left_
    | ok made =>
      obtain ⟨size, drawing, measured, cleaned, composed⟩ := document_eq_ok composed
      dsimp only
      cases written : writeOut disk (exportPath s input output title) made.svg with
      | error failure => exact .failed reached rfl left_
      | ok disk' =>
        exact .exported ⟨config, source, reached, ending, disk, launched, success, bytes, produced, text, decoded, size,
          measured, drawing, cleaned, made, composed⟩ rfl (wroteOnly (writeOut_eq_ok_iff.mp written))

/-! ## Opening -/

/-- The source of a link is written out: to the file that is asked for, and to no file if none is. -/
def WrittenOut (d : Disk) (output : Option String) (source : String) (d' : Disk) : Prop :=
  match output with
  | some path => WroteOnly d path source.toList d'
  | none => d' = d

theorem writtenOut {d d' : Disk} {output : Option String} {source printed : String}
    (out : sourceOut d output source = .ok (d', printed)) : WrittenOut d output source d' := by
  cases output with
  | none =>
    cases out
    rfl
  | some path =>
    rw [sourceOut] at out
    cases written : writeOut d path source.toList with
    | error failure =>
      rw [written] at out
      cases out
    | ok disk =>
      rw [written] at out
      cases out
      exact wroteOnly (writeOut_eq_ok_iff.mp written)

/-- What opening a link leaves. -/
inductive Opened (s : Surroundings) (link : String) (output : Option String) (save : Bool) (dataDir : Option String)
    (effect : Effect) : Prop where
  /-- It fails in front of writing, or cannot write the source, and leaves all as it is. -/
  | refused {failure : Failure} (failed : effect.result = .error failure) (disk : effect.disk = s.disk)
  /-- The source is written out, and all that changes behind that is the session file, with the directories it needs, and
      only if it is to be saved. -/
  | opened {state : SharedState} {written : Disk} (decodes : Decodes link state)
    (out : WrittenOut s.disk output state.source written) (unsaved : save = false → effect.disk = written)
    (saved : save = true → ∀ place, (sessionFile s dataDir written).IsApart place → written.KeptAt effect.disk place)

/-- A link that no state can be made of is refused. -/
theorem opened_of_not_decodes {link : String} (none_ : ∀ state, ¬Decodes link state) (config : Config)
    (output : Option String) (save : Bool) (dataDir : Option String) :
    Opened s link output save dataDir (perform s config (.open_ link output save dataDir)) := by
  have failed : perform s config (.open_ link output save dataDir) = .failed (.system badLink) s.disk := by
    rw [perform, open_.eq_def, validToken?_eq_none none_]
  rw [failed]
  exact .refused rfl rfl

theorem opened_of_decodes (config : Config) {link : String} {state : SharedState} (decodes : Decodes link state)
    (output : Option String) (save : Bool) (dataDir : Option String) :
    Opened s link output save dataDir (perform s config (.open_ link output save dataDir)) := by
  obtain ⟨session, stands, opened⟩ := open_of_decodes s config decodes output save dataDir
  rw [perform, opened]
  cases out : sourceOut s.disk output state.source with
  | error failure => exact .refused rfl rfl
  | ok result =>
    obtain ⟨written, printed⟩ := result
    obtain ⟨_, _, _, storage⟩ := stands written
    have disk : (session written).storage.disk = written := by rw [storage]; rfl
    refine .opened decodes (writtenOut out) ?_ ?_
    · rintro rfl
      rfl
    · rintro rfl place apart
      rw [← storage] at apart
      have kept := (SessionFile.persist_leaves apart).kept
      rwa [disk] at kept

/-! ## Whole runs -/

/-- What a run leaves of the file system, whatever the renderer does and whatever fails. Checking and sharing leave it as it
    is. Drawing that fails leaves it as it is or as the renderer has left it; otherwise every step in front of writing has
    succeeded, and all that changes of what the renderer has left is the file of the export. Opening a link leaves it as it
    is where no state can be made of the link or its source cannot be written out; otherwise the source is written out, to
    one file at most, and if the session is to be saved, its file is all that changes behind that, and the directories that
    are made for it. -/
theorem run_footprint (s : Surroundings) (i : Invocation) :
    match i.task with
    | .check _ => (run s i).disk = s.disk
    | .share _ _ _ _ => (run s i).disk = s.disk
    | .render input output title => Rendered s i.config input output title (run s i)
    | .open_ link output save dataDir => Opened s link output save dataDir (run s i) := by
  obtain ⟨task, asked, level⟩ := i
  cases loaded : loadConfig s asked with
  | error failure =>
    have failed : run s ⟨task, asked, level⟩ = .failed failure s.disk := by simp only [run, loaded]
    rw [failed]
    cases task with
    | check input => rfl
    | share input title viewer base => rfl
    | render input output title => exact .turnedDown rfl rfl
    | open_ link output save dataDir => exact .refused rfl rfl
  | ok config =>
    have performed : run s ⟨task, asked, level⟩ = perform s config task := by simp only [run, loaded]
    rw [performed]
    cases task with
    | check input => rfl
    | share input title viewer base =>
      simp only [perform]
      split <;> rfl
    | render input output title =>
      by_cases reached : ∃ source, Reached s asked input config source
      · obtain ⟨source, reached⟩ := reached
        exact rendered_of_reached reached output title
      · exact rendered_of_not_reached loaded (not_exists.mp reached) output title
    | open_ link output save dataDir =>
      by_cases decodes : ∃ state, Decodes link state
      · obtain ⟨state, decodes⟩ := decodes
        exact opened_of_decodes config decodes output save dataDir
      · exact opened_of_not_decodes (not_exists.mp decodes) config output save dataDir

/-- Surroundings with a source, an older export of it, and a renderer that leaves the same picture of everything. -/
def easel (picture : String) : Surroundings :=
  { disk := (SessionFile.desk.add ["home", "a.mmd"] (SessionFile.desk.made (.file (Utf8.encode "pie".toList)))).add
      ["home", "b.svg"] (SessionFile.desk.made (.file (Utf8.encode "older".toList)))
    home := "/home", now := ⟨2024, 2, 29, 12, 0, 0⟩
    launch := fun _ disk => (.ok ⟨true, [], .ok (Utf8.encode picture.toList)⟩, disk) }

/-- A picture takes the place of the older export; a picture without a size leaves it there. -/
theorem run_footprint_older_export :
    let picture := "<svg viewBox='0 0 4 3'/>"
    let sizeless := "<svg/>"
    let drawn (picture : String) := run (easel picture) ⟨.render "a.mmd" (some "b.svg") none, none, "warn"⟩
    (drawn picture).result.toOption.isSome = true ∧
      (∃ text, WroteOnly (easel picture).disk "b.svg" text (drawn picture).disk) ∧
      (drawn sizeless).result.toOption.isSome = false ∧ (drawn sizeless).disk = (easel sizeless).disk := by
  intro picture sizeless drawn
  have footprint (picture : String) :=
    run_footprint (easel picture) ⟨.render "a.mmd" (some "b.svg") none, none, "warn"⟩
  have good : (drawn picture).result.toOption.isSome = true := by decide +kernel
  have bad : (drawn sizeless).result.toOption.isSome = false := by decide +kernel
  refine ⟨good, ?_, bad, ?_⟩
  · rcases footprint picture with ⟨failed, _⟩ | ⟨_, failed, _⟩ | ⟨r, _, wrote⟩
    · rw [failed] at good
      cases good
    · rw [failed] at good
      cases good
    · have kept : (easel picture).disk = r.disk := congrArg Prod.snd r.ended
      exact ⟨r.document.svg, kept ▸ wrote⟩
  · rcases footprint sizeless with ⟨_, kept⟩ | ⟨_, _, kept⟩ | ⟨_, done, _⟩
    · exact kept
    · exact kept
    · rw [done] at bad
      cases bad

end DiagramStudio.Command
