import DiagramStudio.Command.Basic
import DiagramStudio.Editing.Session
import DiagramStudio.Files.SessionFile
import DiagramStudio.Markup.Extent
import DiagramStudio.Preview.Process
import DiagramStudio.Share.Link
import DiagramStudio.Studio

/-!
Carrying out what the program is asked to do. Checking and sharing only read; drawing writes one file,
and does so last; opening a link writes the source first and saves the session after that.
-/

namespace DiagramStudio.Command

/-- The surroundings of a run. -/
structure Surroundings where
  disk : Disk
  /-- The path of the home directory. -/
  home : String
  now : Timestamp
  launch : Launcher

/-- What a run leaves. -/
structure Effect where
  result : Except Failure Unit
  /-- What was printed. -/
  printed : String
  disk : Disk

namespace Effect

def failed (failure : Failure) (disk : Disk) : Effect := ⟨.error failure, "", disk⟩

end Effect

/-! ## Configuration -/

/-- Where the configuration of a working directory is. -/
def localConfig : List Char := "mermaid-studio/config.toml".toList

/-- Where the configuration of a home directory is. -/
def homeConfig (home : String) : List Char :=
  Path.join home.toList ".config/mermaid-studio/config.toml".toList

/-- The configuration in a file. -/
def loadFrom (disk : Disk) (path : List Char) : Except Failure Config :=
  if disk.leads path then
    match disk.readText path with
    | .error fault => .error (.system fault)
    | .ok text => (Config.ofDocument text).mapError .config
  else .error (.config (.missing (String.ofList path)))

/-- The configuration that is asked for, else that of the working directory, else that of the home
    directory; without any of them, the defaults. -/
def loadConfig (s : Surroundings) (asked : Option String) : Except Failure Config :=
  match asked with
  | some path => loadFrom s.disk path.toList
  | none =>
    if s.disk.leads localConfig then loadFrom s.disk localConfig
    else if s.disk.leads (homeConfig s.home) then loadFrom s.disk (homeConfig s.home)
    else .ok {}

/-! ## Tasks -/

/-- The source in a file. -/
def loadSource (disk : Disk) (input : String) : Except Failure String :=
  match disk.readText input.toList with
  | .error fault => .error (.system fault)
  | .ok text => .ok (String.ofList text)

/-- A text written to a file. -/
def writeOut (disk : Disk) (path : String) (text : List Char) : Except Failure Disk :=
  (disk.writeText path.toList text).mapError .system

/-- The title that is asked for, else the name of the file. -/
def titleOf (input : String) (asked : Option String) : String :=
  asked.getD (String.ofList (Path.stem input.toList))

/-- A file is free of errors. -/
def check (disk : Disk) (input : String) : Except Failure Unit := do
  let source ← loadSource disk input
  let _ ← Studio.check source
  return ()

/-- The document that a picture is exported as. -/
def document (config : Config) (markup title : String) (now : Timestamp) : Except Failure Export := do
  match Markup.extent markup.toList with
  | .error fault => .error (.exporting (.markup fault))
  | .ok size => Studio.compose config markup title size now

/-- The extension of the files that pictures are exported to. -/
def documentExtension : String := "svg"

/-- A file drawn, and the export of the picture written. -/
def render (s : Surroundings) (config : Config) (input : String) (output title : Option String) :
    Except Failure Unit × Disk :=
  match loadSource s.disk input with
  | .error failure => (.error failure, s.disk)
  | .ok source =>
    let title := titleOf input title
    let engine := s.launch.engine config.render.command config.render.args
    let (drawn, disk) := Studio.render config engine source s.disk
    match drawn.bind fun markup => document config markup title s.now with
    | .error failure => (.error failure, disk)
    | .ok document =>
      let path := output.getD (FileName.make title s.now documentExtension)
      match writeOut disk path document.svg with
      | .error failure => (.error failure, disk)
      | .ok disk => (.ok (), disk)

/-- The link to a file, or its token alone where there is no address to put it behind. -/
def share (disk : Disk) (input : String) (title : Option String) (viewer : Bool)
    (base : Option String) : Except Failure String := do
  let source ← loadSource disk input
  let mode : ViewMode := if viewer then .viewer else .editor
  let token := (SharedState.mk source (titleOf input title) mode).encode
  return String.ofList (match base with
    | some base => Link.make base.toList token
    | none => token)

/-- The directory of the session file that is used if no other is asked for. -/
def dataDirectory (home : String) : List Char :=
  Path.join home.toList ".local/share/mermaid-studio".toList

/-- What is wrong with a link that cannot be opened. -/
def badLink : SystemFault := .other "not a valid share link"

/-- The token of a link, if a state can be made of it. -/
def validToken? (link : String) : Option (List Char) :=
  (Link.token? link.toList).filter fun token => (SharedState.decode? token).isSome

/-- A line of output. -/
def line (text : String) : String := text ++ "\n"

/-- The source of a link written out or printed, and then, if that is asked for, its session saved. -/
def open_ (s : Surroundings) (config : Config) (link : String) (output : Option String) (save : Bool)
    (dataDir : Option String) : Effect :=
  match validToken? link with
  | none => .failed (.system badLink) s.disk
  | some token =>
    let directory := (dataDir.map String.toList).getD (dataDirectory s.home)
    let session : Session SessionFile :=
      .load config ⟨s.disk, directory⟩ (.withFragment (String.ofList token)) 0
    let written := match output with
      | some path => (writeOut s.disk path session.source.toList).map fun disk => (disk, "")
      | none => .ok (s.disk, line session.source)
    match written with
    | .error failure => .failed failure s.disk
    | .ok (disk, printed) =>
      if save then
        let (saved, session) := ({ session with storage := ⟨disk, directory⟩ } : Session SessionFile).save
        ⟨saved.mapError .storage, printed, session.storage.disk⟩
      else ⟨.ok (), printed, disk⟩

/-- What the renderer is started for. -/
def jobFor (config : Config) (source : String) : Job :=
  ⟨config.render.command, config.render.args, RenderRequest.id ⟨1, source⟩, source⟩

/-- A task carried out. -/
def perform (s : Surroundings) (config : Config) : Task → Effect
  | .check input => ⟨check s.disk input, "", s.disk⟩
  | .render input output title =>
    let (result, disk) := render s config input output title
    ⟨result, "", disk⟩
  | .share input title viewer base =>
    match share s.disk input title viewer base with
    | .error failure => .failed failure s.disk
    | .ok link => ⟨.ok (), line link, s.disk⟩
  | .open_ link output save dataDir => open_ s config link output save dataDir

/-- A command line carried out. Its configuration is loaded first, whatever the task. -/
def run (s : Surroundings) (i : Invocation) : Effect :=
  match loadConfig s i.config with
  | .error failure => .failed failure s.disk
  | .ok config => perform s config i.task

/-- What the renderer is started for when a command line is carried out, if it is. -/
def job? (s : Surroundings) (i : Invocation) : Option Job :=
  match i.task with
  | .render input _ _ => do
    let config ← (loadConfig s i.config).toOption
    let source ← (loadSource s.disk input).toOption
    (precheck source.toList).toOption
    return jobFor config source
  | _ => none

end DiagramStudio.Command
