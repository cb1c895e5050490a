import DiagramStudio.Config.Basic
import DiagramStudio.Editing.Autosave
import DiagramStudio.Editing.History
import DiagramStudio.Editing.Location
import DiagramStudio.Editing.Storage
import DiagramStudio.Finding.Rules
import DiagramStudio.Share.State

/-!
Editing sessions. A session has a source, a title and a view mode; every change of one of them goes
into the address of the document at once, and changes of source or title go into storage when they
are saved.
-/

namespace DiagramStudio

/-- Where a session took its first source and title from. -/
inductive Origin where
  /-- From a link. -/
  | link
  /-- One of them at least from storage. -/
  | storage
  | defaults
deriving Repr, DecidableEq, Inhabited

def Origin.name : Origin → String
  | link => "link"
  | storage => "storage"
  | defaults => "defaults"

structure Session (σ : Type) where
  source : String
  title : String
  mode : ViewMode
  origin : Origin
  history : History
  autosave : Autosave
  status : SaveStatus
  /-- The keys under which source and title are stored. -/
  keys : StorageConfig
  storage : σ
  location : Location
  /-- The time now, in milliseconds. -/
  time : Nat

namespace Session

/-- The source of a session that has no other. -/
def defaultSource : String :=
  "graph TD
    A[Start] --> B\x7bIs it mobile?\x7d
    B -- Yes --> C[Use Mermaid Studio]
    B -- No --> D[Still use it!]
    C --> E[Fast Rendering]
    D --> E
    E --> F[Download PNG]
    F --> G[Done]"

/-- The title of a session that has no other. -/
def defaultTitle : String := "Mermaid Studio"

variable {σ : Type}

/-! ## What goes out of a session -/

/-- What a link to the session carries. -/
def shared (s : Session σ) : SharedState := ⟨s.source, s.title, s.mode⟩

/-- The token of the session. -/
def token (s : Session σ) : String := String.ofList s.shared.encode

/-- What the validator has to say about the source. -/
def findings (s : Session σ) : List Finding := Finding.validate s.source.toList

/-- The session with its token in the address. -/
def sync (s : Session σ) : Session σ := { s with location := s.location.replace s.token }

/-- The session after a change that has to be saved. -/
def touch (s : Session σ) : Session σ :=
  { s with status := .dirty, autosave := s.autosave.schedule s.time }

/-- The session with another source, history aside. -/
def withSource (s : Session σ) (text : String) : Session σ :=
  ({ s with source := text }).touch.sync

/-! ## Loading -/

/-- The text of a slot that can be read and holds one. -/
def slot? [Storage σ] (storage : σ) (key : String) : Option String :=
  match Storage.get storage key with
  | .ok (some text) => if text.isEmpty then none else some text
  | _ => none

/-- What a session begins with: what the address carries if that can be decoded, else what is stored,
    and for what is not, the default. -/
def initial [Storage σ] (keys : StorageConfig) (storage : σ) (location : Location) :
    SharedState × Origin :=
  match location.fragment.bind fun fragment => SharedState.decode? fragment.toList with
  | some shared => (shared, .link)
  | none =>
    let source := slot? storage keys.codeKey
    let title := slot? storage keys.titleKey
    (⟨source.getD defaultSource, title.getD defaultTitle, .editor⟩,
      if source.isSome || title.isSome then .storage else .defaults)

/-- A session at its beginning. Its token is in the address, and nothing has to be saved. -/
def load [Storage σ] (config : Config) (storage : σ) (location : Location) (time : Nat) : Session σ :=
  let (shared, origin) := initial config.storage storage location
  sync
    { source := shared.source
      title := shared.title
      mode := shared.mode
      origin := origin
      history := ⟨config.editor.historyLimit, [], []⟩
      autosave := ⟨config.editor.autosaveDelay, none⟩
      status := .saved
      keys := config.storage
      storage := storage
      location := location
      time := time }

/-! ## Editing: every operation tells whether it did something -/

/-- Another source, which can be undone. -/
def setText (s : Session σ) (text : String) : Bool × Session σ :=
  if text = s.source then (false, s)
  else (true, ({ s with history := s.history.record s.source }).withSource text)

/-- Another source, of which the history takes no note. -/
def replaceText (s : Session σ) (text : String) : Bool × Session σ :=
  if text = s.source then (false, s) else (true, s.withSource text)

/-- The session that the history leads to, if it leads anywhere. Where it leads to the same source,
    nothing has to be saved for it. -/
def travel (s : Session σ) : Option (String × History) → Bool × Session σ
  | none => (false, s)
  | some (text, history) =>
    let s := { s with history := history }
    (true, if text = s.source then s else s.withSource text)

def undo (s : Session σ) : Bool × Session σ := s.travel (s.history.undo? s.source)

def redo (s : Session σ) : Bool × Session σ := s.travel (s.history.redo? s.source)

def setTitle (s : Session σ) (title : String) : Bool × Session σ :=
  if title = s.title then (false, s) else (true, ({ s with title := title }).touch.sync)

/-- Source and title emptied, in this order. -/
def clear (s : Session σ) : Session σ := ((s.setText "").2.setTitle "").2

def switch (s : Session σ) (mode : ViewMode) : Bool × Session σ :=
  if s.mode = mode then (false, s) else (true, ({ s with mode := mode }).sync)

/-- To the viewer. -/
def generate (s : Session σ) : Bool × Session σ := s.switch .viewer

/-- Back to the editor. -/
def back (s : Session σ) : Bool × Session σ := s.switch .editor

/-! ## Saving -/

/-- Source and title written, in this order. The title is not written if the source could not be, and
    only both together make the session a saved one. -/
def persist [Storage σ] (s : Session σ) : Except StorageFault Unit × Session σ :=
  match Storage.set s.storage s.keys.codeKey s.source with
  | (.error fault, storage) => (.error fault, { s with storage := storage })
  | (.ok (), storage) =>
    match Storage.set storage s.keys.titleKey s.title with
    | (.error fault, storage) => (.error fault, { s with storage := storage })
    | (.ok (), storage) => (.ok (), { s with storage := storage, status := .saved })

/-- Source and title written now, whether something has changed or not. -/
def save [Storage σ] (s : Session σ) : Except StorageFault Unit × Session σ :=
  ({ s with autosave := s.autosave.cancel }).persist

/-- Source and title written now if something has changed. -/
def flush [Storage σ] (s : Session σ) : Except StorageFault Unit × Session σ :=
  if s.status = .saved then (.ok (), s) else s.save

/-- Source and title written if that is due; tells whether they were. -/
def tick [Storage σ] (s : Session σ) : Bool × Session σ :=
  if s.autosave.isDue s.time then
    match s.save with
    | (.ok (), s) => (true, s)
    | (.error _, s) => (false, s)
  else (false, s)

/-- Time goes by. -/
def advance (s : Session σ) (milliseconds : Nat) : Session σ :=
  { s with time := s.time + milliseconds }

end Session

end DiagramStudio
