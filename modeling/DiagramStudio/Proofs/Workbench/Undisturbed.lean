import DiagramStudio.Proofs.Editing.Recorded
import DiagramStudio.Proofs.Workbench.Run

/-!
Saving and drawing never get in the way of editing. What is edited (`Editing`) after an editing operation,
and whether a picture is asked for, depends on what was edited before and on the operation alone
(`perform_congr`); everything else that can happen to a workbench leaves what is edited as it is
(`meet_editing`). So whatever happens in between, a run shows what its editing operations alone would show
(`record_eq`), and two runs with the same editing operations show the same.
-/

namespace DiagramStudio

/-- What is edited in a session, with its history and its address. -/
structure Editing where
  source : String
  title : String
  mode : ViewMode
  history : History
  location : Location
deriving Repr, DecidableEq

namespace Session

variable {σ τ : Type}

def editing (s : Session σ) : Editing := ⟨s.source, s.title, s.mode, s.history, s.location⟩

theorem SameEditing.editing_eq {s s' : Session σ} (same : SameEditing s s') : s'.editing = s.editing := by
  simp only [editing, same.source, same.title, same.mode, same.history, same.location]

/-! ## Editing looks at nothing else -/

section

variable {s : Session σ} {t : Session τ} (same : s.editing = t.editing)
include same

theorem withHistory_congr (history : History) :
    ({ s with history := history } : Session σ).editing = ({ t with history := history } : Session τ).editing := by
  simp only [editing, Editing.mk.injEq] at same
  obtain ⟨source, title, mode, _, location⟩ := same
  simp only [editing, source, title, mode, location]

theorem withSource_congr (text : String) : (s.withSource text).editing = (t.withSource text).editing := by
  simp only [editing, Editing.mk.injEq] at same
  obtain ⟨_, title, mode, history, location⟩ := same
  simp only [editing, withSource, touch, sync, token, shared, title, mode, history, location]

theorem setText_congr (text : String) : (s.setText text).2.editing = (t.setText text).2.editing := by
  have source : s.source = t.source := congrArg Editing.source same
  have history : s.history = t.history := congrArg Editing.history same
  simp only [setText, source, history]
  split
  · exact same
  · exact withSource_congr (withHistory_congr same _) text

theorem replaceText_congr (text : String) : (s.replaceText text).2.editing = (t.replaceText text).2.editing := by
  have source : s.source = t.source := congrArg Editing.source same
  simp only [replaceText, source]
  split
  · exact same
  · exact withSource_congr same text

theorem travel_congr (goal : Option (String × History)) : (s.travel goal).2.editing = (t.travel goal).2.editing := by
  have source : s.source = t.source := congrArg Editing.source same
  rcases goal with _ | ⟨text, history⟩
  · exact same
  · simp only [travel]
    by_cases back : text = s.source
    · rw [if_pos back, if_pos (back.trans source)]
      exact withHistory_congr same history
    · rw [if_neg back, if_neg fun back' => back (back'.trans source.symm)]
      exact withSource_congr (withHistory_congr same history) text

theorem undo_congr : s.undo.2.editing = t.undo.2.editing := by
  have source : s.source = t.source := congrArg Editing.source same
  have history : s.history = t.history := congrArg Editing.history same
  rw [undo, undo, source, history]
  exact travel_congr same _

theorem redo_congr : s.redo.2.editing = t.redo.2.editing := by
  have source : s.source = t.source := congrArg Editing.source same
  have history : s.history = t.history := congrArg Editing.history same
  rw [redo, redo, source, history]
  exact travel_congr same _

theorem setTitle_congr (title : String) : (s.setTitle title).2.editing = (t.setTitle title).2.editing := by
  have before : s.title = t.title := congrArg Editing.title same
  simp only [setTitle, before]
  split
  · exact same
  · simp only [editing, Editing.mk.injEq] at same
    obtain ⟨source, _, mode, history, location⟩ := same
    simp only [editing, touch, sync, token, shared, source, mode, history, location]

theorem clear_congr : s.clear.editing = t.clear.editing := setTitle_congr (setText_congr same "") ""

theorem switch_congr (mode : ViewMode) :
    (s.switch mode).1 = (t.switch mode).1 ∧ (s.switch mode).2.editing = (t.switch mode).2.editing := by
  have before : s.mode = t.mode := congrArg Editing.mode same
  simp only [switch, before]
  split
  · exact ⟨rfl, same⟩
  · simp only [editing, Editing.mk.injEq] at same
    obtain ⟨source, title, _, history, location⟩ := same
    simp only [editing, sync, token, shared, source, title, history, location, and_self]

end

/-- Sessions begin alike where the slots of source and title read alike, whatever else storage does. -/
theorem load_congr [Storage σ] [Storage τ] (config : Config) {storage : σ} {storage' : τ}
    (code : slot? storage config.storage.codeKey = slot? storage' config.storage.codeKey)
    (title : slot? storage config.storage.titleKey = slot? storage' config.storage.titleKey)
    (location : Location) (time time' : Nat) :
    (load config storage location time).editing = (load config storage' location time').editing := by
  simp only [load, initial, code, title, editing, sync, token, shared]

end Session

namespace Workbench

variable {σ τ : Type}

/-- What can be seen of an operation: what is edited then, and the source of which a picture is asked for. -/
structure Sight where
  editing : Editing
  asked : Option String
deriving Repr, DecidableEq

/-- What is seen of a workbench and the request that an operation made. -/
def sight (done : Option RenderRequest × Workbench σ) : Sight :=
  ⟨done.2.session.editing, done.1.map (·.source)⟩

/-! ## One operation -/

/-- The operations that edit; the others save, draw, show, or let time go by. -/
def Operation.isEdit : Operation → Bool
  | .setText _ | .replaceText _ | .setTitle _ | .clear | .undo | .redo | .generate | .back | .press _ => true
  | .start | .tick | .flush | .move _ | .compose _ _ | .wait _ => false

section

variable {w : Workbench σ} {v : Workbench τ} (same : w.session.editing = v.session.editing)
include same

theorem follow_congr {session : Session σ} {session' : Session τ} (after : session.editing = session'.editing) :
    sight (w.follow session) = sight (v.follow session') := by
  have before : w.session.source = v.session.source := congrArg Editing.source same
  have source : session.source = session'.source := congrArg Editing.source after
  have mode : session.mode = session'.mode := congrArg Editing.mode after
  simp only [follow, before, source, mode]
  split
  · simp only [sight, request, Renderer.request, Option.map_some, source, after]
  · simp only [sight, Option.map_none, after]

theorem generate_congr : sight w.generate = sight v.generate := by
  obtain ⟨entered, after⟩ := Session.switch_congr same .viewer
  unfold generate Session.generate
  rcases first : w.session.switch .viewer with ⟨changed, session⟩
  rcases second : v.session.switch .viewer with ⟨changed', session'⟩
  rw [first, second] at entered after
  simp only at entered after
  subst entered
  cases changed with
  | true =>
    have source : session.source = session'.source := congrArg Editing.source after
    simp only [sight, request, Renderer.request, Option.map_some, source, after]
  | false => simp only [sight, Option.map_none, same]

theorem back_congr : w.back.2.session.editing = v.back.2.session.editing := by
  obtain ⟨left, after⟩ := Session.switch_congr same .editor
  unfold back Session.back
  rcases first : w.session.switch .editor with ⟨changed, session⟩
  rcases second : v.session.switch .editor with ⟨changed', session'⟩
  rw [first, second] at left after
  simp only at left after
  subst left
  cases changed with
  | true => exact after
  | false => exact same

theorem press_congr (chord : Chord) : (w.press chord).2.session.editing = (v.press chord).2.session.editing := by
  have mode : w.session.mode = v.session.mode := congrArg Editing.mode same
  simp only [press, mode]
  split
  · split
    · next shortcut _ =>
      simp only
      cases shortcut.command with
      | undo => exact Session.undo_congr same
      | redo => exact Session.redo_congr same
    · exact same
  · exact same

/-- What an editing operation shows depends on what is edited alone. -/
theorem perform_congr [Storage σ] [Storage τ] {op : Operation} (edits : op.isEdit = true) :
    sight (w.perform op) = sight (v.perform op) := by
  have silent {w' : Workbench σ} {v' : Workbench τ} (after : w'.session.editing = v'.session.editing) :
      sight (none, w') = sight (none, v') := congrArg (Sight.mk · none) after
  cases op with
  | setText text => exact follow_congr same (Session.setText_congr same text)
  | replaceText text => exact follow_congr same (Session.replaceText_congr same text)
  | clear => exact follow_congr same (Session.clear_congr same)
  | undo => exact follow_congr same (Session.undo_congr same)
  | redo => exact follow_congr same (Session.redo_congr same)
  | generate => exact generate_congr same
  | setTitle title => exact silent (Session.setTitle_congr same title)
  | back => exact silent (back_congr same)
  | press chord => exact silent (press_congr same chord)
  | start | tick | flush | move _ | compose _ _ | wait _ => cases edits

end

/-! ## Everything that happens -/

/-- What can happen to a workbench: an operation, an outcome of whatever request at whatever time, and
    anything that may befall its storage, as that writes fail from now on or are done again. -/
inductive Event (σ : Type) where
  | operate (op : Operation)
  | deliver (request : RenderRequest) (outcome : Outcome)
  | turn (change : σ → σ)

namespace Event

/-- The editing operation that happens, if it is one. -/
def edit? : Event σ → Option Operation
  | operate op => if op.isEdit then some op else none
  | _ => none

end Event

/-- The editing operations among what happens. -/
def edits (events : List (Event σ)) : List Operation := events.filterMap Event.edit?

variable [Storage σ] [Storage τ]

/-- What has happened to a workbench, with the request that was made then, if one was. -/
def meet (w : Workbench σ) : Event σ → Option RenderRequest × Workbench σ
  | .operate op => w.perform op
  | .deliver request outcome => (none, (w.resolve request outcome).2)
  | .turn change => (none, { w with session := { w.session with storage := change w.session.storage } })

/-- What is seen after each editing operation in the course of what happens. -/
def record (w : Workbench σ) : List (Event σ) → List Sight
  | [] => []
  | event :: more =>
    let seen := if event.edit?.isSome then [sight (w.meet event)] else []
    seen ++ (w.meet event).2.record more

/-- Nothing but an editing operation changes what is edited. -/
theorem meet_editing (w : Workbench σ) {event : Event σ} (other : event.edit? = none) :
    (w.meet event).2.session.editing = w.session.editing := by
  cases event with
  | deliver request outcome =>
    simp only [meet, resolve]
    split <;> rfl
  | turn change => rfl
  | operate op =>
    cases op with
    | start =>
      simp only [meet, perform, start]
      split <;> rfl
    | tick => exact (Session.tick_sameEditing w.session).editing_eq
    | flush => exact (Session.flush_sameEditing w.session).editing_eq
    | move move =>
      simp only [meet, perform, move?]
      cases w.renderer.move? move <;> rfl
    | compose size time => rfl
    | wait milliseconds => rfl
    | setText _ | replaceText _ | setTitle _ | clear | undo | redo | generate | back | press _ => cases other

/-- Whatever else happens, what is seen is what the editing operations alone would show, also over other
    storage. -/
theorem record_eq {w : Workbench σ} {v : Workbench τ} (same : w.session.editing = v.session.editing)
    (events : List (Event σ)) : w.record events = v.record ((edits events).map .operate) := by
  induction events generalizing w v with
  | nil => rfl
  | cons event more ih =>
    cases edit : event.edit? with
    | none =>
      have kept := meet_editing w edit
      rw [record, edit, edits, List.filterMap_cons, edit]
      exact ih (kept.trans same)
    | some op =>
      obtain ⟨rfl, isEdit⟩ : event = .operate op ∧ op.isEdit = true := by
        cases event with
        | operate op' =>
          simp only [Event.edit?, Option.ite_none_right_eq_some, Option.some.injEq] at edit
          obtain ⟨isEdit, rfl⟩ := edit
          exact ⟨rfl, isEdit⟩
        | deliver _ _ | turn _ => cases edit
      have alike : sight (w.perform op) = sight (v.perform op) := perform_congr same isEdit
      have edit' : (Event.operate op : Event τ).edit? = some op := if_pos isEdit
      have later := ih (congrArg Sight.editing alike)
      rw [edits, List.filterMap_cons, edit, List.map_cons, record, record, edit, edit']
      simp only [Option.isSome_some, if_true, meet, alike]
      exact congrArg _ later

/-- Two workbenches that are opened with the same configuration and the same address, over storage in which
    source and title read alike, show the same if the same editing operations are done to them. The time, what
    else is done in between and when, what becomes of requests, and what storage does with what is saved are
    free to differ. -/
theorem editing_undisturbed (config : Config) (storage : σ) (storage' : τ) (location : Location)
    (time time' : Nat)
    (code : Session.slot? storage config.storage.codeKey = Session.slot? storage' config.storage.codeKey)
    (title : Session.slot? storage config.storage.titleKey = Session.slot? storage' config.storage.titleKey)
    {events : List (Event σ)} {events' : List (Event τ)} (same : edits events = edits events') :
    let w := open_ config storage location time
    let v := open_ config storage' location time'
    w.session.editing = v.session.editing ∧ w.record events = v.record events' := by
  intro w v
  have opened : w.session.editing = v.session.editing := Session.load_congr config code title location time time'
  refine ⟨opened, ?_⟩
  rw [record_eq (v := v) opened events, record_eq (v := v) rfl events', same]

/-- On the left nothing but editing, over slots that hold nothing. On the right time goes by, ticks and flushes
    fail and succeed, an answer comes late and one of them twice, the picture is moved and exported. -/
theorem editing_undisturbed_late_answers :
    let config : Config := {}
    let location := Location.withFragment "eyJjIjoicGllIiwidCI6IlQiLCJtIjoidmlld2VyIn0"
    let controlZ : Operation := .press ⟨"z", true, false, false⟩
    let shown : List (Event MemoryStorage) := [.operate (.setText "gantt"), .operate .back, .operate controlZ,
      .operate .generate]
    let disturbed : List (Event (Recorded MemoryStorage)) := [.operate .start, .deliver ⟨1, "pie"⟩ (.ok "<svg/>"),
      .operate (.move .zoomIn), .operate (.setText "gantt"), .deliver ⟨1, "pie"⟩ (.ok "<svg/>"),
      .operate (.wait 2000), .turn (fun r => ⟨r.storage.failing config.storage.titleKey (some (.io .noSpace)), []⟩),
      .operate .tick, .operate .back, .operate .flush, .operate controlZ, .operate .flush, .operate .generate,
      .operate (.compose ⟨1, 1⟩ ⟨2024, 1, 2, 3, 4, 5⟩)]
    let w := open_ config (default : MemoryStorage) location 0
    let v := open_ config (⟨default, []⟩ : Recorded MemoryStorage) location 7
    edits shown = edits disturbed ∧ w.record shown = v.record disturbed ∧
    (v.record disturbed).map (·.asked) = [some "gantt", none, none, some "pie"] := by
  intro config location controlZ shown disturbed w v
  have same : edits shown = edits disturbed := rfl
  have alike := (editing_undisturbed config default ⟨default, []⟩ location 0 7 rfl rfl same).2
  refine ⟨same, alike, ?_⟩
  rw [← alike]
  decide +kernel

end Workbench

end DiagramStudio
