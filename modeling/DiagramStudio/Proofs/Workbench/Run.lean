import DiagramStudio.Keyed
import DiagramStudio.Proofs.Editing.Operation
import DiagramStudio.Workbench

/-!
Runs of a workbench: operations one after the other, and between them outcomes of any requests that were
made before, as late, as often and in whatever order they come. Every operation has one of three effects
on the picture (`Effect`): the picture is left alone, a new one is asked for, or it is dropped on the way
back to the editor.
-/

namespace DiagramStudio.Workbench

/-- What can be done to a workbench; time may go by at any point. -/
inductive Operation where
  | start
  | setText (text : String)
  | replaceText (text : String)
  | setTitle (title : String)
  | clear
  | undo
  | redo
  | generate
  | back
  | press (chord : Chord)
  | tick
  | flush
  | move (move : Viewport.Move)
  | compose (size : Size) (time : Timestamp)
  | wait (milliseconds : Nat)

variable {σ : Type}

/-- The request that an operation makes, if it makes one, and the workbench after it. -/
def perform [Storage σ] (w : Workbench σ) : Operation → Option RenderRequest × Workbench σ
  | .start => w.start
  | .setText text => w.setText text
  | .replaceText text => w.replaceText text
  | .setTitle title => (none, (w.setTitle title).2)
  | .clear => w.clear
  | .undo => w.undo
  | .redo => w.redo
  | .generate => w.generate
  | .back => (none, w.back.2)
  | .press chord => (none, (w.press chord).2)
  | .tick => (none, w.tick.2)
  | .flush => (none, w.flush.2)
  | .move move => (none, (w.move? move).getD w)
  | .compose _ _ => (none, w)
  | .wait milliseconds => (none, { w with session := w.session.advance milliseconds })

/-- From one workbench to the next the viewer is entered, or the source changes while it is open, or
    it is started with nothing to show yet. -/
def Asks (w w' : Workbench σ) (op : Operation) : Prop :=
  (w.session.mode = .editor ∧ w'.session.mode = .viewer) ∨
  (w.session.mode = .viewer ∧ w'.session.source ≠ w.session.source) ∨
  (op = .start ∧ w.session.mode = .viewer ∧ w.renderer.result = none)

/-- What an operation can do to the picture. -/
inductive Effect (w w' : Workbench σ) (op : Operation) : Option RenderRequest → Prop where
  /-- The picture is left alone, and it is still one of the source, if it is shown. -/
  | quiet (mode : w'.session.mode = w.session.mode)
      (source : w.session.mode = .viewer → w'.session.source = w.session.source)
      (result : op = .start → w.session.mode = .viewer → w.renderer.result ≠ none)
      (issued : w'.renderer.issued = w.renderer.issued) (pending : w'.renderer.pending = w.renderer.pending)
      (shown : w'.renderer.result = w.renderer.result) : Effect w w' op none
  /-- A picture of the source is asked for. -/
  | asked (asks : Asks w w' op) (mode : w'.session.mode = .viewer)
      (issued : w'.renderer.issued = w.renderer.issued + 1)
      (pending : w'.renderer.pending = some (w.renderer.issued + 1))
      (shown : w'.renderer.result = some .loading) :
      Effect w w' op (some ⟨w.renderer.issued + 1, w'.session.source⟩)
  /-- The viewer is left, and with it the picture. -/
  | left (before : w.session.mode = .viewer) (mode : w'.session.mode = .editor)
      (source : w'.session.source = w.session.source) (start : op ≠ .start)
      (issued : w'.renderer.issued = w.renderer.issued) (pending : w'.renderer.pending = none)
      (shown : w'.renderer.result = none) : Effect w w' op none

/-- A request is made exactly where one is called for. -/
theorem Effect.isSome_iff {w w' : Workbench σ} {op : Operation} {request : Option RenderRequest}
    (effect : Effect w w' op request) : request.isSome ↔ Asks w w' op := by
  cases effect with
  | quiet mode source result issued pending shown =>
    constructor
    · intro none_
      cases none_
    · rintro (⟨editor, viewer⟩ | ⟨viewer, changed⟩ | ⟨start, viewer, nothing⟩)
      · rw [mode, editor] at viewer
        cases viewer
      · exact absurd (source viewer) changed
      · exact absurd nothing (result start viewer)
  | asked asks => exact ⟨fun _ => asks, fun _ => rfl⟩
  | left before mode source start issued pending shown =>
    constructor
    · intro none_
      cases none_
    · rintro (⟨editor, _⟩ | ⟨_, changed⟩ | ⟨started, _⟩)
      · rw [before] at editor
        cases editor
      · exact absurd source changed
      · exact absurd started start

/-! ## One operation -/

/-- A session that was changed, followed by the viewer. -/
theorem follow_effect (w : Workbench σ) {session : Session σ} {op : Operation} (start : op ≠ .start)
    (mode : session.mode = w.session.mode) : Effect w (w.follow session).2 op (w.follow session).1 := by
  dsimp only [follow]
  split
  · next changed =>
    have viewer : w.session.mode = .viewer := mode ▸ changed.2
    exact .asked (.inr (.inl ⟨viewer, changed.1⟩)) changed.2 rfl rfl rfl
  · next kept =>
    refine .quiet mode ?_ (fun started => absurd started start) rfl rfl rfl
    intro viewer
    exact Decidable.byContradiction fun changed => kept ⟨changed, mode.trans viewer⟩

/-- Something is done to the session that changes neither its mode nor, in the viewer, its source. -/
theorem quiet_effect (w : Workbench σ) {session : Session σ} {op : Operation} (start : op ≠ .start)
    (mode : session.mode = w.session.mode)
    (source : w.session.mode = .viewer → session.source = w.session.source) :
    Effect w { w with session := session } op none :=
  .quiet mode source (fun started => absurd started start) rfl rfl rfl

theorem start_effect (w : Workbench σ) : Effect w w.start.2 .start w.start.1 := by
  unfold start
  split
  · next first =>
    have nothing : w.renderer.result = none := Option.isNone_iff_eq_none.mp first.2
    exact .asked (.inr (.inr ⟨rfl, first.1, nothing⟩)) first.1 rfl rfl rfl
  · next kept =>
    refine .quiet rfl (fun _ => rfl) ?_ rfl rfl rfl
    intro _ viewer nothing
    exact kept ⟨viewer, by rw [nothing]; rfl⟩

theorem generate_effect (w : Workbench σ) : Effect w w.generate.2 .generate w.generate.1 := by
  unfold generate Session.generate Session.switch
  by_cases viewer : w.session.mode = .viewer
  · simp only [viewer, if_true]
    exact .quiet rfl (fun _ => rfl) (fun started => nomatch started) rfl rfl rfl
  · have editor : w.session.mode = .editor := by
      cases mode : w.session.mode with
      | editor => rfl
      | viewer => exact absurd mode viewer
    simp only [viewer, if_false]
    exact .asked (.inl ⟨editor, rfl⟩) rfl rfl rfl rfl

theorem back_effect (w : Workbench σ) : Effect w w.back.2 .back none := by
  unfold back Session.back Session.switch
  by_cases editor : w.session.mode = .editor
  · simp only [editor, if_true]
    exact .quiet rfl (fun _ => rfl) (fun started => nomatch started) rfl rfl rfl
  · have viewer : w.session.mode = .viewer := by
      cases mode : w.session.mode with
      | editor => exact absurd mode editor
      | viewer => rfl
    simp only [editor, if_false]
    exact .left viewer rfl rfl nofun rfl rfl rfl

/-- A key press is for the editor, in which there is no picture to follow the source. -/
theorem press_effect (w : Workbench σ) (chord : Chord) :
    Effect w (w.press chord).2 (.press chord) none := by
  unfold press
  split
  · next editor =>
    have notViewer : w.session.mode ≠ .viewer := by rw [editor]; nofun
    split
    · next shortcut _ =>
      have start : Operation.press chord ≠ .start := nofun
      refine quiet_effect w start ?_ ?_
      · cases shortcut.command with
        | undo => exact Session.undo_mode w.session
        | redo => exact Session.redo_mode w.session
      · exact fun viewer => absurd viewer notViewer
    · exact .quiet rfl (fun _ => rfl) (fun started => nomatch started) rfl rfl rfl
  · exact .quiet rfl (fun _ => rfl) (fun started => nomatch started) rfl rfl rfl

theorem move_effect (w : Workbench σ) (move : Viewport.Move) :
    Effect w ((w.move? move).getD w) (.move move) none := by
  unfold move? Renderer.move?
  split <;> exact .quiet rfl (fun _ => rfl) (fun started => nomatch started) rfl rfl rfl

/-- Every operation has one of the three effects. -/
theorem perform_effect [Storage σ] (w : Workbench σ) (op : Operation) :
    Effect w (w.perform op).2 op (w.perform op).1 := by
  cases op with
  | start => exact start_effect w
  | setText text => exact follow_effect w nofun (Session.setText_mode w.session text)
  | replaceText text => exact follow_effect w nofun (Session.replaceText_mode w.session text)
  | setTitle title =>
    exact quiet_effect w nofun (Session.setTitle_mode w.session title)
      fun _ => Session.setTitle_source w.session title
  | clear => exact follow_effect w nofun (Session.clear_mode w.session)
  | undo => exact follow_effect w nofun (Session.undo_mode w.session)
  | redo => exact follow_effect w nofun (Session.redo_mode w.session)
  | generate => exact generate_effect w
  | back => exact back_effect w
  | press chord => exact press_effect w chord
  | tick =>
    have same := Session.tick_sameEditing w.session
    exact quiet_effect w nofun same.mode fun _ => same.source
  | flush =>
    have same := Session.flush_sameEditing w.session
    exact quiet_effect w nofun same.mode fun _ => same.source
  | move move => exact move_effect w move
  | compose size time => exact .quiet rfl (fun _ => rfl) (fun started => nomatch started) rfl rfl rfl
  | wait milliseconds => exact quiet_effect w nofun rfl fun _ => rfl

/-! ## Runs -/

/-- A workbench with what has passed between it and the engine. -/
structure Trace (σ : Type) where
  workbench : Workbench σ
  /-- The requests that were made, the newest first. -/
  issued : List RenderRequest
  /-- The outcomes that were handed back, each with its request, the oldest first. -/
  delivered : List (RenderRequest × Outcome)

/-- What happens in a run. An outcome is one of a request that has been made, told by its place among
    these; where there is none, nothing happens. -/
inductive Step where
  | operate (op : Operation)
  | deliver (place : Nat) (outcome : Outcome)

namespace Trace

/-- A run that has not begun. -/
def ofWorkbench (w : Workbench σ) : Trace σ := ⟨w, [], []⟩

variable [Storage σ]

def step (t : Trace σ) : Step → Trace σ
  | .operate op =>
    ⟨(t.workbench.perform op).2, (t.workbench.perform op).1.toList ++ t.issued, t.delivered⟩
  | .deliver place outcome =>
    match t.issued[place]? with
    | some request =>
      ⟨(t.workbench.resolve request outcome).2, t.issued, t.delivered ++ [(request, outcome)]⟩
    | none => t

def run (t : Trace σ) (steps : List Step) : Trace σ :=
  steps.foldl step t

end Trace

end DiagramStudio.Workbench
