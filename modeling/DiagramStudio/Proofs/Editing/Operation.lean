import DiagramStudio.Editing.Session

/-!
Everything that can be done to a session, as one type, and sessions after any row of it. What an
operation leaves alone is said here field by field, so that no later proof opens an operation again.
-/

namespace DiagramStudio.Session

/-- What can be done to a session; time may go by at any point. -/
inductive Operation where
  | setText (text : String)
  | replaceText (text : String)
  | setTitle (title : String)
  | clear
  | undo
  | redo
  | generate
  | back
  | tick
  | flush
  | save
  | wait (milliseconds : Nat)
deriving Repr, DecidableEq

variable {σ : Type}

/-- The session after one operation. -/
def after [Storage σ] (s : Session σ) : Operation → Session σ
  | .setText text => (s.setText text).2
  | .replaceText text => (s.replaceText text).2
  | .setTitle title => (s.setTitle title).2
  | .clear => s.clear
  | .undo => s.undo.2
  | .redo => s.redo.2
  | .generate => s.generate.2
  | .back => s.back.2
  | .tick => s.tick.2
  | .flush => s.flush.2
  | .save => s.save.2
  | .wait milliseconds => s.advance milliseconds

/-- The session after a row of operations. -/
def afterAll [Storage σ] (s : Session σ) (operations : List Operation) : Session σ :=
  operations.foldl after s

@[simp] theorem afterAll_cons [Storage σ] (s : Session σ) (op : Operation) (more : List Operation) :
    s.afterAll (op :: more) = (s.after op).afterAll more := rfl

/-! ## Changing one thing -/

theorem setText_mode (s : Session σ) (text : String) : (s.setText text).2.mode = s.mode := by
  unfold setText
  split <;> rfl

theorem setText_source (s : Session σ) (text : String) : (s.setText text).2.source = text := by
  unfold setText
  split
  · next same => exact same.symm
  · rfl

theorem setText_title (s : Session σ) (text : String) : (s.setText text).2.title = s.title := by
  unfold setText
  split <;> rfl

theorem replaceText_mode (s : Session σ) (text : String) : (s.replaceText text).2.mode = s.mode := by
  unfold replaceText
  split <;> rfl

theorem travel_mode (s : Session σ) (goal : Option (String × History)) : (s.travel goal).2.mode = s.mode := by
  unfold travel
  split
  · rfl
  · simp only
    split <;> rfl

theorem undo_mode (s : Session σ) : s.undo.2.mode = s.mode := travel_mode s _

theorem redo_mode (s : Session σ) : s.redo.2.mode = s.mode := travel_mode s _

theorem setTitle_mode (s : Session σ) (title : String) : (s.setTitle title).2.mode = s.mode := by
  unfold setTitle
  split <;> rfl

theorem setTitle_source (s : Session σ) (title : String) : (s.setTitle title).2.source = s.source := by
  unfold setTitle
  split <;> rfl

theorem clear_mode (s : Session σ) : s.clear.mode = s.mode := by
  rw [clear, setTitle_mode, setText_mode]

/-! ## Saving changes nothing that is edited -/

/-- Two sessions differ at most in what saving is about. -/
structure SameEditing (s s' : Session σ) : Prop where
  source : s'.source = s.source
  title : s'.title = s.title
  mode : s'.mode = s.mode
  history : s'.history = s.history
  location : s'.location = s.location

variable [Storage σ]

theorem persist_sameEditing (s : Session σ) : SameEditing s s.persist.2 := by
  unfold persist
  split
  · exact ⟨rfl, rfl, rfl, rfl, rfl⟩
  · split <;> exact ⟨rfl, rfl, rfl, rfl, rfl⟩

theorem save_sameEditing (s : Session σ) : SameEditing s s.save.2 := by
  obtain ⟨source, title, mode, history, location⟩ :=
    persist_sameEditing { s with autosave := s.autosave.cancel }
  exact ⟨source, title, mode, history, location⟩

theorem flush_sameEditing (s : Session σ) : SameEditing s s.flush.2 := by
  unfold flush
  split
  · exact ⟨rfl, rfl, rfl, rfl, rfl⟩
  · exact save_sameEditing s

theorem tick_sameEditing (s : Session σ) : SameEditing s s.tick.2 := by
  have saved := save_sameEditing s
  unfold tick
  split
  · split <;> simpa [*] using saved
  · exact ⟨rfl, rfl, rfl, rfl, rfl⟩

end DiagramStudio.Session
