import DiagramStudio.Proofs.Editing.Operation
import DiagramStudio.Proofs.Share.Token

/-!
The address of a session is never behind: after every operation its fragment is the token of what is
edited, and it has been replaced once for every field that an operation changed, no more often. Since
tokens can be read back (`SharedState.decode?_encode`), a session that is opened with the fragment
begins with the same source, title and view mode.
-/

namespace DiagramStudio.Session

variable {σ : Type}

/-- How many of source, title and view mode differ between two sessions. -/
def changes (s s' : Session σ) : Nat :=
  (if s'.source = s.source then 0 else 1) + (if s'.title = s.title then 0 else 1)
    + (if s'.mode = s.mode then 0 else 1)

/-- The changes of all steps of a row of operations together. -/
def changesAlong [Storage σ] (s : Session σ) : List Operation → Nat
  | [] => 0
  | op :: more => s.changes (s.after op) + (s.after op).changesAlong more

/-- The fragment of the address is the token of the session. -/
def InAddress (s : Session σ) : Prop := s.location.fragment = some s.token

/-- From one session to another the address is kept in step, with one replacement for every change. -/
structure Follows (s s' : Session σ) : Prop where
  inAddress : s.InAddress → s'.InAddress
  replacements : s'.location.replacements = s.location.replacements + s.changes s'

theorem sync_inAddress (s : Session σ) : s.sync.InAddress := rfl

@[simp] theorem changes_self (s : Session σ) : s.changes s = 0 := by
  simp [changes]

theorem follows_refl (s : Session σ) : Follows s s := ⟨id, by simp⟩

/-- What saving may change is not in the token. -/
theorem SameEditing.follows {s s' : Session σ} (same : SameEditing s s') : Follows s s' := by
  constructor
  · intro inAddress
    have token : s'.token = s.token := by simp [token, shared, same.source, same.title, same.mode]
    rw [InAddress, same.location, token]
    exact inAddress
  · simp [changes, same.source, same.title, same.mode, same.location]

/-! ## One change, one replacement -/

theorem withSource_follows (s : Session σ) (history : History) {text : String} (other : text ≠ s.source) :
    Follows s (({ s with history := history }).withSource text) := by
  refine ⟨fun _ => sync_inAddress _, ?_⟩
  have once : s.changes (({ s with history := history }).withSource text) = 1 := by
    simp [changes, withSource, sync, touch, other]
  rw [once]
  rfl

theorem setText_follows (s : Session σ) (text : String) : Follows s (s.setText text).2 := by
  unfold setText
  split
  · exact follows_refl s
  · next other => exact withSource_follows s _ other

theorem replaceText_follows (s : Session σ) (text : String) : Follows s (s.replaceText text).2 := by
  unfold replaceText
  split
  · exact follows_refl s
  · next other => exact withSource_follows s s.history other

theorem travel_follows (s : Session σ) (goal : Option (String × History)) : Follows s (s.travel goal).2 := by
  rcases goal with _ | ⟨text, history⟩
  · exact follows_refl s
  · simp only [travel]
    split
    · -- The history moved and the source is what it was.
      exact ⟨id, by simp [changes]⟩
    · next other => exact withSource_follows s history other

theorem setTitle_follows (s : Session σ) (title : String) : Follows s (s.setTitle title).2 := by
  unfold setTitle
  split
  · exact follows_refl s
  · next other =>
    refine ⟨fun _ => sync_inAddress _, ?_⟩
    have once : s.changes ({ s with title := title }).touch.sync = 1 := by
      simp [changes, sync, touch, other]
    rw [once]
    rfl

theorem switch_follows (s : Session σ) (mode : ViewMode) : Follows s (s.switch mode).2 := by
  unfold switch
  split
  · exact follows_refl s
  · next other =>
    refine ⟨fun _ => sync_inAddress _, ?_⟩
    have once : s.changes ({ s with mode := mode }).sync = 1 := by
      simp [changes, sync, Ne.symm other]
    rw [once]
    rfl

/-- Clearing replaces once for the source and once for the title, each only if it was not empty. -/
theorem clear_changes (s : Session σ) :
    s.changes s.clear = (if s.source = "" then 0 else 1) + (if s.title = "" then 0 else 1) := by
  have source : s.clear.source = "" := by rw [clear, setTitle_source, setText_source]
  have title : s.clear.title = "" := by
    unfold clear setTitle
    split
    · next same => exact same.symm
    · rfl
  simp only [changes, source, title, clear_mode, if_true, Nat.add_zero, eq_comm]

theorem clear_follows (s : Session σ) : Follows s s.clear := by
  obtain ⟨_, first⟩ := setText_follows s ""
  obtain ⟨kept, second⟩ := setTitle_follows (s.setText "").2 ""
  refine ⟨fun inAddress => kept ((setText_follows s "").inAddress inAddress), ?_⟩
  -- The source is not changed by the second step, nor the title by the first.
  have apart : s.changes s.clear =
      s.changes (s.setText "").2 + (s.setText "").2.changes s.clear := by
    rw [changes, changes, changes, clear, setTitle_source, setText_title, setTitle_mode, setText_mode]
    simp
  rw [apart, ← Nat.add_assoc, ← first]
  exact second

/-! ## Runs -/

variable [Storage σ]

theorem after_follows (s : Session σ) (op : Operation) : Follows s (s.after op) := by
  cases op with
  | setText text => exact setText_follows s text
  | replaceText text => exact replaceText_follows s text
  | setTitle title => exact setTitle_follows s title
  | clear => exact clear_follows s
  | undo => exact travel_follows s _
  | redo => exact travel_follows s _
  | generate => exact switch_follows s .viewer
  | back => exact switch_follows s .editor
  | tick => exact (tick_sameEditing s).follows
  | flush => exact (flush_sameEditing s).follows
  | save => exact (save_sameEditing s).follows
  | wait milliseconds => exact ⟨id, by simp [after, advance, changes]⟩

theorem afterAll_inAddress {s : Session σ} (inAddress : s.InAddress) (operations : List Operation) :
    (s.afterAll operations).InAddress := by
  induction operations generalizing s with
  | nil => exact inAddress
  | cons op more ih => exact ih ((after_follows s op).inAddress inAddress)

theorem afterAll_replacements (s : Session σ) (operations : List Operation) :
    (s.afterAll operations).location.replacements =
      s.location.replacements + s.changesAlong operations := by
  induction operations generalizing s with
  | nil => rfl
  | cons op more ih =>
    rw [afterAll_cons, ih, (after_follows s op).replacements, changesAlong, Nat.add_assoc]

/-- Where a state can be made of what the address carries, that state is what a session begins with. -/
theorem load_of_decode? {τ : Type} [Storage τ] (config : Config) (storage : τ) {fragment : String} {shared : SharedState}
    (decoded : SharedState.decode? fragment.toList = some shared) (replacements time : Nat) :
    let s := load config storage ⟨some fragment, replacements⟩ time
    s.shared = shared ∧ s.origin = .link := by
  simp [load, initial, decoded, sync, Session.shared]

theorem load_token {τ : Type} [Storage τ] (config : Config) (storage : τ) (shared : SharedState)
    (replacements time : Nat) :
    let s := load config storage ⟨some (String.ofList shared.encode), replacements⟩ time
    s.shared = shared ∧ s.origin = .link :=
  load_of_decode? config storage (by rw [String.toList_ofList, SharedState.decode?_encode]) replacements time

/-- The address of a session after any row of operations. -/
theorem address_follows_editing (config : Config) (storage : σ) (location : Location) (time : Nat)
    (operations : List Operation) :
    let opened := load config storage location time
    let s := opened.afterAll operations
    s.location.fragment = some s.token ∧
    (∀ (τ : Type) [Storage τ] (config' : Config) (storage' : τ) (replacements time' : Nat),
      let again := load config' storage' ⟨s.location.fragment, replacements⟩ time'
      again.source = s.source ∧ again.title = s.title ∧ again.mode = s.mode ∧ again.origin = .link) ∧
    s.location.replacements = location.replacements + 1 + opened.changesAlong operations ∧
    (∀ op, (s.after op).location.replacements = s.location.replacements + s.changes (s.after op)) ∧
    (∀ op ∈ [Operation.tick, .flush, .save], s.changes (s.after op) = 0) ∧
    s.changes s.clear = (if s.source = "" then 0 else 1) + (if s.title = "" then 0 else 1) := by
  intro opened s
  have inAddress : s.InAddress := afterAll_inAddress (sync_inAddress _) operations
  refine ⟨inAddress, ?_, ?_, fun op => (after_follows s op).replacements, ?_, clear_changes s⟩
  · intro τ _ config' storage' replacements time'
    have same := load_token config' storage' s.shared replacements time'
    rw [inAddress]
    have parts := same.1
    simp only [shared, SharedState.mk.injEq] at parts
    exact ⟨parts.1, parts.2.1, parts.2.2, same.2⟩
  · exact afterAll_replacements opened operations
  · intro op saving
    have same : SameEditing s (s.after op) := by
      simp only [List.mem_cons, List.not_mem_nil, or_false] at saving
      rcases saving with rfl | rfl | rfl
      · exact tick_sameEditing s
      · exact flush_sameEditing s
      · exact save_sameEditing s
    simp [changes, same.source, same.title, same.mode]

end DiagramStudio.Session
