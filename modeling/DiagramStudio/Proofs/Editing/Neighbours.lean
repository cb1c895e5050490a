import Mathlib.Data.List.Chain
import DiagramStudio.Proofs.Editing.Timeline

/-!
Versions that differ from their neighbours. What is put on a timeline is never the text that it replaces, so as long as
no version is overwritten, no two neighbouring ones are the same (`Varied.after`), whatever is dropped and however the
cursor moves. Going back and coming forward therefore always lead to another source (`neighbours_differ`).
-/

namespace DiagramStudio

/-- The history takes note of what the operation replaces. -/
def Session.Operation.IsTracked (op : Session.Operation) : Prop := ∀ text, op ≠ .replaceText text

namespace Timeline

/-! ## Neighbours on a timeline -/

/-- No version is the same as the one behind it. -/
def Varied (t : Timeline) : Prop := t.versions.IsChain (· ≠ ·)

variable {t : Timeline}

theorem varied_ofText (limit : Nat) (text : String) : (ofText limit text).Varied := List.isChain_singleton text

/-- The version at the cursor is the last of those up to it. -/
theorem getLast?_take (t : Timeline) : (t.versions.take (t.cursor + 1)).getLast? = some t.current := by
  rw [List.take_succ_eq_append_getElem t.inside, List.getLast?_concat]
  rfl

theorem Varied.edit (varied : t.Varied) (text : String) : (t.edit text).2.Varied := by
  unfold Timeline.edit
  split
  · exact varied
  · next other =>
    have before : (t.versions.take (t.cursor + 1)).IsChain (· ≠ ·) := List.IsChain.take varied _
    refine List.IsChain.drop (before.append (List.isChain_singleton text) ?_) _
    intro last isLast first isFirst
    rw [getLast?_take] at isLast
    cases isLast
    cases isFirst
    exact Ne.symm other

/-- The cursor moves, and the versions stay. -/
theorem versions_back (t : Timeline) : t.back.2.versions = t.versions := by
  unfold back
  split <;> rfl

theorem versions_forward (t : Timeline) : t.forward.2.versions = t.versions := by
  unfold forward
  split <;> rfl

theorem Varied.after (varied : t.Varied) {op : Session.Operation} (tracked : op.IsTracked) : (t.after op).Varied := by
  cases op with
  | setText text => exact varied.edit text
  | clear => exact varied.edit ""
  | replaceText text => exact absurd rfl (tracked text)
  | undo => exact (congrArg (List.IsChain (· ≠ ·)) (versions_back t)).mpr varied
  | redo => exact (congrArg (List.IsChain (· ≠ ·)) (versions_forward t)).mpr varied
  | _ => exact varied

theorem Varied.afterAll (varied : t.Varied) {operations : List Session.Operation}
    (tracked : ∀ op ∈ operations, op.IsTracked) : (t.afterAll operations).Varied := by
  induction operations generalizing t with
  | nil => exact varied
  | cons op more ih =>
    obtain ⟨first, others⟩ := List.forall_mem_cons.mp tracked
    exact ih (varied.after first) others

/-- A cursor that moves comes to another text. -/
theorem Varied.back_ne (varied : t.Varied) (moved : t.back.1 = true) : t.back.2.current ≠ t.current := by
  have first : t.cursor ≠ 0 := fun first => by simp [back, first] at moved
  have inside := t.inside
  have differ := List.isChain_iff_getElem.mp varied (t.cursor - 1) (by omega)
  simp only [Nat.sub_add_cancel (Nat.pos_of_ne_zero first)] at differ
  simpa [back, first, current] using differ

theorem Varied.forward_ne (varied : t.Varied) (moved : t.forward.1 = true) : t.forward.2.current ≠ t.current := by
  have more : t.cursor + 1 < t.versions.length :=
    Decidable.byContradiction fun last => by simp [forward, last] at moved
  have differ := List.isChain_iff_getElem.mp varied t.cursor more
  simpa [forward, more, current] using differ.symm

end Timeline

namespace Session

variable {σ : Type}

/-! ## Going back and coming forward -/

theorem current_timeline (s : Session σ) : s.timeline.current = s.source := Timeline.current_around ..

/-- A journey to another source has to be saved, and its token is put into the address, once. -/
theorem travel_of_ne {s : Session σ} {goal : Option (String × History)} (other : (s.travel goal).2.source ≠ s.source) :
    (s.travel goal).1 = true ∧ (s.travel goal).2.status = .dirty ∧
      (s.travel goal).2.location = s.location.replace (s.travel goal).2.token := by
  rcases goal with _ | ⟨text, history⟩
  · exact absurd rfl other
  · have leads : text ≠ s.source := by
      rintro rfl
      simp [travel] at other
    have moved : s.travel (some (text, history)) = (true, ({ s with history := history }).withSource text) := by
      simp [travel, leads]
    rw [moved]
    exact ⟨rfl, rfl, rfl⟩

/-- Where a journey that goes anywhere leads to another source, it is known by that. -/
theorem travel_moves_iff {s : Session σ} {goal : Option (String × History)}
    (leads : (s.travel goal).1 = true → (s.travel goal).2.source ≠ s.source) :
    ((s.travel goal).1 = true ↔ (s.travel goal).2.source ≠ s.source) ∧
      ((s.travel goal).1 = true → (s.travel goal).2.status = .dirty ∧
        (s.travel goal).2.location = s.location.replace (s.travel goal).2.token) :=
  ⟨⟨leads, fun other => (travel_of_ne other).1⟩, fun moved => (travel_of_ne (leads moved)).2⟩

theorem undo_ne {s : Session σ} (varied : s.timeline.Varied) (moved : s.undo.1 = true) : s.undo.2.source ≠ s.source := by
  have back := timeline_undo s
  have movedBack : s.timeline.back.1 = true := (congrArg Prod.fst back).symm.trans moved
  have behind : s.undo.2.timeline = s.timeline.back.2 := congrArg Prod.snd back
  rw [← current_timeline, behind, ← current_timeline s]
  exact varied.back_ne movedBack

theorem redo_ne {s : Session σ} (bounded : s.timeline.Bounded) (varied : s.timeline.Varied) (moved : s.redo.1 = true) :
    s.redo.2.source ≠ s.source := by
  have forward := timeline_redo bounded
  have movedForward : s.timeline.forward.1 = true := (congrArg Prod.fst forward).symm.trans moved
  have ahead : s.redo.2.timeline = s.timeline.forward.2 := congrArg Prod.snd forward
  rw [← current_timeline, ahead, ← current_timeline s]
  exact varied.forward_ne movedForward

/-- After any row of operations of which the history takes note, no two neighbours among the earlier texts, the source
    and the later texts are the same. So going back and coming forward go somewhere just where they change the source,
    and every such step has to be saved and puts its token into the address, once. -/
theorem neighbours_differ [Storage σ] (config : Config) (storage : σ) (location : Location) (time : Nat)
    {operations : List Operation} (tracked : ∀ op ∈ operations, op.IsTracked) :
    let s := (load config storage location time).afterAll operations
    (s.history.snapshots ++ s.source :: s.history.later).IsChain (· ≠ ·) ∧
    ∀ move : Session σ → Bool × Session σ, move = undo ∨ move = redo →
      ((move s).1 = true ↔ (move s).2.source ≠ s.source) ∧
      ((move s).1 = true → (move s).2.status = .dirty ∧ (move s).2.location = s.location.replace (move s).2.token) := by
  intro s
  have first : (load config storage location time).timeline.Bounded := Nat.le_add_left 1 _
  obtain ⟨same, bounded⟩ := timeline_afterAll first operations
  have varied : s.timeline.Varied := by
    rw [same]
    exact (Timeline.varied_ofText ..).afterAll tracked
  refine ⟨varied, ?_⟩
  rintro move (rfl | rfl)
  · exact travel_moves_iff (undo_ne varied)
  · exact travel_moves_iff (redo_ne bounded varied)

/-- A source is changed and changed back, with room for one earlier text, and the history goes back over it. -/
theorem neighbours_differ_back_and_forth :
    let opened := load { editor := { historyLimit := 1 } } ({ slots := [("mermaid-go-code", "b")] } : MemoryStorage) {} 0
    let operations := [.setText "a", .setText "b", .setText "a", .clear, .undo, .redo, .undo]
    let s := opened.afterAll operations
    (∀ op ∈ operations, op.IsTracked) ∧ s.source = "a" ∧ s.redo.1 = true ∧ s.redo.2.source ≠ s.source ∧
      s.redo.2.location = s.location.replace s.redo.2.token := by
  intro opened operations s
  have tracked : ∀ op ∈ operations, op.IsTracked := by
    simp [operations, Operation.IsTracked]
  have moved : s.redo.1 = true := by rfl
  obtain ⟨_, moves⟩ := neighbours_differ { editor := { historyLimit := 1 } }
    ({ slots := [("mermaid-go-code", "b")] } : MemoryStorage) {} 0 tracked
  obtain ⟨leads, steps⟩ := moves redo (.inr rfl)
  exact ⟨tracked, by rfl, moved, leads.mp moved, (steps moved).2⟩

end Session

end DiagramStudio
