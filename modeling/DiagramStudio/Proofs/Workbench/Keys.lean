import DiagramStudio.Proofs.Text.Case
import DiagramStudio.Proofs.Workbench.Picture

/-!
Keys. A chord is bound to a command or to none (`Chord.Binds`). A key press changes the session and leaves it at
that, where undo and redo go on to ask for a picture if the viewer has to follow the source. Since keys work in the
editor only, there is never one to ask for: whatever is done with keys can be done without them, request by request
(`Trace.run_without_keys`).
-/

namespace DiagramStudio

namespace Chord

/-- What a chord is bound to. Control or meta is held, and the key is the letter Z or Y, large or small. -/
inductive Binds (c : Chord) : EditCommand → Prop where
  | undo (held : c.ctrl ∨ c.meta_) (key : c.key = "z" ∨ c.key = "Z") (shift : c.shift = false) : Binds c .undo
  | redo (held : c.ctrl ∨ c.meta_) (key : c.key = "z" ∨ c.key = "Z") (shift : c.shift = true) : Binds c .redo
  | redoY (held : c.ctrl ∨ c.meta_) (key : c.key = "y" ∨ c.key = "Y") : Binds c .redo

theorem hasKey_iff {letter : Char} (small : letter.isLower) (c : Chord) :
    c.hasKey letter = true ↔ c.key = String.ofList [letter] ∨ c.key = String.ofList [letter.toUpper] := by
  have spelled (s : List Char) : c.key.toList = s ↔ c.key = String.ofList s := by
    rw [← String.toList_inj, String.toList_ofList]
  rw [hasKey, Text.sameFolded_letter_iff small, spelled, spelled]

theorem command?_eq_some_iff {c : Chord} {command : EditCommand} :
    c.command? = some command ↔ c.Binds command := by
  have isZ : c.hasKey 'z' = true ↔ c.key = "z" ∨ c.key = "Z" := hasKey_iff (by decide) c
  have isY : c.hasKey 'y' = true ↔ c.key = "y" ∨ c.key = "Y" := hasKey_iff (by decide) c
  unfold command?
  constructor
  · intro found
    split at found
    · next held =>
      have held : c.ctrl ∨ c.meta_ := by simpa using held
      split at found
      · next z =>
        cases shift : c.shift with
        | false =>
          simp only [shift, Bool.false_eq_true, if_false, Option.some.injEq] at found
          exact found ▸ .undo held (isZ.mp z) shift
        | true =>
          simp only [shift, if_true, Option.some.injEq] at found
          exact found ▸ .redo held (isZ.mp z) shift
      · split at found
        · next y =>
          cases found
          exact .redoY held (isY.mp y)
        · cases found
    · cases found
  · intro binds
    cases binds with
    | undo held key shift => simp [held, isZ.mpr key, shift]
    | redo held key shift => simp [held, isZ.mpr key, shift]
    | redoY held key =>
      have noZ : ¬c.hasKey 'z' = true := by
        rw [isZ]
        rcases key with key | key <;> rw [key] <;> decide
      simp [held, noZ, isY.mpr key]

/-- The chords that are bound to something. -/
theorem exists_binds_iff {c : Chord} :
    (∃ command, c.Binds command) ↔ (c.ctrl ∨ c.meta_) ∧ c.key ∈ ["z", "Z", "y", "Y"] := by
  have listed : c.key ∈ ["z", "Z", "y", "Y"] ↔ (c.key = "z" ∨ c.key = "Z") ∨ (c.key = "y" ∨ c.key = "Y") := by
    simp [or_assoc]
  rw [listed]
  constructor
  · rintro ⟨command, binds⟩
    cases binds with
    | undo held key => exact ⟨held, .inl key⟩
    | redo held key => exact ⟨held, .inl key⟩
    | redoY held key => exact ⟨held, .inr key⟩
  · rintro ⟨held, z | y⟩
    · cases shift : c.shift with
      | false => exact ⟨_, .undo held z shift⟩
      | true => exact ⟨_, .redo held z shift⟩
    · exact ⟨_, .redoY held y⟩

end Chord

namespace Workbench

/-- The operation that carries out a command. -/
def Operation.ofCommand : EditCommand → Operation
  | .undo => .undo
  | .redo => .redo

variable {σ : Type} {w : Workbench σ} {chord : Chord}

/-! ## One key press -/

theorem press_of_viewer (viewer : w.session.mode = .viewer) (chord : Chord) : w.press chord = (none, w) := by
  simp [press, viewer]

theorem press_of_unbound (unbound : ∀ command, ¬chord.Binds command) (w : Workbench σ) :
    w.press chord = (none, w) := by
  have nothing : chord.command? = none := by
    cases found : chord.command? with
    | none => rfl
    | some command => exact absurd (Chord.command?_eq_some_iff.mp found) (unbound command)
  simp [press, Chord.shortcut?, nothing]

/-- In the editor there is no picture to follow the source. -/
theorem follow_of_editor {session : Session σ} (w : Workbench σ) (editor : session.mode = .editor) :
    w.follow session = (none, { w with session := session }) := by
  simp [follow, editor]

/-- In the editor a key press is the command that it is bound to, and carrying that out makes no request. -/
theorem press_of_binds [Storage σ] (editor : w.session.mode = .editor) {command : EditCommand}
    (binds : chord.Binds command) :
    ∃ after, w.press chord = (some ⟨command, true⟩, after) ∧
      w.perform (.ofCommand command) = (none, after) ∧ after.renderer = w.renderer := by
  have found : chord.shortcut? = some ⟨command, true⟩ := by
    rw [Chord.shortcut?, Chord.command?_eq_some_iff.mpr binds]
    rfl
  cases command with
  | undo =>
    refine ⟨{ w with session := w.session.undo.2 }, ?_, ?_, rfl⟩
    · simp [press, editor, found]
    · exact follow_of_editor w ((Session.undo_mode w.session).trans editor)
  | redo =>
    refine ⟨{ w with session := w.session.redo.2 }, ?_, ?_, rfl⟩
    · simp [press, editor, found]
    · exact follow_of_editor w ((Session.redo_mode w.session).trans editor)

/-- A key press in the editor is a command that the chord is bound to, or nothing at all. -/
theorem press_cases [Storage σ] (editor : w.session.mode = .editor) (chord : Chord) :
    (∃ command after, chord.Binds command ∧ w.press chord = (some ⟨command, true⟩, after) ∧
      w.perform (.ofCommand command) = (none, after) ∧ after.renderer = w.renderer) ∨
    (∀ command, ¬chord.Binds command) ∧ w.press chord = (none, w) := by
  by_cases bound : ∃ command, chord.Binds command
  · obtain ⟨command, binds⟩ := bound
    obtain ⟨after, pressed⟩ := press_of_binds editor binds
    exact .inl ⟨command, after, binds, pressed⟩
  · exact .inr ⟨not_exists.mp bound, press_of_unbound (not_exists.mp bound) w⟩

/-- What a key press in the editor tells is what the chord is bound to. -/
theorem press_eq_some_iff [Storage σ] (editor : w.session.mode = .editor) {shortcut : Shortcut} :
    (w.press chord).1 = some shortcut ↔ chord.Binds shortcut.command ∧ shortcut.preventDefault = true := by
  constructor
  · intro told
    rcases press_cases editor chord with ⟨command, after, binds, pressed, _⟩ | ⟨_, still⟩
    · rw [pressed] at told
      cases told
      exact ⟨binds, rfl⟩
    · rw [still] at told
      cases told
  · rintro ⟨binds, prevents⟩
    obtain ⟨after, pressed, _⟩ := press_of_binds editor binds
    rw [pressed, ← prevents]

/-! ## Runs -/

namespace Trace

variable [Storage σ] {t : Trace σ}

theorem run_cons (t : Trace σ) (first : Step) (more : List Step) :
    t.run (first :: more) = (t.step first).run more := rfl

/-- A key press that is bound to nothing, or is made in the viewer, is no step at all. -/
theorem step_press_of_eq (still : t.workbench.press chord = (none, t.workbench)) :
    t.step (.operate (.press chord)) = t := by
  simp [step, perform, still]

theorem step_press_of_binds (editor : t.workbench.session.mode = .editor) {command : EditCommand}
    (binds : chord.Binds command) :
    t.step (.operate (.press chord)) = t.step (.operate (.ofCommand command)) := by
  obtain ⟨after, pressed, performed, _⟩ := press_of_binds editor binds
  simp only [step, performed]
  simp [perform, pressed]

/-- Whatever is done with keys can be done without them, with the same requests made on the way. -/
theorem run_without_keys (t : Trace σ) (steps : List Step) :
    ∃ others : List Step, (∀ chord, .operate (.press chord) ∉ others) ∧ t.run others = t.run steps := by
  induction steps generalizing t with
  | nil => exact ⟨[], nofun, rfl⟩
  | cons first more ih =>
    obtain ⟨others, keyless, same⟩ := ih (t.step first)
    by_cases press : ∃ chord, first = .operate (.press chord)
    · obtain ⟨chord, rfl⟩ := press
      by_cases acts : t.workbench.session.mode = .editor ∧ ∃ command, chord.Binds command
      · obtain ⟨editor, command, binds⟩ := acts
        refine ⟨.operate (.ofCommand command) :: others, ?_, ?_⟩
        · intro chord member
          rcases List.mem_cons.mp member with equal | later
          · cases command <;> cases equal
          · exact keyless chord later
        · calc t.run (.operate (.ofCommand command) :: others)
              = (t.step (.operate (.press chord))).run others := by rw [run_cons, step_press_of_binds editor binds]
            _ = t.run (.operate (.press chord) :: more) := same
      · have still : t.workbench.press chord = (none, t.workbench) := by
          cases mode : t.workbench.session.mode with
          | viewer => exact press_of_viewer mode chord
          | editor => exact press_of_unbound (fun command binds => acts ⟨mode, command, binds⟩) _
        refine ⟨others, keyless, ?_⟩
        calc t.run others
            = (t.step (.operate (.press chord))).run others := by rw [step_press_of_eq still]
          _ = t.run (.operate (.press chord) :: more) := same
    · refine ⟨first :: others, ?_, same⟩
      intro chord member
      rcases List.mem_cons.mp member with equal | later
      · exact press ⟨chord, equal.symm⟩
      · exact keyless chord later

omit [Storage σ] in
/-- In the editor nothing is shown or waited for. -/
theorem Picture.of_editor {opened : ViewMode} (picture : Picture opened t)
    (editor : t.workbench.session.mode = .editor) :
    t.workbench.renderer.pending = none ∧ t.workbench.renderer.result = none := by
  cases picture with
  | editing _ pending result => exact ⟨pending, result⟩
  | untouched viewer => exact absurd (editor.symm.trans viewer) (by decide)
  | waiting _ _ viewer => exact absurd (editor.symm.trans viewer) (by decide)
  | answered _ _ _ viewer => exact absurd (editor.symm.trans viewer) (by decide)

/-- After any run, a key press in the viewer tells nothing and changes nothing. In the editor it tells a command
    exactly if control or meta is held and the key is Z or Y, large or small: undo on Z without shift, and redo
    otherwise. Then it leaves the workbench that undo or redo would leave, neither of which makes a request; nothing is
    shown or waited for, before or after. Otherwise it changes nothing. -/
theorem keys_undo_and_redo (config : Config) (storage : σ) (location : Location) (time : Nat)
    (steps : List Step) (chord : Chord) :
    let t := (ofWorkbench (open_ config storage location time)).run steps
    let w := t.workbench
    (w.session.mode = .viewer → w.press chord = (none, w)) ∧
    (w.session.mode = .editor →
      ((w.press chord).1.isSome ↔ (chord.ctrl ∨ chord.meta_) ∧ chord.key ∈ ["z", "Z", "y", "Y"]) ∧
      (∀ shortcut, (w.press chord).1 = some shortcut ↔
        chord.Binds shortcut.command ∧ shortcut.preventDefault = true) ∧
      ((w.press chord).1 = none → (w.press chord).2 = w) ∧
      (chord.Binds .undo → w.undo = (none, (w.press chord).2)) ∧
      (chord.Binds .redo → w.redo = (none, (w.press chord).2)) ∧
      (∀ command, chord.Binds command →
        t.step (.operate (.press chord)) = t.step (.operate (.ofCommand command))) ∧
      (w.press chord).2.renderer = w.renderer ∧ w.renderer.pending = none ∧ w.renderer.result = none) := by
  intro t w
  refine ⟨fun viewer => press_of_viewer viewer chord, fun editor => ?_⟩
  have picture := (run_inStep (ofWorkbench_inStep config storage location time) steps).picture
  have carriedOut {command : EditCommand} (binds : chord.Binds command) :
      w.perform (.ofCommand command) = (none, (w.press chord).2) := by
    obtain ⟨after, pressed, performed, _⟩ := press_of_binds editor binds
    rw [performed, pressed]
  refine ⟨?_, fun shortcut => press_eq_some_iff editor, ?_, carriedOut, carriedOut,
    fun command binds => step_press_of_binds editor binds, ?_, picture.of_editor editor⟩
  · rw [← Chord.exists_binds_iff, Option.isSome_iff_exists]
    constructor
    · rintro ⟨shortcut, told⟩
      exact ⟨_, ((press_eq_some_iff editor).mp told).1⟩
    · rintro ⟨command, binds⟩
      exact ⟨⟨command, true⟩, (press_eq_some_iff editor).mpr ⟨binds, rfl⟩⟩
  · intro told
    rcases press_cases editor chord with ⟨command, after, _, pressed, _⟩ | ⟨_, still⟩
    · rw [pressed] at told
      cases told
    · rw [still]
  · rcases press_cases editor chord with ⟨command, after, _, pressed, _, renderer⟩ | ⟨_, still⟩
    · rw [pressed, renderer]
    · rw [still]

end Trace

end Workbench

end DiagramStudio
