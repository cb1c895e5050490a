import DiagramStudio.Proofs.Finding.Breaches

/-!
What is turned down before it is drawn. Requests are turned down for what the validator reports as well: a
source without any text, and one whose first line with text opens no diagram (`precheck_agrees`). All other
requests reach the engine, which is asked once and for what was requested.
-/

namespace DiagramStudio

open Finding Source

/-! ## The pre-check and the validator -/

/-- The pre-check by what the trimmed source is. -/
theorem precheck_cases (source : List Char) :
    let text := Text.trim (Text.stripMark source)
    let unknown := DiagramKind.ofKeyword? (keyword text) = none ∧ ¬commentMark <+: text
    Text.isBlank (Text.stripMark source) = true ∧ precheck source = .error .emptySource ∨
    Text.isBlank (Text.stripMark source) = false ∧
      (unknown ∧ precheck source = .error .missingKind ∨ ¬unknown ∧ precheck source = .ok ()) := by
  intro text unknown
  have turned : ((DiagramKind.ofKeyword? (keyword text)).isNone && !commentMark.isPrefixOf text) = true ↔ unknown := by
    simp [unknown, ← List.isPrefixOf_iff_prefix]
  cases blank : Text.isBlank (Text.stripMark source) with
  | true =>
    have nothing : text.isEmpty = true := by simp [text, Text.trim_eq_nil_iff, blank]
    exact .inl ⟨rfl, if_pos nothing⟩
  | false =>
    have some_ : ¬text.isEmpty = true := by simp [text, Text.trim_eq_nil_iff, blank]
    refine .inr ⟨rfl, ?_⟩
    by_cases bad : unknown
    · exact .inl ⟨bad, (if_neg some_).trans (if_pos (turned.mpr bad))⟩
    · exact .inr ⟨bad, (if_neg some_).trans (if_neg (mt turned.mp bad))⟩

theorem precheck_emptySource_iff {source : List Char} :
    precheck source = .error .emptySource ↔ ∃ line, Reports (validate source) line .emptySource := by
  simp only [reports_iff_breaks, breaks_emptySource_iff, exists_eq_left, ← Text.isBlank_iff_lines]
  rcases precheck_cases source with ⟨blank, turned⟩ | ⟨written, ⟨_, turned⟩ | ⟨_, turned⟩⟩ <;> simp_all

/-- Unless it is a comment, the first line with text is the first that says something. -/
theorem isFirst_of_find {rows : List (List Char)} {row : List Char}
    (found : rows.find? (!Text.isBlank ·) = some row) (plain : ¬commentMark <+: Text.trim row) :
    ∃ line, IsFirst rows line row := by
  obtain ⟨written, front, back, rfl, blank⟩ := List.find?_eq_some_iff_append.mp found
  refine ⟨front.length + 1, ⟨Nat.succ_pos _, by simp⟩, ⟨by simpa using written, plain⟩, ?_⟩
  intro earlier r before isRow isContent
  have inside : r ∈ front := by
    have at_ := isRow.2
    rw [List.getElem?_append_left (by have := isRow.1; omega)] at at_
    exact List.mem_of_getElem? at_
  simpa [isContent.written] using blank r inside

theorem breaks_unknownKind_iff {rows : List (List Char)} {line : Nat} :
    Breaks rows line .unknownKind ↔
      ∃ row, IsFirst rows line row ∧ DiagramKind.ofKeyword? (keyword (Text.trim row)) = none := by
  constructor
  · rintro (_ | _ | ⟨first, bad⟩ | ⟨_, _, ⟨⟩⟩)
    exact ⟨_, first, misopens_unknownKind_iff.mp bad⟩
  · rintro ⟨row, first, none⟩
    exact .opening first (misopens_unknownKind_iff.mpr none)

theorem precheck_missingKind_iff {source : List Char} :
    precheck source = .error .missingKind ↔
      (∃ row, (Text.lines (Text.stripMark source)).find? (!Text.isBlank ·) = some row ∧
        ¬commentMark <+: Text.trim row) ∧
      ∃ line, Reports (validate source) line .unknownKind := by
  simp only [reports_iff_breaks, breaks_unknownKind_iff]
  rcases precheck_cases source with ⟨blank, turned⟩ | ⟨written, decided⟩
  · rw [turned]
    constructor
    · rintro ⟨⟩
    · rintro ⟨⟨row, found, _⟩, _⟩
      have row_ := (Text.isBlank_iff_lines _).mp blank row (List.mem_of_find?_eq_some found)
      simpa [row_] using List.find?_some found
  · obtain ⟨row, found⟩ : ∃ row, (Text.lines (Text.stripMark source)).find? (!Text.isBlank ·) = some row := by
      rw [← Option.isSome_iff_exists, List.find?_isSome]
      simpa using mt (Text.isBlank_iff_lines _).mpr (by simp [written])
    obtain ⟨row_, front, back, rows, blank⟩ := List.find?_eq_some_iff_append.mp found
    -- The pre-check looks at the trimmed source, the validator at this line: both open alike.
    have alike := opens_alike rows (by simpa using blank) (by simpa using row_)
    rw [alike.keyword, alike.prefix_iff] at decided
    constructor
    · intro missing
      rcases decided with ⟨⟨none, plain⟩, _⟩ | ⟨_, passed⟩
      · obtain ⟨line, first⟩ := isFirst_of_find found plain
        exact ⟨⟨row, found, plain⟩, line, row, first, none⟩
      · cases passed.symm.trans missing
    · rintro ⟨⟨row', found', plain⟩, line, row'', first, none⟩
      obtain rfl := Option.some.inj (found.symm.trans found')
      obtain ⟨line', first'⟩ := isFirst_of_find found plain
      obtain ⟨_, rfl⟩ := first.unique first'
      rcases decided with ⟨_, missing⟩ | ⟨known, _⟩
      · exact missing
      · exact absurd ⟨none, plain⟩ known

/-! ## What reaches the engine -/

/-- The engine, with a list of what it was asked for. -/
def Engine.recorded {m : Type → Type} [Monad m] (engine : Engine m) :
    Engine (StateT (List (String × String)) m) :=
  fun id source log => do return (← engine id source, log ++ [(id, source)])

/-- What an engine is asked for when a source is requested under an identifier: for exactly that, unless the
    source is turned down. -/
def Engine.asked (id source : String) : List (String × String) :=
  match precheck source.toList with
  | .ok () => [(id, source)]
  | .error _ => []

section

variable {m : Type → Type} [Monad m] [LawfulMonad m] (engine : Engine m) (source : String)
  (log : List (String × String))

theorem RenderRequest.perform_recorded (r : RenderRequest) :
    (r.perform engine.recorded).run log =
      (fun outcome => (outcome, log ++ Engine.asked r.id r.source)) <$> r.perform engine := by
  rw [perform, perform, Engine.asked]
  cases precheck r.source.toList with
  | error fault => simp
  | ok => simp [Engine.recorded, StateT.run]

theorem Renderer.renderWith_recorded (r : Renderer) :
    (r.renderWith engine.recorded source).run log =
      (fun result => (result, log ++ Engine.asked (r.request source).1.id source)) <$> r.renderWith engine source := by
  simp [renderWith, RenderRequest.perform_recorded, request]

theorem Studio.render_recorded (config : Config) :
    (render config engine.recorded source).run log =
      (fun result => (result, log ++ Engine.asked ((Renderer.ofConfig config.viewer).request source).1.id source)) <$>
        render config engine source := by
  simp [render, RenderRequest.perform_recorded, Renderer.request]

/-- The pre-check turns down what the validator reports as empty, and what it reports as a diagram of unknown
    kind unless a comment is the first line with text. Every other source reaches the engine once, and no source
    that passes the validator is kept from it. -/
theorem precheck_agrees (config : Config) (renderer : Renderer) (request : RenderRequest) :
    let rows := Text.lines (Text.stripMark source.toList)
    let found := validate source.toList
    (precheck source.toList = .error .emptySource ↔ ∃ line, Reports found line .emptySource) ∧
    (precheck source.toList = .error .missingKind ↔
      (∃ row, rows.find? (!Text.isBlank ·) = some row ∧ ¬commentMark <+: Text.trim row) ∧
        ∃ line, Reports found line .unknownKind) ∧
    (precheck source.toList = .ok () ↔
      precheck source.toList ≠ .error .emptySource ∧ precheck source.toList ≠ .error .missingKind) ∧
    (∀ warnings, Studio.check source = .ok warnings → precheck source.toList = .ok ()) ∧
    (request.perform engine.recorded).run log =
      (fun outcome => (outcome, log ++ Engine.asked request.id request.source)) <$> request.perform engine ∧
    (renderer.renderWith engine.recorded source).run log =
      (fun result => (result, log ++ Engine.asked (renderer.request source).1.id source)) <$>
        renderer.renderWith engine source ∧
    (Studio.render config engine.recorded source).run log =
      (fun result => (result, log ++ Engine.asked ((Renderer.ofConfig config.viewer).request source).1.id source)) <$>
        Studio.render config engine source := by
  intro rows found
  have passes : precheck source.toList = .ok () ↔
      precheck source.toList ≠ .error .emptySource ∧ precheck source.toList ≠ .error .missingKind := by
    rcases precheck_cases source.toList with ⟨_, turned⟩ | ⟨_, ⟨_, turned⟩ | ⟨_, turned⟩⟩ <;> simp [turned]
  refine ⟨precheck_emptySource_iff, precheck_missingKind_iff, passes, ?_, request.perform_recorded engine log,
    renderer.renderWith_recorded engine source log, Studio.render_recorded engine source log config⟩
  intro warnings passed
  have silent : ∀ line rule, ¬Reports found line rule := by
    rintro line rule ⟨f, member, _⟩
    simp [found, (Studio.check_eq_ok_iff.mp passed).1] at member
  refine passes.mpr ⟨fun empty => ?_, fun missing => ?_⟩
  · obtain ⟨line, reported⟩ := precheck_emptySource_iff.mp empty
    exact silent _ _ reported
  · obtain ⟨_, line, reported⟩ := precheck_missingKind_iff.mp missing
    exact silent _ _ reported

end

/-- Behind a comment, a source that opens no diagram is reported and reaches the engine all the same. -/
theorem precheck_agrees_behind_comment :
    let source := "\uFEFF\n %% note\nflowchat(LR)"
    let engine : Engine Id := fun _ _ => .ok "<svg/>"
    LawfulMonad Id ∧ (∃ line, Reports (validate source.toList) line .unknownKind) ∧
      ((Studio.render {} engine.recorded source).run []).2 = [("diagram-1", source)] := by
  intro source engine
  obtain ⟨_, _, _, _, _, _, asked⟩ := precheck_agrees engine source [] {} (.ofConfig {}) ⟨1, source⟩
  have reported : ∃ line, Reports (validate source.toList) line .unknownKind := by
    refine ⟨3, mem_marks.mp ?_⟩
    decide
  have passed : Engine.asked ((Renderer.ofConfig ({} : Config).viewer).request source).1.id source =
      [("diagram-1", source)] := by decide
  refine ⟨inferInstance, reported, ?_⟩
  rw [asked, passed]
  rfl

end DiagramStudio
