import DiagramStudio.Failure.Report
import DiagramStudio.Proofs.Finding.Breaches
import DiagramStudio.Proofs.Text.Lines
import Mathlib.Data.List.Forall2

/-!
Where findings lie. A finding is shown at the bytes of its line, up to the line end; the lines are those of
the source as it was given, whether or not it begins with a byte-order mark (`Finding.shown_at_its_line`).
-/

namespace DiagramStudio

/-! ## Bytes of a text -/

namespace Text

variable {source : String} {before row after : List Char}

theorem byteSize_eq (s : List Char) : byteSize s = (String.ofList s).utf8ByteSize := by
  induction s with
  | nil => rfl
  | cons c rest ih =>
    have text : String.ofList (c :: rest) = String.singleton c ++ String.ofList rest := by
      rw [String.singleton_eq_ofList, ← String.ofList_append]
      rfl
    rw [text, String.utf8ByteSize_append, String.utf8ByteSize_singleton, ← ih]
    rfl

/-- The end of what a text begins with is a place between two characters. -/
theorem isValid_byteSize (text : before ++ after = source.toList) :
    (⟨byteSize before⟩ : String.Pos.Raw).IsValid source := by
  refine String.Pos.Raw.isValid_iff_exists_append.mpr ⟨.ofList before, .ofList after, ?_, ?_⟩
  · rw [← String.ofList_append, text, String.ofList_toList]
  · rw [byteSize_eq]
    rfl

/-- The bytes between two such places are those of the text between them. -/
theorem extract_byteSize (text : before ++ row ++ after = source.toList) :
    source.toByteArray.extract (byteSize before) (byteSize before + byteSize row) =
      (String.ofList row).toByteArray := by
  have bytes : source.toByteArray = (String.ofList before).toByteArray ++
      ((String.ofList row).toByteArray ++ (String.ofList after).toByteArray) := by
    rw [← String.toByteArray_append, ← String.toByteArray_append, ← String.ofList_append, ← String.ofList_append,
      ← List.append_assoc, text, String.ofList_toList]
  rw [bytes, byteSize_eq, byteSize_eq, ← String.size_toByteArray, ← String.size_toByteArray]
  have behind := ByteArray.extract_append_size_add (a := (String.ofList before).toByteArray)
    (b := (String.ofList row).toByteArray ++ (String.ofList after).toByteArray) (i := 0)
    (j := (String.ofList row).toByteArray.size)
  exact behind.trans (ByteArray.extract_append_eq_left rfl)

end Text

/-! ## The span of a line -/

/-- The span is that of the line with the given number: `row` is that line of the source, and the span cuts out
    `cut`, which is `row` without the one carriage return that may end it. -/
structure Span.Cuts (span : Span) (source : String) (number : Nat) (row cut : List Char) : Prop where
  place : ∃ before after, Text.IsLine source.toList number before row after ∧ span.start = Text.byteSize before
  line : row = cut ++ ['\r'] ∨ row = cut ∧ row.getLast? ≠ some '\r'
  start : (⟨span.start⟩ : String.Pos.Raw).IsValid source
  stop : (⟨span.stop⟩ : String.Pos.Raw).IsValid source
  bytes : source.toByteArray.extract span.start span.stop = (String.ofList cut).toByteArray

namespace Finding

theorem withoutReturn_cases (row : List Char) :
    row = withoutReturn row ++ ['\r'] ∨ row = withoutReturn row ∧ row.getLast? ≠ some '\r' := by
  rw [withoutReturn, Text.dropBack?]
  split
  · next ended =>
    obtain ⟨front, rfl⟩ := List.isSuffixOf_iff_suffix.mp ended
    exact .inl (by simp)
  · next other =>
    refine .inr ⟨rfl, fun last => other ?_⟩
    obtain ⟨front, rfl⟩ := List.getLast?_eq_some_iff.mp last
    exact List.isSuffixOf_iff_suffix.mpr (List.suffix_append _ _)

/-- The lines in front of another are counted with their line feeds. -/
theorem offset_eq (rows : List (List Char)) : offset rows = Text.byteSize (Text.ended rows) := by
  induction rows with
  | nil => rfl
  | cons row more ih =>
    have ended : Text.ended (row :: more) = row ++ ['\n'] ++ Text.ended more := rfl
    rw [ended, Text.byteSize_append, Text.byteSize_append, ← ih]
    rfl

theorem span?_eq_none_iff {f : Finding} (counted : 0 < f.line) {source : List Char} :
    f.span? source = none ↔ source.count '\n' + 1 < f.line := by
  rw [span?, Option.map_eq_none_iff, List.getElem?_eq_none_iff, Text.length_lines]
  omega

/-- A line of the source has a span, and that is its own. -/
theorem span?_of_isRow {f : Finding} {source : String} {row : List Char}
    (isRow : Source.IsRow (Text.lines source.toList) f.line row) :
    ∃ span, f.span? source.toList = some span ∧ span.Cuts source f.line row (withoutReturn row) := by
  obtain ⟨counted, at_⟩ := isRow
  obtain ⟨after, isLine⟩ := Text.isLine_of_lines at_
  rw [Nat.sub_add_cancel counted] at isLine
  let before := Text.ended ((Text.lines source.toList).take (f.line - 1))
  -- What the span leaves out of the line, the carriage return, belongs to what is behind it.
  obtain ⟨behind, text⟩ : ∃ behind, before ++ withoutReturn row ++ behind = source.toList := by
    rcases withoutReturn_cases row with ended | ⟨same, _⟩
    · refine ⟨'\r' :: after, ?_⟩
      rw [← isLine.text]
      conv_rhs => rw [ended]
      simp [before]
    · refine ⟨after, ?_⟩
      rw [← same]
      exact isLine.text
  have stop := Text.isValid_byteSize text
  rw [Text.byteSize_append] at stop
  refine ⟨⟨Text.byteSize before, Text.byteSize before + Text.byteSize (withoutReturn row), Nat.le_add_right _ _⟩, ?_,
    ⟨before, after, isLine, rfl⟩, withoutReturn_cases row, ?_, stop, Text.extract_byteSize text⟩
  · rw [span?, at_, Option.map_some, offset_eq]
    simp [Span.between, before]
  · exact Text.isValid_byteSize ((List.append_assoc _ _ _).symm.trans text)

/-! ## The reports of findings -/

/-- A line that breaks a rule is a line of the text. -/
theorem isRow_of_breaks {text : List Char} {line : Nat} {rule : Rule}
    (breaks : Source.Breaks (Text.lines text) line rule) : ∃ row, Source.IsRow (Text.lines text) line row := by
  obtain ⟨first, more, rows⟩ := List.exists_cons_of_ne_nil (Text.pieces_ne_nil (· == '\n') text)
  have one : Source.IsRow (Text.lines text) 1 first := ⟨Nat.one_pos, by rw [Text.lines, rows]; rfl⟩
  cases breaks with
  | empty => exact ⟨first, one⟩
  | silent => exact ⟨first, one⟩
  | opening isFirst => exact ⟨_, isFirst.isRow⟩
  | balance isRow => exact ⟨_, isRow⟩

/-- The line of a finding is a line of the source as it is given, too, where the first may begin with a mark. -/
theorem isRow_of_mem {source : List Char} {f : Finding} (member : f ∈ validate source) :
    ∃ row, Source.IsRow (Text.lines source) f.line row ∧
      Source.IsRow (Text.lines (Text.stripMark source)) f.line (if f.line = 1 then Text.stripMark row else row) := by
  obtain ⟨rule, line, message, help, same⟩ := exists_breach_of_mem member
  have reported : Reports (validate source) f.line rule := ⟨f, member, rfl, same ▸ rule_breach _ _ _ _⟩
  obtain ⟨row, counted, at_⟩ := isRow_of_breaks (reports_iff_breaks.mp reported)
  rw [Text.lines_stripMark] at at_
  obtain ⟨given, at_given, _⟩ := Option.map_eq_some_iff.mp at_
  have first : f.line - 1 = 0 ↔ f.line = 1 := by omega
  exact ⟨given, ⟨counted, at_given⟩, counted, by simp [Text.lines_stripMark, at_given, first]⟩

/-- A finding has a span exactly if the source has its line, and that is the span of the line. Each finding of a
    source that fails is reported with one label, on its line in the source as it is given. -/
theorem shown_at_its_line (f : Finding) (counted : 0 < f.line) (source : String) :
    (f.span? source.toList = none ↔ source.toList.count '\n' + 1 < f.line) ∧
    (∀ span, f.span? source.toList = some span → ∃ row cut, span.Cuts source f.line row cut) ∧
    ∀ failure, Studio.check source = .error failure →
      List.Forall₂ (fun f report => ∃ span row cut, span.Cuts source f.line row cut ∧
        Source.IsRow (Text.lines (Text.stripMark source.toList)) f.line
          (if f.line = 1 then Text.stripMark row else row) ∧
        report = ⟨f.message, f.rule.map Rule.code, f.help, some ⟨span, f.rule.map Rule.description⟩, true, none⟩)
        (validate source.toList) failure.reports := by
  refine ⟨span?_eq_none_iff counted, fun span shown => ?_, fun failure failed => ?_⟩
  · obtain ⟨row, at_, _⟩ := Option.map_eq_some_iff.mp shown
    obtain ⟨span', shown', cuts⟩ := span?_of_isRow ⟨counted, at_⟩
    obtain rfl := Option.some.inj (shown.symm.trans shown')
    exact ⟨row, withoutReturn row, cuts⟩
  · rw [Studio.check_eq] at failed
    split at failed
    · cases failed
    · cases failed
      refine List.forall₂_map_right_iff.mpr (List.forall₂_same.mpr fun f member => ?_)
      obtain ⟨row, given, checked⟩ := isRow_of_mem member
      obtain ⟨span, shown, cuts⟩ := span?_of_isRow given
      exact ⟨span, row, withoutReturn row, cuts, checked, by simp [Report.ofFinding, shown]⟩

/-- The last line of a source with a mark, longer characters and both line ends. -/
theorem shown_at_its_line_behind_mark :
    let source := "\uFEFFpie %é\r\n\n  \"日本\r\r"
    let f := breach .quotes 3 "unclosed quote \"" "strings must be enclosed in matching quotes"
    0 < f.line ∧ f.span? source.toList = some (.between 13 23) ∧
      (∃ row cut, (Span.between 13 23).Cuts source 3 row cut) ∧
      ∃ failure report, Studio.check source = .error failure ∧ failure.reports = [report] ∧
        ∃ span row cut, report.label = some ⟨span, some "unclosed quote"⟩ ∧ span.Cuts source 3 row cut := by
  intro source f
  obtain ⟨_, spans, reports⟩ := shown_at_its_line f (by decide) source
  have shown : f.span? source.toList = some (.between 13 23) := by decide
  have found : validate source.toList = [f] := by decide
  have failed : Studio.check source = .error (.findings [f] source) := by
    rw [Studio.check_eq, found]
    rfl
  have each := reports _ failed
  rw [found] at each
  obtain ⟨span, row, cut, cuts, _, same⟩ := (List.forall₂_cons.mp each).1
  exact ⟨by decide, shown, spans _ shown, _, _, failed, rfl, span, row, cut, congrArg Report.label same, cuts⟩

end Finding

end DiagramStudio
