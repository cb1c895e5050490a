import DiagramStudio.Proofs.Diagram.Opening
import DiagramStudio.Studio

/-!
What the validator reports. The rules are stated on the lines of a source (`Source.Breaks`); the findings
are the breaches of the rules, each once, in the order of lines and, within a line, of codes
(`Studio.check_reports_breaches`).
-/

namespace DiagramStudio

/-! ## The rules -/

namespace Source

/-- `row` is the line of the given number, counted from one. -/
def IsRow (rows : List (List Char)) (line : Nat) (row : List Char) : Prop :=
  0 < line ∧ rows[line - 1]? = some row

/-- The line is not blank, and it is no comment. -/
structure IsContent (row : List Char) : Prop where
  written : Text.isBlank row = false
  plain : ¬commentMark <+: Text.trim row

/-- The line is the first that says something. -/
structure IsFirst (rows : List (List Char)) (line : Nat) (row : List Char) : Prop where
  isRow : IsRow rows line row
  isContent : IsContent row
  first : ∀ earlier r, earlier < line → IsRow rows earlier r → ¬IsContent r

/-- The text does not open a diagram as the rule asks. -/
inductive Misopens (text : List Char) : Rule → Prop
  | unknownKind {word : List Char} (begins : BeginsWith text word)
      (unknown : ∀ kind : DiagramKind, kind.keyword.toList ≠ word) : Misopens text .unknownKind
  | invalidDirection {kind : DiagramKind} {word second rest after : List Char}
      (begins : BeginsWith text kind.keyword.toList) (flow : kind = .graph ∨ kind = .flowchart)
      (leads : Text.Leads Text.isWhite text word rest) (next : Text.Leads Text.isWhite rest second after)
      (unknown : ∀ direction : Direction, direction.code.toList ≠ second) : Misopens text .invalidDirection

/-- The characters of the line do not pair up as the rule asks. -/
inductive Unbalanced (row : List Char) : Rule → Prop
  | brackets (differ : row.count '[' ≠ row.count ']') : Unbalanced row .brackets
  | parentheses (differ : row.count '(' ≠ row.count ')') : Unbalanced row .parentheses
  | braces (differ : row.count '\x7b' ≠ row.count '\x7d') : Unbalanced row .braces
  | quotes (odd : row.count '"' % 2 = 1) : Unbalanced row .quotes

/-- The line of the given number breaks the rule. -/
inductive Breaks (rows : List (List Char)) : Nat → Rule → Prop
  | empty (blank : ∀ row ∈ rows, Text.isBlank row = true) : Breaks rows 1 .emptySource
  | silent (written : ∃ row ∈ rows, Text.isBlank row = false) (none : ∀ row ∈ rows, ¬IsContent row) :
      Breaks rows 1 .commentsOnly
  | opening {line : Nat} {row : List Char} {rule : Rule} (first : IsFirst rows line row)
      (bad : Misopens (Text.trim row) rule) : Breaks rows line rule
  | balance {line : Nat} {row : List Char} {rule : Rule} (isRow : IsRow rows line row) (isContent : IsContent row)
      (bad : Unbalanced row rule) : Breaks rows line rule

variable {rows : List (List Char)} {line : Nat} {row : List Char} {rule : Rule}

theorem breaks_emptySource_iff :
    Breaks rows line .emptySource ↔ line = 1 ∧ ∀ row ∈ rows, Text.isBlank row = true := by
  constructor
  · rintro (blank | _ | ⟨_, ⟨⟩⟩ | ⟨_, _, ⟨⟩⟩)
    exact ⟨rfl, blank⟩
  · rintro ⟨rfl, blank⟩
    exact .empty blank

theorem breaks_commentsOnly_iff :
    Breaks rows line .commentsOnly ↔
      line = 1 ∧ (∃ row ∈ rows, Text.isBlank row = false) ∧ ∀ row ∈ rows, ¬IsContent row := by
  constructor
  · rintro (_ | ⟨written, none⟩ | ⟨_, ⟨⟩⟩ | ⟨_, _, ⟨⟩⟩)
    exact ⟨rfl, written, none⟩
  · rintro ⟨rfl, written, none⟩
    exact .silent written none

theorem isContent_iff : isContent row = true ↔ IsContent row := by
  rw [isContent, isComment_eq, Bool.and_eq_true, Bool.not_eq_true', Bool.not_eq_true', ← Bool.not_eq_true
    (commentMark.isPrefixOf _), List.isPrefixOf_iff_prefix]
  exact ⟨fun ⟨written, plain⟩ => ⟨written, plain⟩, fun ⟨written, plain⟩ => ⟨written, plain⟩⟩

theorem not_isContent_of_isBlank (blank : Text.isBlank row = true) : ¬IsContent row := by
  intro isContent
  simp [isContent.written] at blank

theorem IsRow.mem (isRow : IsRow rows line row) : row ∈ rows :=
  List.mem_of_getElem? isRow.2

theorem exists_isRow (member : row ∈ rows) : ∃ line, IsRow rows line row := by
  obtain ⟨n, at_⟩ := List.mem_iff_getElem?.mp member
  exact ⟨n + 1, Nat.succ_pos n, at_⟩

theorem IsFirst.unique {line' : Nat} {row' : List Char} (first : IsFirst rows line row)
    (first' : IsFirst rows line' row') : line = line' ∧ row = row' := by
  have same : line = line' := by
    rcases Nat.lt_trichotomy line line' with earlier | same | later
    · exact absurd first.isContent (first'.first line row earlier first.isRow)
    · exact same
    · exact absurd first'.isContent (first.first line' row' later first'.isRow)
  subst same
  exact ⟨rfl, Option.some.inj (first.isRow.2.symm.trans first'.isRow.2)⟩

theorem breaks_of_blank (blank : ∀ row ∈ rows, Text.isBlank row = true) :
    Breaks rows line rule ↔ line = 1 ∧ rule = .emptySource := by
  have none : ∀ row ∈ rows, ¬IsContent row := fun row member => not_isContent_of_isBlank (blank row member)
  constructor
  · intro breaks
    cases breaks with
    | empty => exact ⟨rfl, rfl⟩
    | silent written => obtain ⟨row, member, written⟩ := written; simp [blank row member] at written
    | opening first => exact absurd first.isContent (none _ first.isRow.mem)
    | balance isRow isContent => exact absurd isContent (none _ isRow.mem)
  · rintro ⟨rfl, rfl⟩
    exact .empty blank

theorem breaks_of_silent (written : ∃ row ∈ rows, Text.isBlank row = false) (none : ∀ row ∈ rows, ¬IsContent row) :
    Breaks rows line rule ↔ line = 1 ∧ rule = .commentsOnly := by
  constructor
  · intro breaks
    cases breaks with
    | empty blank => obtain ⟨row, member, written⟩ := written; simp [blank row member] at written
    | silent => exact ⟨rfl, rfl⟩
    | opening first => exact absurd first.isContent (none _ first.isRow.mem)
    | balance isRow isContent => exact absurd isContent (none _ isRow.mem)
  · rintro ⟨rfl, rfl⟩
    exact .silent written none

theorem breaks_of_first {number : Nat} (isFirst : IsFirst rows number row) :
    Breaks rows line rule ↔ (line = number ∧ Misopens (Text.trim row) rule) ∨
      ∃ r, IsRow rows line r ∧ IsContent r ∧ Unbalanced r rule := by
  constructor
  · intro breaks
    cases breaks with
    | empty blank =>
      exact absurd isFirst.isContent (not_isContent_of_isBlank (blank _ isFirst.isRow.mem))
    | silent _ none => exact absurd isFirst.isContent (none _ isFirst.isRow.mem)
    | opening first bad =>
      obtain ⟨rfl, rfl⟩ := first.unique isFirst
      exact .inl ⟨rfl, bad⟩
    | balance isRow isContent bad => exact .inr ⟨_, isRow, isContent, bad⟩
  · rintro (⟨rfl, bad⟩ | ⟨r, isRow, isContent, bad⟩)
    · exact .opening isFirst bad
    · exact .balance isRow isContent bad

end Source

/-! ## The findings -/

namespace Finding

open Source

variable {found : List Finding} {source text row : List Char} {line at_ : Nat} {rule : Rule}

/-- One of the findings is that the line breaks the rule. -/
def Reports (found : List Finding) (line : Nat) (rule : Rule) : Prop :=
  ∃ f ∈ found, f.line = line ∧ f.rule = some rule

theorem reports_append {more : List Finding} :
    Reports (found ++ more) line rule ↔ Reports found line rule ∨ Reports more line rule := by
  simp [Reports, or_and_right, exists_or]

@[simp] theorem rule_breach (rule : Rule) (line : Nat) (message help : String) :
    (breach rule line message help).rule = some rule := rfl

theorem line_breach (counted : 0 < line) (rule : Rule) (message help : String) :
    (breach rule line message help).line = line := Nat.max_eq_right counted

theorem reports_breach {broken : Rule} {message help : String} (counted : 0 < at_) :
    Reports [breach broken at_ message help] line rule ↔ line = at_ ∧ broken = rule := by
  simp [Reports, line_breach counted, eq_comm]

theorem misopens_unknownKind_iff :
    Misopens text .unknownKind ↔ DiagramKind.ofKeyword? (keyword text) = none := by
  constructor
  · rintro (⟨begins, unknown⟩ | _)
    rw [keyword_eq_iff.mpr begins]
    exact DiagramKind.ofKeyword?_eq_none_iff.mpr unknown
  · intro none
    exact .unknownKind (keyword_eq_iff.mp rfl) (DiagramKind.ofKeyword?_eq_none_iff.mp none)

theorem misopens_invalidDirection_iff :
    Misopens text .invalidDirection ↔
      ∃ kind, DiagramKind.ofKeyword? (keyword text) = some kind ∧ kind.takesDirection = true ∧
        ∃ word, (Text.words Text.isWhite text)[1]? = some word ∧ Direction.ofCode? word = none := by
  constructor
  · rintro (_ | ⟨begins, flow, leads, next, unknown⟩)
    have known := DiagramKind.ofKeyword?_eq_some_iff.mpr (keyword_eq_iff.mpr begins).symm
    exact ⟨_, known, DiagramKind.takesDirection_iff.mpr flow, _, Text.second_word_iff.mpr ⟨_, _, _, leads, next⟩,
      Direction.ofCode?_eq_none_iff.mpr unknown⟩
  · rintro ⟨kind, known, flow, word, second, unknown⟩
    have begins := keyword_eq_iff.mp (DiagramKind.ofKeyword?_eq_some_iff.mp known).symm
    obtain ⟨first, rest, after, leads, next⟩ := Text.second_word_iff.mp second
    exact .invalidDirection begins (DiagramKind.takesDirection_iff.mp flow) leads next
      (Direction.ofCode?_eq_none_iff.mp unknown)

theorem header_reports (counted : 0 < at_) :
    Reports (header at_ text) line rule ↔ line = at_ ∧ Misopens text rule := by
  constructor
  · -- Of the ways through the header two end in a finding.
    intro reported
    rw [header] at reported
    split at reported
    · next none =>
      obtain ⟨rfl, rfl⟩ := (reports_breach counted).mp reported
      exact ⟨rfl, misopens_unknownKind_iff.mpr none⟩
    · next kind known =>
      split at reported
      · next flow =>
        split at reported
        · next word second =>
          split at reported
          · next unknown =>
            obtain ⟨rfl, rfl⟩ := (reports_breach counted).mp reported
            have none := Option.isNone_iff_eq_none.mp unknown
            exact ⟨rfl, misopens_invalidDirection_iff.mpr ⟨kind, known, flow, word, second, none⟩⟩
          · simp [Reports] at reported
        · simp [Reports] at reported
      · simp [Reports] at reported
  · rintro ⟨rfl, bad⟩
    cases id bad with
    | unknownKind =>
      rw [header, misopens_unknownKind_iff.mp bad]
      exact (reports_breach counted).mpr ⟨rfl, rfl⟩
    | invalidDirection =>
      obtain ⟨kind, known, flow, word, second, none⟩ := misopens_invalidDirection_iff.mp bad
      simp only [header, known, flow, second, none, if_true, Option.isNone_none]
      exact (reports_breach counted).mpr ⟨rfl, rfl⟩

theorem unbalanced_iff :
    Unbalanced row rule ↔
      (∃ p ∈ PairRule.all, p.rule = rule ∧ p.holds row = false) ∨ rule = .quotes ∧ row.count '"' % 2 ≠ 0 := by
  constructor
  · intro bad
    cases bad <;> simp_all [PairRule.all, PairRule.holds]
  · rintro (⟨p, listed, rfl, uneven⟩ | ⟨rfl, odd⟩)
    · have differ : row.count p.opening ≠ row.count p.closing := by simpa [PairRule.holds] using uneven
      simp only [PairRule.all, List.mem_cons, List.not_mem_nil, or_false] at listed
      rcases listed with rfl | rfl | rfl
      · exact .brackets differ
      · exact .parentheses differ
      · exact .braces differ
    · exact .quotes (by omega)

theorem balance_reports (counted : 0 < at_) :
    Reports (balance at_ row) line rule ↔ line = at_ ∧ Unbalanced row rule := by
  rw [balance, reports_append, unbalanced_iff, and_or_left]
  refine or_congr ?_ ?_
  · simp only [Reports, List.mem_filterMap]
    constructor
    · rintro ⟨f, ⟨p, listed, uneven⟩, rfl, broken⟩
      split at uneven
      · cases uneven
      · next fails =>
        cases uneven
        exact ⟨line_breach counted _ _ _, p, listed, Option.some.inj broken, by simpa using fails⟩
    · rintro ⟨rfl, p, listed, rfl, uneven⟩
      exact ⟨breach p.rule line p.message p.help, ⟨p, listed, by simp [uneven]⟩, line_breach counted .., rfl⟩
  · split
    · next even => simp [Reports, even]
    · next odd => rw [reports_breach counted, eq_comm (a := rule), and_iff_left odd]

/-! ### The lines that say something -/

theorem mem_contentLines :
    (row, line) ∈ contentLines source ↔ IsRow (Text.lines source) line row ∧ IsContent row := by
  rw [contentLines, List.mem_filter, List.mk_mem_zipIdx_iff_le_and_getElem?_sub, isContent_iff]
  rfl

theorem contentLines_ascend (source : List Char) :
    (contentLines source).Pairwise fun earlier later => earlier.2 < later.2 := by
  refine List.Pairwise.filter _ (List.pairwise_map.mp ?_)
  rw [List.zipIdx_map_snd]
  exact List.pairwise_lt_range'

theorem isFirst_of_contentLines {more : List (List Char × Nat)} (content : contentLines source = (row, line) :: more) :
    IsFirst (Text.lines source) line row := by
  obtain ⟨isRow, isContent⟩ := mem_contentLines.mp (content ▸ List.mem_cons_self)
  refine ⟨isRow, isContent, fun earlier r before isRow' isContent' => ?_⟩
  have member := mem_contentLines.mpr ⟨isRow', isContent'⟩
  have ascend := contentLines_ascend source
  rw [content] at member ascend
  rcases List.mem_cons.mp member with same | later
  · cases same
    exact absurd before (Nat.lt_irrefl _)
  · exact absurd before (Nat.lt_asymm ((List.pairwise_cons.mp ascend).1 _ later))

/-- What the validator makes of a source, by whether its lines say anything. -/
theorem validate_cases (source : List Char) :
    let text := Text.stripMark source
    Text.isBlank text = true ∧ validate source = [emptySource] ∨
    Text.isBlank text = false ∧ contentLines text = [] ∧ validate source = [commentsOnly] ∨
    ∃ row line more, contentLines text = (row, line) :: more ∧
      validate source =
        header line (Text.trim row) ++ (contentLines text).flatMap fun (row, line) => balance line row := by
  intro text
  cases blank : Text.isBlank text with
  | true => exact .inl ⟨rfl, by simp [validate, text, blank]⟩
  | false =>
    cases content : contentLines text with
    | nil => exact .inr (.inl ⟨rfl, rfl, by simp [validate, text, blank, content]⟩)
    | cons first more =>
      exact .inr (.inr ⟨first.1, first.2, more, rfl, by simp [validate, text, blank, content]⟩)

theorem contentLines_eq_nil_iff : contentLines source = [] ↔ ∀ row ∈ Text.lines source, ¬IsContent row := by
  rw [List.eq_nil_iff_forall_not_mem]
  constructor
  · intro none row member isContent
    obtain ⟨line, isRow⟩ := exists_isRow member
    exact none (row, line) (mem_contentLines.mpr ⟨isRow, isContent⟩)
  · intro none (row, line) member
    obtain ⟨isRow, isContent⟩ := mem_contentLines.mp member
    exact none row isRow.mem isContent

theorem balances_report :
    Reports ((contentLines source).flatMap fun (row, line) => balance line row) line rule ↔
      ∃ row, IsRow (Text.lines source) line row ∧ IsContent row ∧ Unbalanced row rule := by
  constructor
  · rintro ⟨f, member, at_, broken⟩
    obtain ⟨⟨row, number⟩, content, member⟩ := List.mem_flatMap.mp member
    obtain ⟨isRow, isContent⟩ := mem_contentLines.mp content
    obtain ⟨rfl, bad⟩ := (balance_reports isRow.1).mp ⟨f, member, at_, broken⟩
    exact ⟨row, isRow, isContent, bad⟩
  · rintro ⟨row, isRow, isContent, bad⟩
    obtain ⟨f, member, at_, broken⟩ := (balance_reports isRow.1).mpr ⟨rfl, bad⟩
    exact ⟨f, List.mem_flatMap.mpr ⟨_, mem_contentLines.mpr ⟨isRow, isContent⟩, member⟩, at_, broken⟩

/-- The validator reports a rule for a line exactly if the line breaks the rule. -/
theorem reports_iff_breaks :
    Reports (validate source) line rule ↔ Breaks (Text.lines (Text.stripMark source)) line rule := by
  rcases validate_cases source with ⟨blank, found⟩ | ⟨written, content, found⟩ | ⟨row, first, more, content, found⟩
  · have blank := (Text.isBlank_iff_lines _).mp blank
    rw [found, emptySource, reports_breach Nat.one_pos, breaks_of_blank blank, eq_comm (a := rule)]
  · have none := contentLines_eq_nil_iff.mp content
    have written : ∃ row ∈ Text.lines (Text.stripMark source), Text.isBlank row = false := by
      simpa using mt (Text.isBlank_iff_lines _).mpr (by simp [written])
    rw [found, commentsOnly, reports_breach Nat.one_pos, breaks_of_silent written none, eq_comm (a := rule)]
  · have isFirst := isFirst_of_contentLines content
    rw [found, reports_append, header_reports isFirst.isRow.1, balances_report, breaks_of_first isFirst]

/-! ### The order of the findings -/

/-- On an earlier line, or on the same line with a smaller code. -/
def Before (f g : Finding) : Prop :=
  f.line < g.line ∨ f.line = g.line ∧ ∃ r ∈ f.rule, ∃ s ∈ g.rule, r.code < s.code

theorem before_breach {r s : Rule} {message help message' help' : String} (less : r.code < s.code) :
    Before (breach r line message help) (breach s line message' help') :=
  .inr ⟨rfl, r, rfl, s, rfl, less⟩

/-- On the line that opens the diagram there is at most one finding of its own, and its code is smaller than
    those of brackets and quotes. -/
theorem header_cases (line : Nat) (text : List Char) :
    header line text = [] ∨
      ∃ rule message help, header line text = [breach rule line message help] ∧ rule.code < "E200" := by
  rw [header]
  split
  · exact .inr ⟨_, _, _, rfl, by decide⟩
  · split
    · split
      · split
        · exact .inr ⟨_, _, _, rfl, by decide⟩
        · exact .inl rfl
      · exact .inl rfl
    · exact .inl rfl

theorem exists_breach_of_mem_balance {f : Finding} (member : f ∈ balance line row) :
    ∃ rule message help, f = breach rule line message help ∧ "E200" ≤ rule.code := by
  rcases List.mem_append.mp member with pair | quote
  · obtain ⟨p, listed, uneven⟩ := List.mem_filterMap.mp pair
    split at uneven
    · cases uneven
    · have codes : ∀ p ∈ PairRule.all, "E200" ≤ p.rule.code := by decide
      exact ⟨_, _, _, (Option.some.inj uneven).symm, codes p listed⟩
  · split at quote
    · cases quote
    · exact ⟨_, _, _, List.mem_singleton.mp quote, by decide⟩

theorem balance_ascends (line : Nat) (row : List Char) : (balance line row).Pairwise Before := by
  have codes : PairRule.all.Pairwise fun p q => p.rule.code < q.rule.code := by decide
  have last : ∀ p ∈ PairRule.all, p.rule.code < Rule.quotes.code := by decide
  refine List.pairwise_append.mpr ⟨codes.filterMap _ ?_, ?_, ?_⟩
  · intro p q less f uneven g uneven'
    split at uneven <;> split at uneven' <;> cases uneven <;> cases uneven'
    exact before_breach less
  · split <;> simp
  · intro f pair g quote
    obtain ⟨p, listed, uneven⟩ := List.mem_filterMap.mp pair
    split at uneven <;> split at quote <;> cases uneven <;> cases quote
    · exact before_breach (last p listed)
    · contradiction

theorem validate_ascends (source : List Char) : (validate source).Pairwise Before := by
  rcases validate_cases source with ⟨_, found⟩ | ⟨_, _, found⟩ | ⟨row, first, more, content, found⟩
  · exact found ▸ List.pairwise_singleton _ _
  · exact found ▸ List.pairwise_singleton _ _
  · have ascend := contentLines_ascend (Text.stripMark source)
    have counted : ∀ {row line}, (row, line) ∈ contentLines (Text.stripMark source) → 0 < line :=
      fun member => (mem_contentLines.mp member).1.1
    rw [found]
    refine List.pairwise_append.mpr ⟨?_, List.pairwise_flatMap.mpr ⟨fun _ _ => balance_ascends _ _, ?_⟩, ?_⟩
    · rcases header_cases first (Text.trim row) with none | ⟨rule, message, help, one, _⟩
      · exact none ▸ List.Pairwise.nil
      · exact one ▸ List.pairwise_singleton _ _
    · refine ascend.imp_of_mem fun {earlier later} member member' less f of_earlier g of_later => .inl ?_
      obtain ⟨_, _, _, rfl, _⟩ := exists_breach_of_mem_balance of_earlier
      obtain ⟨_, _, _, rfl, _⟩ := exists_breach_of_mem_balance of_later
      rwa [line_breach (counted member), line_breach (counted member')]
    · -- The one finding on how the diagram opens comes first: no line in front of that one says anything.
      intro f opening g balance_
      rcases header_cases first (Text.trim row) with none | ⟨rule, message, help, one, small⟩
      · cases none ▸ opening
      · obtain ⟨⟨row', number⟩, member, balance_⟩ := List.mem_flatMap.mp balance_
        obtain ⟨rule', message', help', rfl, large⟩ := exists_breach_of_mem_balance balance_
        obtain rfl := List.mem_singleton.mp (one ▸ opening)
        rw [content] at ascend member
        rcases List.mem_cons.mp member with same | later
        · cases same
          exact before_breach (Std.lt_of_lt_of_le small large)
        · have less : first < number := (List.pairwise_cons.mp ascend).1 _ later
          have counted : 0 < first := counted (content ▸ List.mem_cons_self)
          exact .inl (by rwa [line_breach counted, line_breach (Nat.lt_trans counted less)])

theorem exists_breach_of_mem {f : Finding} (member : f ∈ validate source) :
    ∃ rule line message help, f = breach rule line message help := by
  rcases validate_cases source with ⟨_, found⟩ | ⟨_, _, found⟩ | ⟨row, first, more, _, found⟩
  · exact ⟨_, _, _, _, List.mem_singleton.mp (found ▸ member)⟩
  · exact ⟨_, _, _, _, List.mem_singleton.mp (found ▸ member)⟩
  · rw [found] at member
    rcases List.mem_append.mp member with opening | balance_
    · rcases header_cases first (Text.trim row) with none | ⟨rule, message, help, one, _⟩
      · cases none ▸ opening
      · exact ⟨_, _, _, _, List.mem_singleton.mp (one ▸ opening)⟩
    · obtain ⟨_, _, balance_⟩ := List.mem_flatMap.mp balance_
      obtain ⟨rule, message, help, same, _⟩ := exists_breach_of_mem_balance balance_
      exact ⟨_, _, _, _, same⟩

/-- Every finding is an error, so none is left out. -/
theorem errors_validate (source : List Char) : errors (validate source) = validate source := by
  refine List.filter_eq_self.mpr fun f member => ?_
  obtain ⟨rule, line, message, help, rfl⟩ := exists_breach_of_mem member
  rfl

/-- Where the findings stand and which rules they are about. -/
def marks (found : List Finding) : List (Nat × Option Rule) :=
  found.map fun f => (f.line, f.rule)

theorem mem_marks : (line, some rule) ∈ marks found ↔ Reports found line rule := by
  simp [marks, Reports]

/-- Each breach is reported once. -/
theorem nodup_marks (ascends : found.Pairwise Before) : (marks found).Nodup := by
  refine List.pairwise_map.mpr (ascends.imp ?_)
  rintro f g (earlier | ⟨_, r, of_f, s, of_g, less⟩) same
  · exact Nat.ne_of_lt earlier (Prod.mk.inj same).1
  · have rule : r = s := Option.some.inj (of_f.symm.trans ((Prod.mk.inj same).2.trans of_g))
    exact Std.lt_irrefl (rule ▸ less)

theorem marks_of_blank :
    marks (validate source) = [(1, some .emptySource)] ↔
      ∀ row ∈ Text.lines (Text.stripMark source), Text.isBlank row = true := by
  constructor
  · intro only
    have reported : Reports (validate source) 1 .emptySource := mem_marks.mp (only ▸ List.mem_singleton_self _)
    exact (breaks_emptySource_iff.mp (reports_iff_breaks.mp reported)).2
  · intro blank
    have found : validate source = [emptySource] := by simp [validate, (Text.isBlank_iff_lines _).mpr blank]
    rw [found]
    rfl

theorem marks_of_silent :
    marks (validate source) = [(1, some .commentsOnly)] ↔
      (∃ row ∈ Text.lines (Text.stripMark source), Text.isBlank row = false) ∧
        ∀ row ∈ Text.lines (Text.stripMark source), ¬IsContent row := by
  constructor
  · intro only
    have reported : Reports (validate source) 1 .commentsOnly := mem_marks.mp (only ▸ List.mem_singleton_self _)
    exact (breaks_commentsOnly_iff.mp (reports_iff_breaks.mp reported)).2
  · rintro ⟨written, none⟩
    have written : Text.isBlank (Text.stripMark source) = false := by
      simpa using mt (Text.isBlank_iff_lines _).mp (by simpa using written)
    have found : validate source = [commentsOnly] := by
      simp [validate, written, contentLines_eq_nil_iff.mpr none]
    rw [found]
    rfl

end Finding

/-- A source passes unless the validator has something to say, and fails with all of it. -/
theorem Studio.check_eq (source : String) :
    check source = if Finding.validate source.toList = [] then .ok []
      else .error (.findings (Finding.validate source.toList) source) := by
  simp only [check, Finding.errors_validate, List.isEmpty_iff]
  split
  · next none => rw [none]
  · rfl

theorem Studio.check_eq_ok_iff {source : String} {warnings : List Finding} :
    check source = .ok warnings ↔ Finding.validate source.toList = [] ∧ warnings = [] := by
  rw [check_eq]
  split
  · next none => simp [none, eq_comm]
  · next some_ => simp [some_]

/-- The findings on a source are its breaches of the rules, each once and in order: those of a source without
    a line that says something are the one on its first line. All of them are errors. -/
theorem Studio.check_reports_breaches (source : String) :
    let rows := Text.lines (Text.stripMark source.toList)
    let found := Finding.validate source.toList
    (∀ line rule, Finding.Reports found line rule ↔ Source.Breaks rows line rule) ∧
    (Finding.marks found = [(1, some .emptySource)] ↔ ∀ row ∈ rows, Text.isBlank row = true) ∧
    (Finding.marks found = [(1, some .commentsOnly)] ↔
      (∃ row ∈ rows, Text.isBlank row = false) ∧ ∀ row ∈ rows, ¬Source.IsContent row) ∧
    found.Pairwise Finding.Before ∧ (Finding.marks found).Nodup ∧
    (∀ f ∈ found, f.severity = .error ∧ ∃ rule, f.rule = some rule) ∧
    check source = if found = [] then .ok [] else .error (.findings found source) := by
  intro rows found
  have ascends : found.Pairwise Finding.Before := Finding.validate_ascends _
  refine ⟨fun line rule => Finding.reports_iff_breaks, Finding.marks_of_blank, Finding.marks_of_silent,
    ascends, Finding.nodup_marks ascends, ?_, check_eq source⟩
  intro f member
  obtain ⟨rule, line, message, help, rfl⟩ := Finding.exists_breach_of_mem member
  exact ⟨rfl, rule, rfl⟩

example : Finding.marks (Finding.validate "%% flow\n\ngraph XY[(\n\"A\" --> \"B".toList) =
    [(3, some .invalidDirection), (3, some .brackets), (3, some .parentheses), (4, some .quotes)] := by
  decide

end DiagramStudio
