import DiagramStudio.Proofs.Finding.Breaches
import Mathlib.Data.List.Forall2

/-!
What the findings on a source do not depend on: how its lines end, a byte-order mark in front of it, and what
stands on the lines that say nothing (`Finding.validate_ignores`). Two sources get the same findings if their
lines read alike one by one (`Finding.validate_congr`).
-/

namespace DiagramStudio

namespace Text

/-- The text with a carriage return in front of every line feed. -/
def withReturns (s : List Char) : List Char :=
  s.flatMap fun c => if c = '\n' then ['\r', '\n'] else [c]

theorem withReturns_cons {c : Char} (other : c ≠ '\n') (s : List Char) :
    withReturns (c :: s) = c :: withReturns s := by
  simp [withReturns, other]

theorem stripMark_withReturns (s : List Char) : stripMark (withReturns s) = withReturns (stripMark s) := by
  cases s with
  | nil => rfl
  | cons c rest =>
    by_cases feed : c = '\n'
    · subst feed
      rfl
    · rw [withReturns_cons feed, stripMark, stripMark]
      split
      · rfl
      · rw [withReturns_cons feed]

theorem isBlank_withReturns (s : List Char) : isBlank (withReturns s) = isBlank s := by
  rw [isBlank, withReturns, List.all_flatMap, isBlank]
  congr 1
  funext c
  by_cases feed : c = '\n'
  · subst feed
    decide
  · simp [feed]

/-- Every line gets a carriage return at its end, except that the last one does not. -/
theorem lines_withReturns (s : List Char) :
    List.Forall₂ (fun row row' => row' = row ∨ row' = row ++ ['\r']) (lines s) (lines (withReturns s)) := by
  induction s with
  | nil => exact .cons (.inl rfl) .nil
  | cons c rest ih =>
    by_cases feed : c = '\n'
    · subst feed
      have text : withReturns ('\n' :: rest) = ['\r'] ++ '\n' :: withReturns rest := rfl
      rw [text, lines_append_feed (by decide), lines_feed]
      exact .cons (.inr rfl) ih
    · obtain ⟨first, more, rows, longer⟩ := lines_cons feed rest
      obtain ⟨first', more', rows', longer'⟩ := lines_cons feed (withReturns rest)
      rw [rows, rows', List.forall₂_cons] at ih
      rw [withReturns_cons feed, longer, longer']
      exact .cons (ih.1.imp (congrArg (c :: ·)) (congrArg (c :: ·))) ih.2

theorem stripMark_of_head? {s : List Char} (noMark : s.head? ≠ some byteOrderMark) : stripMark s = s := by
  cases s with
  | nil => rfl
  | cons c rest =>
    rw [stripMark, if_neg]
    rintro rfl
    exact noMark rfl

theorem trim_append {blank : List Char} (white : isBlank blank = true) (s : List Char) :
    trim (s ++ blank) = trim s := by
  cases nothing : isBlank s with
  | true =>
    have both : isBlank (s ++ blank) = true := by
      rw [isBlank, List.all_append, ← isBlank, nothing, ← isBlank, white]
      rfl
    rw [trim_eq_nil_iff.mpr both, trim_eq_nil_iff.mpr nothing]
  | false => rw [trim, trimStart_append_of_some nothing, trimEnd_append _ white, trim]

end Text

/-! ## Lines that read alike -/

namespace Source

/-- The line says nothing: it is blank or a comment. -/
def IsSilent (row : List Char) : Prop :=
  Text.isBlank row = true ∨ isComment row = true

instance (row : List Char) : Decidable (IsSilent row) :=
  inferInstanceAs (Decidable (_ ∨ _))

theorem isContent_eq_false_iff {row : List Char} : isContent row = false ↔ IsSilent row := by
  rw [isContent, IsSilent, Bool.and_eq_false_iff, Bool.not_eq_false', Bool.not_eq_false']

/-- The same line, with or without a carriage return at its end, or two lines that say nothing. -/
inductive ReadsAlike (row : List Char) : List Char → Prop
  | same : ReadsAlike row row
  | returned : ReadsAlike row (row ++ ['\r'])
  | silent {row' : List Char} (one : IsSilent row) (other : IsSilent row') : ReadsAlike row row'

/-- Whether a line says something is seen from what is left of it by trimming. -/
theorem isContent_congr {row row' : List Char} (trimmed : Text.trim row' = Text.trim row) :
    isContent row' = isContent row := by
  have blank : Text.isBlank row' = Text.isBlank row := by
    rw [Bool.eq_iff_iff, ← Text.trim_eq_nil_iff, ← Text.trim_eq_nil_iff, trimmed]
  rw [isContent, isContent, isComment_eq, isComment_eq, blank, trimmed]

theorem trim_returned (row : List Char) : Text.trim (row ++ ['\r']) = Text.trim row :=
  Text.trim_append (by decide) row

theorem ReadsAlike.isContent_eq {row row' : List Char} (alike : ReadsAlike row row') :
    isContent row' = isContent row := by
  cases alike with
  | same => rfl
  | returned => exact isContent_congr (trim_returned row)
  | silent one other => rw [isContent_eq_false_iff.mpr one, isContent_eq_false_iff.mpr other]

end Source

/-! ## The findings -/

namespace Finding

open Source

variable {s t : List Char} {rows rows' : List (List Char)}

/-- A carriage return is neither a bracket nor a quote. -/
theorem balance_returned (line : Nat) (row : List Char) : balance line (row ++ ['\r']) = balance line row := by
  have others : ∀ p ∈ PairRule.all, ['\r'].count p.opening = 0 ∧ ['\r'].count p.closing = 0 := by decide
  have pairs : ∀ p ∈ PairRule.all, p.holds (row ++ ['\r']) = p.holds row := by
    intro p listed
    obtain ⟨opening, closing⟩ := others p listed
    rw [PairRule.holds, PairRule.holds, List.count_append, List.count_append, opening, closing]
    rfl
  have quotes : (row ++ ['\r']).count '"' = row.count '"' := by simp
  rw [balance, balance, quotes, List.filterMap_congr fun p listed => by rw [pairs p listed]]

/-- What the findings are made of: the number of a line, what trimming leaves of it, and what is said about its
    brackets and quotes. -/
def taken (numbered : List Char × Nat) : Nat × List Char × List Finding :=
  (numbered.2, Text.trim numbered.1, balance numbered.2 numbered.1)

/-- Lines that read alike and say something are taken alike. -/
theorem taken_congr {row row' : List Char} (alike : ReadsAlike row row') (speaks : isContent row = true) (line : Nat) :
    taken (row', line) = taken (row, line) := by
  cases alike with
  | same => rfl
  | returned => rw [taken, taken, trim_returned, balance_returned]
  | silent one => simp [isContent_eq_false_iff.mpr one] at speaks

theorem taken_zipIdx (alike : List.Forall₂ ReadsAlike rows rows') (first : Nat) :
    ((rows'.zipIdx first).filter (isContent ·.1)).map taken =
      ((rows.zipIdx first).filter (isContent ·.1)).map taken := by
  induction alike generalizing first with
  | nil => rfl
  | @cons row row' more more' one _ ih =>
    simp only [List.zipIdx_cons, List.filter_cons, one.isContent_eq]
    split
    · next speaks => rw [List.map_cons, List.map_cons, taken_congr one speaks, ih]
    · exact ih _

theorem taken_contentLines (alike : List.Forall₂ ReadsAlike (Text.lines s) (Text.lines t)) :
    (contentLines t).map taken = (contentLines s).map taken :=
  taken_zipIdx alike 1

/-- The findings on a source that is not blank are made of what is taken from its lines. -/
theorem validate_eq_of_taken (written : Text.isBlank (Text.stripMark s) = false) :
    validate s = match (contentLines (Text.stripMark s)).map taken with
      | [] => [commentsOnly]
      | (line, opening, balances) :: more => header line opening ++ (balances ++ more.flatMap fun one => one.2.2) := by
  rw [validate, written]
  cases contentLines (Text.stripMark s) with
  | nil => rfl
  | cons first more => simp [taken, List.flatMap_map]

theorem validate_congr (blank : Text.isBlank (Text.stripMark t) = Text.isBlank (Text.stripMark s))
    (alike : List.Forall₂ ReadsAlike (Text.lines (Text.stripMark s)) (Text.lines (Text.stripMark t))) :
    validate t = validate s := by
  cases written : Text.isBlank (Text.stripMark s) with
  | true => simp [validate, blank, written]
  | false =>
    rw [validate_eq_of_taken written, validate_eq_of_taken (blank.trans written), taken_contentLines alike]

/-! ### How a source is stored -/

theorem validate_withReturns (source : List Char) : validate (Text.withReturns source) = validate source := by
  refine validate_congr ?_ ?_
  · rw [Text.stripMark_withReturns, Text.isBlank_withReturns]
  · rw [Text.stripMark_withReturns]
    refine (Text.lines_withReturns _).imp ?_
    rintro row _ (rfl | rfl)
    · exact .same
    · exact .returned

theorem validate_marked {source : List Char} (noMark : source.head? ≠ some Text.byteOrderMark) :
    validate (Text.byteOrderMark :: source) = validate source := by
  have stripped : Text.stripMark (Text.byteOrderMark :: source) = Text.stripMark source := by
    rw [Text.stripMark_of_head? noMark, Text.stripMark, if_pos rfl]
  rw [validate, stripped, validate]

/-- A line that says something is not blank, nor is the source that it stands in. -/
theorem isBlank_of_isContent {source row : List Char} (member : row ∈ Text.lines source) (speaks : ¬IsSilent row) :
    Text.isBlank source = false := by
  rw [← Bool.not_eq_true, Text.isBlank_iff_lines]
  exact fun blank => speaks (.inl (blank row member))

theorem eq_or_mem_of_replaced {front back : List (List Char)} {new r : List Char} (old : List Char)
    (member : r ∈ front ++ new :: back) : r = new ∨ r ∈ front ++ old :: back := by
  simp only [List.mem_append, List.mem_cons] at member ⊢
  tauto

theorem validate_unlines {source row row' : List Char} {front back : List (List Char)}
    (noMark : source.head? ≠ some Text.byteOrderMark) (speaks : ∃ r ∈ Text.lines source, ¬IsSilent r)
    (text : Text.lines source = front ++ row :: back) (silent : IsSilent row) (silent' : IsSilent row')
    (whole : '\n' ∉ row') (noMark' : row'.head? ≠ some Text.byteOrderMark) :
    validate (Text.unlines (front ++ row' :: back)) = validate source := by
  have rows : Text.lines (Text.unlines (front ++ row' :: back)) = front ++ row' :: back := by
    refine Text.lines_unlines (by simp) fun r member => ?_
    rcases eq_or_mem_of_replaced row member with rfl | old
    · exact whole
    · exact Text.not_mem_of_mem_lines (text ▸ old)
  -- The first line is the new one or still the old first one.
  have plain : (Text.unlines (front ++ row' :: back)).head? ≠ some Text.byteOrderMark := by
    rw [ne_eq, Text.head?_eq_some_iff_lines (by decide), text] at noMark
    rw [ne_eq, Text.head?_eq_some_iff_lines (by decide), rows]
    cases front with
    | nil => exact noMark'
    | cons first more => exact noMark
  have alike : List.Forall₂ ReadsAlike (Text.lines source) (Text.lines (Text.unlines (front ++ row' :: back))) := by
    rw [rows, text]
    exact List.rel_append (List.forall₂_same.mpr fun _ _ => .same)
      (.cons (.silent silent silent') (List.forall₂_same.mpr fun _ _ => .same))
  obtain ⟨r, member, speaks⟩ := speaks
  have kept : r ∈ Text.lines (Text.unlines (front ++ row' :: back)) := by
    rw [rows]
    rcases eq_or_mem_of_replaced row' (text ▸ member) with rfl | kept
    · exact absurd silent speaks
    · exact kept
  refine validate_congr ?_ ?_
  · rw [Text.stripMark_of_head? plain, Text.stripMark_of_head? noMark, isBlank_of_isContent kept speaks,
      isBlank_of_isContent member speaks]
  · rwa [Text.stripMark_of_head? plain, Text.stripMark_of_head? noMark]

/-- The findings on a source are the same with carriage returns in front of its line feeds; with a byte-order mark
    in front of it, unless it begins with one; and with other blank lines and comments, wherever they stand, if it
    has a line that says something. -/
theorem validate_ignores (source : List Char) :
    validate (Text.withReturns source) = validate source ∧
    (source.head? ≠ some Text.byteOrderMark →
      validate (Text.byteOrderMark :: source) = validate source ∧
      ((∃ r ∈ Text.lines source, ¬IsSilent r) →
        ∀ front row back row', Text.lines source = front ++ row :: back → IsSilent row → IsSilent row' →
          '\n' ∉ row' → row'.head? ≠ some Text.byteOrderMark →
          validate (Text.unlines (front ++ row' :: back)) = validate source)) := by
  refine ⟨validate_withReturns source, fun noMark => ⟨validate_marked noMark, ?_⟩⟩
  intro speaks front row back row' text silent silent' whole noMark'
  exact validate_unlines noMark speaks text silent silent' whole noMark'

/-- Another comment in front of the diagram leaves the finding on its last line as it is. -/
theorem validate_ignores_another_comment :
    let source := "%% old\n\ngraph TD\nA --> B[b".toList
    let reworded := "\t%% \x7b\"new\n\ngraph TD\nA --> B[b".toList
    (source.head? ≠ some Text.byteOrderMark ∧ (∃ r ∈ Text.lines source, ¬IsSilent r) ∧
      validate reworded = validate source) ∧ marks (validate source) = [(4, some .brackets)] := by
  intro source reworded
  have noMark : source.head? ≠ some Text.byteOrderMark := by decide
  have speaks : ∃ r ∈ Text.lines source, ¬IsSilent r := by decide
  have same := ((validate_ignores source).2 noMark).2 speaks [] "%% old".toList _ "\t%% \x7b\"new".toList rfl
    (by decide) (by decide) (by decide) (by decide)
  exact ⟨⟨noMark, speaks, same⟩, by decide⟩

end Finding

end DiagramStudio
