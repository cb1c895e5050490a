import DiagramStudio.Diagram.Kind
import DiagramStudio.Diagram.Source
import DiagramStudio.Proofs.Text.Lines
import DiagramStudio.Proofs.Text.White

/-!
What a source opens with. Whether one trims the source as a whole or its first line that is not blank, the
text begins alike: with the same keyword, and with a comment mark or without one (`opens_alike`).
-/

namespace DiagramStudio

theorem DiagramKind.ofKeyword?_eq_none_iff {word : List Char} :
    ofKeyword? word = none ↔ ∀ kind : DiagramKind, kind.keyword.toList ≠ word := by
  simp [ofKeyword?, mem_all]

theorem DiagramKind.ofKeyword?_eq_some_iff {word : List Char} {kind : DiagramKind} :
    ofKeyword? word = some kind ↔ kind.keyword.toList = word := by
  constructor
  · intro found
    simpa using List.find?_some found
  · rintro rfl
    exact ofKeyword?_keyword kind

theorem DiagramKind.takesDirection_iff {kind : DiagramKind} :
    kind.takesDirection = true ↔ kind = graph ∨ kind = flowchart := by
  cases kind <;> decide

theorem Direction.mem_all (direction : Direction) : direction ∈ all := by
  cases direction <;> decide

theorem Direction.ofCode?_eq_none_iff {word : List Char} :
    ofCode? word = none ↔ ∀ direction : Direction, direction.code.toList ≠ word := by
  simp [ofCode?, mem_all]

namespace Source

theorem endsKeyword_iff {c : Char} : endsKeyword c = true ↔ Text.isWhite c = true ∨ c = '(' := by
  simp [endsKeyword]

/-- The text begins with the word; white space, an opening parenthesis or nothing follows it. -/
structure BeginsWith (s word : List Char) : Prop where
  whole : ∀ c ∈ word, ¬(Text.isWhite c = true ∨ c = '(')
  text : ∃ rest, s = word ++ rest ∧ ∀ c ∈ rest.head?, Text.isWhite c = true ∨ c = '('

theorem keyword_eq_iff {s word : List Char} : keyword s = word ↔ BeginsWith s word := by
  constructor
  · rintro rfl
    refine ⟨fun c member ends => ?_, s.dropWhile (!endsKeyword ·), List.takeWhile_append_dropWhile.symm, ?_⟩
    · have inside := List.all_eq_true.mp List.all_takeWhile c member
      simp [endsKeyword_iff.mpr ends] at inside
    · intro c member
      have stopped := List.head?_dropWhile_not (!endsKeyword ·) s
      rw [Option.mem_def.mp member] at stopped
      exact endsKeyword_iff.mp (by simpa using stopped)
  · rintro ⟨whole, rest, rfl, ended⟩
    have inside : ∀ c ∈ word, (!endsKeyword c) = true := by
      intro c member
      simpa using mt endsKeyword_iff.mp (whole c member)
    rw [keyword, List.takeWhile_append_of_pos inside]
    cases rest with
    | nil => simp
    | cons c more => simp [endsKeyword_iff.mpr (ended c rfl)]

/-- Two texts begin with the same keyword, and both with a comment mark or neither. -/
structure OpensAlike (s t : List Char) : Prop where
  keyword : keyword s = keyword t
  comment : commentMark.isPrefixOf s = commentMark.isPrefixOf t

/-- What follows behind white space does not matter for what a text opens with. -/
theorem opensAlike_append {t : List Char} (behind : ∀ c ∈ t.head?, Text.isWhite c = true) (s : List Char) :
    OpensAlike (s ++ t) s := by
  cases t with
  | nil => rw [List.append_nil]; exact ⟨rfl, rfl⟩
  | cons c more =>
    have white : Text.isWhite c = true := behind c rfl
    have notMark : ('%' == c) = false := by
      rw [beq_eq_false_iff_ne]
      rintro rfl
      exact absurd white (by decide)
    constructor
    · have ends : endsKeyword c = true := by simp [endsKeyword, white]
      rw [keyword, keyword, List.takeWhile_append]
      split
      · next whole =>
        have all : s.takeWhile (!endsKeyword ·) = s := (List.takeWhile_prefix _).eq_of_length whole
        rw [all, List.takeWhile_cons_of_neg (by simp [ends]), List.append_nil]
      · rfl
    · rcases s with _ | ⟨a, _ | ⟨b, rest⟩⟩ <;> simp [commentMark, List.isPrefixOf, notMark]

theorem OpensAlike.symm {s t : List Char} (alike : OpensAlike s t) : OpensAlike t s :=
  ⟨alike.keyword.symm, alike.comment.symm⟩

theorem OpensAlike.prefix_iff {s t : List Char} (alike : OpensAlike s t) :
    commentMark <+: s ↔ commentMark <+: t := by
  rw [← List.isPrefixOf_iff_prefix, alike.comment, List.isPrefixOf_iff_prefix]

theorem OpensAlike.trans {s t u : List Char} (first : OpensAlike s t) (second : OpensAlike t u) : OpensAlike s u :=
  ⟨first.keyword.trans second.keyword, first.comment.trans second.comment⟩

theorem opensAlike_trimEnd (s : List Char) : OpensAlike (Text.trimEnd s) s := by
  obtain ⟨blank, white, text⟩ := Text.exists_trimEnd_append s
  have alike := opensAlike_append (t := blank)
    (fun c member => List.all_eq_true.mp white c (List.mem_of_mem_head? member)) (Text.trimEnd s)
  rw [text] at alike
  exact alike.symm

theorem isComment_eq (row : List Char) : isComment row = commentMark.isPrefixOf (Text.trim row) :=
  (opensAlike_trimEnd (Text.trimStart row)).comment.symm

/-- A source opens like its first line that is not blank. -/
theorem opens_alike {s row : List Char} {front back : List (List Char)} (rows : Text.lines s = front ++ row :: back)
    (blank : ∀ r ∈ front, Text.isBlank r = true) (some_ : Text.isBlank row = false) :
    OpensAlike (Text.trim s) (Text.trim row) := by
  have white : Text.isWhite '\n' = true := by decide
  have text := Text.unlines_append_cons front row back
  rw [← rows, Text.unlines_lines, List.append_assoc] at text
  have before : Text.isBlank (Text.ended front) = true := by
    simp only [Text.ended, Text.isBlank, List.all_flatMap, List.all_append, List.all_cons, List.all_nil, white,
      Bool.and_true, List.all_eq_true] at blank ⊢
    exact blank
  have started : Text.trimStart s = Text.trimStart row ++ if back = [] then [] else '\n' :: Text.unlines back := by
    rw [text, Text.trimStart_append before, Text.trimStart_append_of_some some_]
  have behind : ∀ c ∈ (if back = [] then [] else '\n' :: Text.unlines back).head?, Text.isWhite c = true := by
    split <;> simp [white]
  have whole : OpensAlike (Text.trimStart s) (Text.trimStart row) := started ▸ opensAlike_append behind _
  exact (opensAlike_trimEnd _).trans (whole.trans (opensAlike_trimEnd _).symm)

end Source

end DiagramStudio
