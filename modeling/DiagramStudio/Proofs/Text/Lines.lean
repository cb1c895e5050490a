import DiagramStudio.Text.White

/-!
The lines of a text and where they stand in it. A text is what is in front of a line, the line and what is
behind it (`isLine_of_lines`): in front are as many line feeds as there are earlier lines, the last of them
at its end, and behind, unless the text ends, is another one.
-/

namespace DiagramStudio.Text

theorem lines_feed (s : List Char) : lines ('\n' :: s) = [] :: lines s := by
  simp [lines, pieces]

theorem lines_cons {c : Char} (other : c ≠ '\n') (s : List Char) :
    ∃ first more, lines s = first :: more ∧ lines (c :: s) = (c :: first) :: more := by
  have no : (c == '\n') = false := by simpa using other
  cases cut : lines s with
  | nil => exact absurd cut (pieces_ne_nil _ s)
  | cons first more =>
    refine ⟨first, more, rfl, ?_⟩
    rw [lines] at cut
    simp [lines, pieces, no, cut]

/-- There is one line more than there are line feeds. -/
theorem length_lines (s : List Char) : (lines s).length = s.count '\n' + 1 := by
  induction s with
  | nil => rfl
  | cons c rest ih =>
    by_cases feed : c = '\n'
    · rw [feed, lines_feed, List.length_cons, ih, List.count_cons_self]
    · obtain ⟨first, more, rows, longer⟩ := lines_cons feed rest
      rw [longer, List.length_cons, List.count_cons_of_ne feed, ← ih, rows, List.length_cons]

theorem not_mem_of_mem_lines {s row : List Char} (member : row ∈ lines s) : '\n' ∉ row := by
  induction s generalizing row with
  | nil => simp_all [lines, pieces]
  | cons c rest ih =>
    by_cases feed : c = '\n'
    · rw [feed, lines_feed] at member
      rcases List.mem_cons.mp member with rfl | later
      · exact List.not_mem_nil
      · exact ih later
    · obtain ⟨first, more, rows, longer⟩ := lines_cons feed rest
      rw [longer] at member
      rcases List.mem_cons.mp member with rfl | later
      · have outside := ih (rows ▸ List.mem_cons_self)
        simp [Ne.symm feed, outside]
      · exact ih (rows ▸ List.mem_cons_of_mem _ later)

theorem lines_of_whole {row : List Char} (whole : '\n' ∉ row) : lines row = [row] := by
  induction row with
  | nil => rfl
  | cons c rest ih =>
    simp only [List.mem_cons, not_or] at whole
    obtain ⟨first, more, rows, longer⟩ := lines_cons (Ne.symm whole.1) rest
    rw [ih whole.2] at rows
    cases rows
    exact longer

theorem lines_append_feed {row : List Char} (whole : '\n' ∉ row) (s : List Char) :
    lines (row ++ '\n' :: s) = row :: lines s := by
  induction row with
  | nil => exact lines_feed s
  | cons c rest ih =>
    simp only [List.mem_cons, not_or] at whole
    obtain ⟨first, more, rows, longer⟩ := lines_cons (Ne.symm whole.1) (rest ++ '\n' :: s)
    rw [ih whole.2] at rows
    cases rows
    exact longer

theorem unlines_cons_cons (row next : List Char) (more : List (List Char)) :
    unlines (row :: next :: more) = row ++ '\n' :: unlines (next :: more) := by
  simp [unlines, List.intercalate_cons_cons]

/-- Cutting undoes joining, unless there was nothing to join. -/
theorem lines_unlines {rows : List (List Char)} (some_ : rows ≠ []) (whole : ∀ row ∈ rows, '\n' ∉ row) :
    lines (unlines rows) = rows := by
  induction rows with
  | nil => exact absurd rfl some_
  | cons row more ih =>
    obtain ⟨first, others⟩ := List.forall_mem_cons.mp whole
    cases more with
    | nil => simpa [unlines] using lines_of_whole first
    | cons next rest =>
      rw [unlines_cons_cons, lines_append_feed first, ih (List.cons_ne_nil _ _) others]

/-- A text begins with a character that is no line feed exactly if its first line does. -/
theorem head?_eq_some_iff_lines {c : Char} (other : c ≠ '\n') (s : List Char) :
    s.head? = some c ↔ (lines s).head?.bind List.head? = some c := by
  cases s with
  | nil => simp [lines, pieces]
  | cons d rest =>
    by_cases feed : d = '\n'
    · simp [feed, lines_feed, Ne.symm other]
    · obtain ⟨first, more, rows, longer⟩ := lines_cons feed rest
      simp [longer]

theorem isBlank_iff_lines (s : List Char) : isBlank s = true ↔ ∀ row ∈ lines s, isBlank row = true := by
  induction s with
  | nil => simp [lines, pieces, isBlank]
  | cons c rest ih =>
    by_cases feed : c = '\n'
    · have white : isWhite '\n' = true := by decide
      rw [feed, lines_feed, isBlank, List.all_cons, white, Bool.true_and, ← isBlank, ih, List.forall_mem_cons]
      simp [isBlank]
    · obtain ⟨first, more, rows, longer⟩ := lines_cons feed rest
      rw [longer, isBlank, List.all_cons, Bool.and_eq_true, ← isBlank, ih, rows, List.forall_mem_cons,
        List.forall_mem_cons, isBlank, isBlank, List.all_cons, Bool.and_eq_true, and_assoc]

/-! ## Where a line stands -/

/-- The lines, each with its line feed. -/
def ended (rows : List (List Char)) : List Char := rows.flatMap (· ++ ['\n'])

/-- In the text `s`, `row` is the line of the given number, counted from one, between `before` and `after`. -/
structure IsLine (s : List Char) (number : Nat) (before row after : List Char) : Prop where
  text : before ++ row ++ after = s
  whole : '\n' ∉ row
  number : before.count '\n' + 1 = number
  front : ∀ c ∈ before.getLast?, c = '\n'
  back : ∀ c ∈ after.head?, c = '\n'

theorem unlines_append_cons (front : List (List Char)) (row : List Char) (back : List (List Char)) :
    unlines (front ++ row :: back) = ended front ++ row ++ if back = [] then [] else '\n' :: unlines back := by
  induction front with
  | nil =>
    cases back with
    | nil => simp [unlines, ended]
    | cons next more => simp [unlines, ended, List.intercalate_cons_cons]
  | cons first more ih =>
    have longer : unlines (first :: (more ++ row :: back)) = first ++ '\n' :: unlines (more ++ row :: back) := by
      cases more <;> exact unlines_cons_cons _ _ _
    rw [List.cons_append, longer, ih]
    simp [ended]

theorem count_ended {rows : List (List Char)} (whole : ∀ row ∈ rows, '\n' ∉ row) :
    (ended rows).count '\n' = rows.length := by
  induction rows with
  | nil => rfl
  | cons row more ih =>
    obtain ⟨first, rest⟩ := List.forall_mem_cons.mp whole
    have ih := ih rest
    rw [ended] at ih ⊢
    simp [ih, List.count_eq_zero_of_not_mem first]

theorem getLast?_ended (rows : List (List Char)) : ∀ c ∈ (ended rows).getLast?, c = '\n' := by
  rcases rows.eq_nil_or_concat with rfl | ⟨front, row, rfl⟩
  · simp [ended]
  · simp [ended]

theorem isLine_of_lines {s row : List Char} {n : Nat} (at_ : (lines s)[n]? = some row) :
    ∃ after, IsLine s (n + 1) (ended ((lines s).take n)) row after := by
  obtain ⟨inside, rfl⟩ := List.getElem?_eq_some_iff.mp at_
  have rows : lines s = (lines s).take n ++ (lines s)[n] :: (lines s).drop (n + 1) := by
    rw [← List.drop_eq_getElem_cons inside, List.take_append_drop]
  have text := unlines_append_cons ((lines s).take n) (lines s)[n] ((lines s).drop (n + 1))
  rw [← rows, unlines_lines] at text
  refine ⟨_, text.symm, not_mem_of_mem_lines (List.getElem_mem inside), ?_, getLast?_ended _, ?_⟩
  · rw [count_ended fun row member => not_mem_of_mem_lines (List.mem_of_mem_take member), List.length_take]
    omega
  · split <;> simp

/-- The mark in front of a text is in front of its first line; the other lines are the same without it. -/
theorem lines_stripMark (s : List Char) (n : Nat) :
    (lines (stripMark s))[n]? = (lines s)[n]?.map fun row => if n = 0 then stripMark row else row := by
  cases s with
  | nil => cases n <;> rfl
  | cons c rest =>
    by_cases feed : c = '\n'
    · subst feed
      rw [stripMark, if_neg (by decide), lines_feed]
      cases n <;> simp [stripMark]
    · obtain ⟨first, more, rows, longer⟩ := lines_cons feed rest
      rw [longer, stripMark]
      split
      · next mark => rw [rows]; cases n <;> simp [stripMark, mark]
      · next plain => rw [longer]; cases n <;> simp [stripMark, plain]

/-! ## Bytes -/

theorem byteSize_append (s t : List Char) : byteSize (s ++ t) = byteSize s + byteSize t := by
  simp [byteSize]

end DiagramStudio.Text
