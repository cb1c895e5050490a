import DiagramStudio.Text.White

/-!
Trimming takes away what is blank at the ends of a text and nothing else: a text that neither begins nor
ends with white space is found again behind and in front of whatever blank text surrounds it. The words of a
text are what stands between separators: the first one, and then those of what follows it
(`words_eq_cons_iff`).
-/

namespace DiagramStudio.Text

/-- The text neither begins nor ends with white space. -/
structure IsTrimmed (s : List Char) : Prop where
  first : ∀ c ∈ s.head?, isWhite c = false
  last : ∀ c ∈ s.getLast?, isWhite c = false

theorem trimStart_append {blank : List Char} (white : isBlank blank) (s : List Char) :
    trimStart (blank ++ s) = trimStart s :=
  List.dropWhile_append_of_pos (List.all_eq_true.mp white)

theorem trimEnd_append (s : List Char) {blank : List Char} (white : isBlank blank) :
    trimEnd (s ++ blank) = trimEnd s := by
  have turned : isBlank blank.reverse := by
    rw [isBlank, List.all_reverse]
    exact white
  rw [trimEnd, List.reverse_append]
  exact congrArg List.reverse (trimStart_append turned s.reverse)

/-- What trimming the end of a text takes away is blank. -/
theorem exists_trimEnd_append (s : List Char) : ∃ blank, isBlank blank = true ∧ trimEnd s ++ blank = s := by
  refine ⟨(s.reverse.takeWhile isWhite).reverse, ?_, ?_⟩
  · rw [isBlank, List.all_reverse]
    exact List.all_takeWhile
  · rw [trimEnd, ← List.reverse_append, List.takeWhile_append_dropWhile, List.reverse_reverse]

/-- Behind a text that is not blank, trimming the start takes nothing away. -/
theorem trimStart_append_of_some {s : List Char} (some_ : isBlank s = false) (t : List Char) :
    trimStart (s ++ t) = trimStart s ++ t := by
  induction s with
  | nil => cases some_
  | cons c rest ih =>
    cases white : isWhite c with
    | true =>
      have rest_ : isBlank rest = false := by simpa [isBlank, white] using some_
      simpa [trimStart, white] using ih rest_
    | false => simp [trimStart, white]

/-- Nothing is left of a text by trimming exactly if it is blank. -/
theorem trim_eq_nil_iff {s : List Char} : trim s = [] ↔ isBlank s = true := by
  constructor
  · intro nothing
    obtain ⟨blank, white, text⟩ := exists_trimEnd_append (trimStart s)
    rw [trim] at nothing
    rw [nothing, List.nil_append] at text
    rw [isBlank, ← List.takeWhile_append_dropWhile (p := isWhite) (l := s), ← trimStart, ← text, List.all_append,
      List.all_takeWhile, ← isBlank, white]
    rfl
  · intro white
    have start : trimStart s = [] := by simpa [trimStart] using trimStart_append white []
    rw [trim, start]
    rfl

theorem trimStart_of_first {s : List Char} (first : ∀ c ∈ s.head?, isWhite c = false) : trimStart s = s := by
  cases s with
  | nil => rfl
  | cons c more => exact List.dropWhile_cons_of_neg (by simp [first c rfl])

theorem trimEnd_of_last {s : List Char} (last : ∀ c ∈ s.getLast?, isWhite c = false) : trimEnd s = s := by
  rw [← List.head?_reverse] at last
  have turned := trimStart_of_first last
  rw [trimStart] at turned
  rw [trimEnd, turned, List.reverse_reverse]

theorem trim_surrounded {s before after : List Char} (trimmed : IsTrimmed s) (front : isBlank before)
    (back : isBlank after) : trim (before ++ s ++ after) = s := by
  rw [trim, List.append_assoc, trimStart_append front]
  cases s with
  | nil =>
    have nothing : trimStart (after ++ []) = trimStart [] := trimStart_append back []
    rw [List.nil_append, ← List.append_nil after, nothing]
    rfl
  | cons c more =>
    have kept : trimStart (c :: more ++ after) = c :: more ++ after :=
      trimStart_of_first fun d member => trimmed.first d member
    rw [kept, trimEnd_append _ back, trimEnd_of_last trimmed.last]

theorem IsTrimmed.trim_eq {s : List Char} (trimmed : IsTrimmed s) : trim s = s := by
  rw [trim, trimStart_of_first trimmed.first, trimEnd_of_last trimmed.last]

/-! ## Cutting at a character -/

theorem cut?_append {mark : Char} {s : List Char} (noMark : mark ∉ s) (rest : List Char) :
    cut? (· == mark) (s ++ mark :: rest) = some (s, rest) := by
  induction s with
  | nil => simp [cut?]
  | cons c more ih =>
    simp only [List.mem_cons, not_or] at noMark
    rw [List.cons_append, cut?, if_neg (by simpa using Ne.symm noMark.1), ih noMark.2]
    rfl

theorem cut?_eq_none {mark : Char} {s : List Char} (noMark : mark ∉ s) : cut? (· == mark) s = none := by
  induction s with
  | nil => rfl
  | cons c more ih =>
    simp only [List.mem_cons, not_or] at noMark
    rw [cut?, if_neg (by simpa using Ne.symm noMark.1), ih noMark.2]
    rfl

/-! ## Words -/

section
variable {sep : Char → Bool}

/-- The text begins, at once or behind separators, with `word`; a separator or nothing follows it. -/
structure Leads (sep : Char → Bool) (s word rest : List Char) : Prop where
  text : ∃ gap, (∀ c ∈ gap, sep c = true) ∧ s = gap ++ (word ++ rest)
  nonempty : word ≠ []
  whole : ∀ c ∈ word, sep c = false
  ended : ∀ c ∈ rest.head?, sep c = true

theorem words_append_of_seps {gap : List Char} (seps : ∀ c ∈ gap, sep c = true) (s : List Char) :
    words sep (gap ++ s) = words sep s := by
  induction gap with
  | nil => rfl
  | cons c more ih =>
    obtain ⟨first, others⟩ := List.forall_mem_cons.mp seps
    rw [← ih others, List.cons_append, words, words, pieces, if_pos first, List.filter_cons_of_neg (by simp)]

/-- Text without a separator stays in one piece with what follows. -/
theorem pieces_append {word : List Char} (whole : ∀ c ∈ word, sep c = false) (s : List Char) :
    ∃ first more, pieces sep s = first :: more ∧ pieces sep (word ++ s) = (word ++ first) :: more := by
  obtain ⟨first, more, cut⟩ := List.exists_cons_of_ne_nil (pieces_ne_nil sep s)
  refine ⟨first, more, cut, ?_⟩
  induction word with
  | nil => exact cut
  | cons c rest ih =>
    obtain ⟨start, others⟩ := List.forall_mem_cons.mp whole
    simp [pieces, start, ih others]

theorem Leads.words_eq {s word rest : List Char} (leads : Leads sep s word rest) :
    words sep s = word :: words sep rest := by
  obtain ⟨gap, seps, rfl⟩ := leads.text
  obtain ⟨first, more, cut, joined⟩ := pieces_append leads.whole rest
  have nothing : first = [] := by
    cases rest with
    | nil => cases cut; rfl
    | cons c rest =>
      rw [pieces, if_pos (leads.ended c rfl)] at cut
      exact (List.cons.inj cut).1.symm
  rw [words_append_of_seps seps, words, words, joined, cut, nothing, List.append_nil]
  simp [leads.nonempty]

theorem seps_or_leads (sep : Char → Bool) (s : List Char) :
    (∀ c ∈ s, sep c = true) ∨ ∃ word rest, Leads sep s word rest := by
  have text := (List.takeWhile_append_dropWhile (p := sep) (l := s)).symm
  have seps : ∀ c ∈ s.takeWhile sep, sep c = true := List.all_eq_true.mp List.all_takeWhile
  cases behind : s.dropWhile sep with
  | nil =>
    rw [behind, List.append_nil] at text
    exact .inl (text ▸ seps)
  | cons c more =>
    have start : sep c = false := by simpa [behind] using List.head?_dropWhile_not sep s
    refine .inr ⟨(c :: more).takeWhile (!sep ·), (c :: more).dropWhile (!sep ·), ⟨_, seps, ?_⟩, ?_, ?_, ?_⟩
    · rw [List.takeWhile_append_dropWhile, ← behind]
      exact text
    · simp [start]
    · intro d member
      simpa using List.all_eq_true.mp List.all_takeWhile d member
    · intro d member
      have stopped := List.head?_dropWhile_not (!sep ·) (c :: more)
      rw [Option.mem_def.mp member] at stopped
      simpa using stopped

theorem words_eq_cons_iff {s word : List Char} {more : List (List Char)} :
    words sep s = word :: more ↔ ∃ rest, Leads sep s word rest ∧ words sep rest = more := by
  constructor
  · intro cut
    rcases seps_or_leads sep s with seps | ⟨word', rest, leads⟩
    · have none := words_append_of_seps seps []
      rw [List.append_nil, cut] at none
      exact absurd none (by simp [words, pieces])
    · rw [leads.words_eq] at cut
      cases cut
      exact ⟨rest, leads, rfl⟩
  · rintro ⟨rest, leads, rfl⟩
    exact leads.words_eq

/-- The second word is the first of what follows the first one. -/
theorem second_word_iff {s word : List Char} :
    (words sep s)[1]? = some word ↔ ∃ first rest after, Leads sep s first rest ∧ Leads sep rest word after := by
  constructor
  · intro second
    cases cut : words sep s with
    | nil => simp [cut] at second
    | cons first more =>
      obtain ⟨rest, leads, others⟩ := words_eq_cons_iff.mp cut
      rw [cut, List.getElem?_cons_succ, ← others, ← List.head?_eq_getElem?] at second
      obtain ⟨more', next⟩ := List.head?_eq_some_iff.mp second
      obtain ⟨after, leads', _⟩ := words_eq_cons_iff.mp next
      exact ⟨first, rest, after, leads, leads'⟩
  · rintro ⟨first, rest, after, leads, leads'⟩
    rw [leads.words_eq, leads'.words_eq]
    rfl

end

end DiagramStudio.Text
