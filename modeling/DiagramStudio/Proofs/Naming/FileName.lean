import DiagramStudio.Naming.FileName
import DiagramStudio.Proofs.Text.Case
import DiagramStudio.Proofs.Text.White

/-!
Names of exported files. A slug is made in one go over the title; what comes of it is the runs of letters and digits
that the title consists of otherwise (`IsRuns`), in small letters, with hyphens between them (`finish_foldl_extend`).
Whatever the title, a slug is a slug again (`IsSlug`), and its own.
-/

namespace DiagramStudio

/-! ## Times -/

/-- The text is the number in decimal, filled up with zeros to a width, and no longer than it has to be. -/
structure IsDecimal (width n : Nat) (text : List Char) : Prop where
  digits : ∀ c ∈ text, c.isDigit = true
  value : Nat.ofDigitChars 10 text 0 = n
  wide : width ≤ text.length
  short : ∀ size, width ≤ size → n < 10 ^ size → text.length ≤ size

theorem IsDecimal.length_eq {width n : Nat} {text : List Char} (decimal : IsDecimal width n text)
    (small : n < 10 ^ width) : text.length = width :=
  Nat.le_antisymm (decimal.short width (Nat.le_refl _) small) decimal.wide

namespace Timestamp

theorem isDecimal_padded {width : Nat} (some_ : 0 < width) (n : Nat) : IsDecimal width n (padded width n) := by
  refine ⟨?_, ?_, ?_, ?_⟩
  · intro c member
    rcases List.mem_append.mp member with zero | digit
    · rw [List.eq_of_mem_replicate zero]
      rfl
    · exact Nat.isDigit_of_mem_toDigits (by decide) (by decide) digit
  · simp [padded, Nat.ofDigitChars_append, Nat.ofDigitChars_replicate_zero, Nat.ofDigitChars_ten_toDigits]
  · simp only [padded, List.length_append, List.length_replicate]
    omega
  · intro size wide small
    have fits := (Nat.length_toDigits_le_iff (by decide) (Nat.lt_of_lt_of_le some_ wide)).mpr small
    simp only [padded, List.length_append, List.length_replicate]
    omega

/-- The sign of a year: years before the year 0 have one, and so have years that take more than four digits. -/
def signOf (year : Int) : List Char :=
  if year < 0 then ['-'] else if 9999 < year then ['+'] else []

/-- The text is the time: year, month and day, and behind a hyphen hours, minutes and seconds, each with four digits
    or two. Only a year may take more. -/
def IsWritten (t : Timestamp) (text : List Char) : Prop :=
  ∃ year month day hour minute second,
    text = signOf t.year ++ year ++ month ++ day ++ '-' :: (hour ++ minute ++ second) ∧
    IsDecimal 4 t.year.natAbs year ∧ IsDecimal 2 t.month month ∧ IsDecimal 2 t.day day ∧
    IsDecimal 2 t.hour hour ∧ IsDecimal 2 t.minute minute ∧ IsDecimal 2 t.second second

theorem isWritten_compact (t : Timestamp) : t.IsWritten t.compact := by
  have year : yearText t.year = signOf t.year ++ padded 4 t.year.natAbs := by
    unfold yearText signOf
    split
    · rfl
    · split <;> rfl
  refine ⟨_, _, _, _, _, _, ?_, isDecimal_padded (by decide) _, isDecimal_padded (by decide) _,
    isDecimal_padded (by decide) _, isDecimal_padded (by decide) _, isDecimal_padded (by decide) _,
    isDecimal_padded (by decide) _⟩
  rw [compact, year]

/-- A time that there is: its parts are in range. -/
def IsReal (t : Timestamp) : Prop :=
  ∃ year month day hour minute second nanosecond,
    ofFields? year month day hour minute second nanosecond = some t

theorem IsReal.bounds {t : Timestamp} (real : t.IsReal) :
    t.year.natAbs < 10 ^ 6 ∧ t.month < 10 ^ 2 ∧ t.day < 10 ^ 2 ∧ t.hour < 10 ^ 2 ∧ t.minute < 10 ^ 2 ∧
      t.second < 10 ^ 2 := by
  obtain ⟨year, month, day, hour, minute, second, nanosecond, found⟩ := real
  have short : monthLength year month ≤ 31 := by
    unfold monthLength
    split
    · split <;> decide
    · split <;> decide
  unfold ofFields? at found
  split at found
  · next parts =>
    simp only [firstYear, lastYear] at parts
    split at found
    · cases found
      simp only
      omega
    · split at found
      · cases found
        simp only
        omega
      · cases found
  · cases found

end Timestamp

/-! ## Slugs -/

namespace FileName

theorem isPlain_iff {c : Char} :
    isPlain c = true ↔ ('a' ≤ c ∧ c ≤ 'z') ∨ ('A' ≤ c ∧ c ≤ 'Z') ∨ ('0' ≤ c ∧ c ≤ '9') := by
  simp only [isPlain, Char.isAlphanum, Char.isAlpha, Char.isUpper, Char.isLower, Char.isDigit, Bool.or_eq_true,
    Bool.and_eq_true, decide_eq_true_eq, ge_iff_le, Char.le_def]
  tauto

/-- The runs of ASCII letters and digits in a text, each as long as possible, in order. -/
inductive IsRuns : List Char → List (List Char) → Prop where
  | none {s : List Char} (others : ∀ c ∈ s, (!isPlain c) = true) : IsRuns s []
  | run {s run rest : List Char} {more : List (List Char)} (first : Text.Leads (!isPlain ·) s run rest)
      (behind : IsRuns rest more) : IsRuns s (run :: more)

theorem isRuns_iff {s : List Char} {runs : List (List Char)} :
    IsRuns s runs ↔ Text.words (!isPlain ·) s = runs := by
  constructor
  · intro isRuns
    induction isRuns with
    | none others => simpa [Text.words, Text.pieces] using Text.words_append_of_seps others []
    | run first _ ih => rw [first.words_eq, ih]
  · intro cut
    induction runs generalizing s with
    | nil =>
      rcases Text.seps_or_leads (!isPlain ·) s with others | ⟨run, rest, leads⟩
      · exact .none others
      · rw [leads.words_eq] at cut
        cases cut
    | cons run more ih =>
      obtain ⟨rest, first, behind⟩ := Text.words_eq_cons_iff.mp cut
      exact .run first (ih behind)

/-- Small letters, with a hyphen between neighbours. -/
def joined (runs : List (List Char)) : List Char :=
  ['-'].intercalate (runs.map (·.map Char.toLower))

/-- What stands behind a run: a hyphen in front of each further one. -/
def trailing (runs : List (List Char)) : List Char :=
  runs.flatMap fun run => '-' :: run.map Char.toLower

theorem joined_cons (run : List Char) (more : List (List Char)) :
    joined (run :: more) = run.map Char.toLower ++ trailing more := by
  induction more generalizing run with
  | nil => simp [joined, trailing]
  | cons next others ih =>
    have rest := ih next
    simp only [joined, List.map_cons, List.intercalate_cons_cons] at rest ⊢
    rw [rest]
    simp [trailing]

/-! ### One character after the other -/

/-- Something is kept, and its last character is a letter or digit. -/
def Settled (kept : List Char) : Prop := ∃ c, kept.head? = some c ∧ isPlain c = true

theorem isPlain_toLower (c : Char) : isPlain c.toLower = isPlain c := Text.isAlphanum_toLower c

theorem foldl_extend_run {run : List Char} (plain : ∀ c ∈ run, isPlain c = true) (kept : List Char) :
    run.foldl extend kept = (run.map Char.toLower).reverse ++ kept := by
  induction run generalizing kept with
  | nil => rfl
  | cons c rest ih =>
    obtain ⟨first, others⟩ := List.forall_mem_cons.mp plain
    rw [List.foldl_cons, extend, if_pos first, ih others]
    simp

theorem divide_divide (kept : List Char) : divide (divide kept) = divide kept := by
  unfold divide
  split <;> simp_all

theorem foldl_extend_gap {gap : List Char} (others : ∀ c ∈ gap, (!isPlain c) = true) (kept : List Char) :
    gap.foldl extend kept = if gap = [] then kept else divide kept := by
  induction gap generalizing kept with
  | nil => rfl
  | cons c rest ih =>
    obtain ⟨first, more⟩ := List.forall_mem_cons.mp others
    have noPlain : ¬isPlain c = true := by simpa using first
    rw [List.foldl_cons, extend, if_neg noPlain, ih more, divide_divide]
    simp

theorem Settled.divide_eq {kept : List Char} (settled : Settled kept) : divide kept = '-' :: kept := by
  obtain ⟨c, last, plain⟩ := settled
  refine if_pos ⟨fun empty => ?_, fun hyphen => ?_⟩
  · rw [empty] at last
    cases last
  · rw [hyphen] at last
    cases last
    cases plain

theorem Settled.finish_eq {kept : List Char} (settled : Settled kept) : finish kept = kept.reverse := by
  obtain ⟨c, last, plain⟩ := settled
  have noHyphen : kept.head? ≠ some '-' := by
    rintro hyphen
    rw [hyphen] at last
    cases last
    cases plain
  rw [finish, if_neg noHyphen]

theorem settled_run {run : List Char} (some_ : run ≠ []) (plain : ∀ c ∈ run, isPlain c = true) (kept : List Char) :
    Settled ((run.map Char.toLower).reverse ++ kept) := by
  have last := List.getLast_mem some_
  refine ⟨(run.getLast some_).toLower, ?_, ?_⟩
  · simp [List.head?_append, List.getLast?_eq_some_getLast some_]
  · rw [isPlain_toLower]
    exact plain _ last

/-- Behind a letter or digit, what does not go on with one adds its runs, each behind a hyphen. -/
theorem finish_foldl_extend_of_settled {s : List Char} {runs : List (List Char)} (isRuns : IsRuns s runs)
    {kept : List Char} (settled : Settled kept) (ended : ∀ c ∈ s.head?, (!isPlain c) = true) :
    finish (s.foldl extend kept) = kept.reverse ++ trailing runs := by
  induction isRuns generalizing kept with
  | none others =>
    rw [foldl_extend_gap others]
    split
    · simp [settled.finish_eq, trailing]
    · simp [settled.divide_eq, finish, trailing]
  | run first _ ih =>
    obtain ⟨gap, others, rfl⟩ := first.text
    have plain := first.whole
    simp only [Bool.not_eq_false'] at plain
    have some_ : gap ≠ [] := by
      rintro rfl
      obtain ⟨c, more, rfl⟩ := List.exists_cons_of_ne_nil first.nonempty
      have other := ended c rfl
      rw [plain c List.mem_cons_self] at other
      cases other
    rw [List.foldl_append, foldl_extend_gap others, if_neg some_, settled.divide_eq, List.foldl_append,
      foldl_extend_run plain, ih (settled_run first.nonempty plain _) first.ended]
    simp [trailing]

/-- What is kept of a title is its runs, in small letters, with hyphens between them. -/
theorem finish_foldl_extend {title : List Char} {runs : List (List Char)} (isRuns : IsRuns title runs) :
    finish (title.foldl extend []) = joined runs := by
  have nothing : divide [] = [] := rfl
  cases isRuns with
  | none others =>
    rw [foldl_extend_gap others, nothing, ite_self]
    rfl
  | run first behind =>
    obtain ⟨gap, others, rfl⟩ := first.text
    have plain := first.whole
    simp only [Bool.not_eq_false'] at plain
    rw [List.foldl_append, foldl_extend_gap others, nothing, ite_self, List.foldl_append, foldl_extend_run plain,
      finish_foldl_extend_of_settled behind (settled_run first.nonempty plain _) first.ended, joined_cons]
    simp

theorem slug_eq {title : List Char} {runs : List (List Char)} (isRuns : IsRuns title runs) :
    slug title = if runs = [] then fallback else joined runs := by
  rw [slug, finish_foldl_extend isRuns]
  cases isRuns with
  | none => rfl
  | run first _ => simp [joined_cons, first.nonempty]

/-! ### What a slug looks like -/

/-- Not both are hyphens. -/
def Apart (c d : Char) : Prop := ¬(c = '-' ∧ d = '-')

/-- A character of a slug. -/
def IsSmall (c : Char) : Prop := c = '-' ∨ (isPlain c = true ∧ c.toLower = c)

/-- Small letters and digits, and hyphens between them: neither at an end nor next to each other. -/
structure IsSlug (s : List Char) : Prop where
  nonempty : s ≠ []
  first : s.head? ≠ some '-'
  last : s.getLast? ≠ some '-'
  single : s.IsChain Apart
  small : ∀ c ∈ s, IsSmall c

/-- What holds of all that is kept along the way, its last character first. -/
structure Growing (kept : List Char) : Prop where
  first : kept.getLast? ≠ some '-'
  single : kept.IsChain Apart
  small : ∀ c ∈ kept, IsSmall c

theorem Growing.cons {kept : List Char} (growing : Growing kept) {c : Char} (start : kept = [] → c ≠ '-')
    (next : c = '-' → kept.head? ≠ some '-') (small : IsSmall c) : Growing (c :: kept) := by
  refine ⟨?_, List.isChain_cons.mpr ⟨?_, growing.single⟩, List.forall_mem_cons.mpr ⟨small, growing.small⟩⟩
  · cases kept with
    | nil => simpa using start rfl
    | cons d more => simpa using growing.first
  · rintro d member ⟨rfl, rfl⟩
    exact next rfl member

theorem Growing.extend {kept : List Char} (growing : Growing kept) (c : Char) : Growing (extend kept c) := by
  unfold FileName.extend
  split
  · next plain =>
    have kept_ : isPlain c.toLower = true := (isPlain_toLower c).trans plain
    have noHyphen : c.toLower ≠ '-' := by
      intro hyphen
      rw [hyphen] at kept_
      cases kept_
    exact growing.cons (fun _ => noHyphen) (fun hyphen => absurd hyphen noHyphen)
      (.inr ⟨kept_, Char.toLower_toLower_eq_toLower c⟩)
  · unfold divide
    split
    · next gap => exact growing.cons (fun empty => absurd empty gap.1) (fun _ => gap.2) (.inl rfl)
    · exact growing

theorem growing_foldl (title : List Char) {kept : List Char} (growing : Growing kept) :
    Growing (title.foldl FileName.extend kept) := by
  induction title generalizing kept with
  | nil => exact growing
  | cons c rest ih => exact ih (growing.extend c)

theorem Growing.isSlug_reverse {kept : List Char} (growing : Growing kept) (some_ : kept ≠ [])
    (last : kept.head? ≠ some '-') : IsSlug kept.reverse where
  nonempty := by simpa using some_
  first := by simpa using growing.first
  last := by simpa using last
  single := List.isChain_reverse.mpr (growing.single.imp fun c d apart both => apart ⟨both.2, both.1⟩)
  small := fun c member => growing.small c (List.mem_reverse.mp member)

/-- What is kept along the way is a slug in the end, if anything is. -/
theorem Growing.isSlug_finish {kept : List Char} (growing : Growing kept) (some_ : finish kept ≠ []) :
    IsSlug (finish kept) := by
  unfold finish at some_ ⊢
  split at some_
  · next hyphen =>
    obtain ⟨more, rfl⟩ := List.head?_eq_some_iff.mp hyphen
    have more_ : more ≠ [] := by simpa using some_
    obtain ⟨next, single⟩ := List.isChain_cons.mp growing.single
    have first : more.getLast? ≠ some '-' := by
      simpa [List.getLast?_cons, List.getLast?_eq_some_getLast more_] using growing.first
    have grown : Growing more := ⟨first, single, fun c member => growing.small c (List.mem_cons_of_mem _ member)⟩
    rw [if_pos hyphen]
    exact grown.isSlug_reverse more_ fun doubled => next '-' doubled ⟨rfl, rfl⟩
  · next settled =>
    rw [if_neg settled]
    exact growing.isSlug_reverse (by simpa using some_) settled

theorem isSlug_fallback : IsSlug fallback := by
  have spelled : fallback = ['d', 'i', 'a', 'g', 'r', 'a', 'm'] := by decide
  rw [spelled]
  refine ⟨by decide, by decide, by decide, by simp [Apart], ?_⟩
  intro c member
  simp only [List.mem_cons, List.not_mem_nil, or_false] at member
  rcases member with rfl | rfl | rfl | rfl | rfl | rfl | rfl <;> exact .inr ⟨rfl, rfl⟩

theorem isSlug_slug (title : List Char) : IsSlug (slug title) := by
  have growing := growing_foldl title ⟨by simp, .nil, nofun⟩
  simp only [slug]
  split
  · exact isSlug_fallback
  · next some_ => exact growing.isSlug_finish some_

/-- Along a slug every character is kept as it is. -/
theorem foldl_extend_of_isChain {s kept : List Char} (single : (s.reverse ++ kept).IsChain Apart)
    (first : kept = [] → s.head? ≠ some '-') (small : ∀ c ∈ s, IsSmall c) :
    s.foldl extend kept = s.reverse ++ kept := by
  induction s generalizing kept with
  | nil => rfl
  | cons c rest ih =>
    obtain ⟨here, later⟩ := List.forall_mem_cons.mp small
    rw [List.reverse_cons, List.append_assoc, List.singleton_append] at single ⊢
    have kept_ : extend kept c = c :: kept := by
      rcases here with rfl | ⟨plain, lower⟩
      · have apart := (List.isChain_cons.mp (List.isChain_append.mp single).2.1).1
        have gap : kept ≠ [] ∧ kept.head? ≠ some '-' :=
          ⟨fun empty => first empty rfl, fun hyphen => apart '-' hyphen ⟨rfl, rfl⟩⟩
        rw [extend, if_neg (by decide), divide, if_pos gap]
      · rw [extend, if_pos plain, lower]
    rw [List.foldl_cons, kept_, ih single nofun later]

theorem slug_of_isSlug {s : List Char} (isSlug : IsSlug s) : slug s = s := by
  have single : (s.reverse ++ []).IsChain Apart := by
    rw [List.append_nil]
    exact List.isChain_reverse.mpr (isSlug.single.imp fun c d apart both => apart ⟨both.2, both.1⟩)
  have kept := foldl_extend_of_isChain single (fun _ => isSlug.first) isSlug.small
  have finished : finish (s.foldl extend []) = s := by
    rw [kept, List.append_nil, finish, if_neg, List.reverse_reverse]
    simpa using isSlug.last
  rw [slug, finished, if_neg isSlug.nonempty]

/-! ## Names -/

theorem make_toList (title : String) (time : Timestamp) (extension : String) :
    (make title time extension).toList =
      time.compact ++ '-' :: (slug title.toList ++ '.' :: extension.toList) := by
  simp [make]

/-- The characters of which a time is written. -/
theorem isPlain_or_sign_of_mem_compact {c : Char} {time : Timestamp} (member : c ∈ time.compact) :
    isPlain c = true ∨ c = '-' ∨ c = '+' := by
  obtain ⟨year, month, day, hour, minute, second, text, isYear, isMonth, isDay, isHour, isMinute, isSecond⟩ :=
    time.isWritten_compact
  have plain {width n : Nat} {part : List Char} (decimal : IsDecimal width n part) (inside : c ∈ part) :
      isPlain c = true := by
    simp [isPlain, Char.isAlphanum, decimal.digits c inside]
  have sign (inside : c ∈ Timestamp.signOf time.year) : c = '-' ∨ c = '+' := by
    unfold Timestamp.signOf at inside
    split at inside
    · exact .inl (List.mem_singleton.mp inside)
    · split at inside
      · exact .inr (List.mem_singleton.mp inside)
      · cases inside
  rw [text] at member
  simp only [List.mem_append, List.mem_cons] at member
  rcases member with (((isSign | inYear) | inMonth) | inDay) | hyphen | (inHour | inMinute) | inSecond
  · exact .inr (sign isSign)
  · exact .inl (plain isYear inYear)
  · exact .inl (plain isMonth inMonth)
  · exact .inl (plain isDay inDay)
  · exact .inr (.inl hyphen)
  · exact .inl (plain isHour inHour)
  · exact .inl (plain isMinute inMinute)
  · exact .inl (plain isSecond inSecond)

/-- The characters of which the name of an image consists. -/
theorem isPlain_or_mark_of_mem_ofImage {c : Char} {title : String} {time : Timestamp}
    (member : c ∈ (ofImage title time).toList) : isPlain c = true ∨ c ∈ ['-', '+', '.'] := by
  have extension : imageExtension.toList = ['p', 'n', 'g'] := by decide
  rw [ofImage, make_toList, extension] at member
  simp only [List.mem_append, List.mem_cons, List.not_mem_nil, or_false] at member ⊢
  rcases member with inTime | hyphen | inSlug | dot | rfl | rfl | rfl
  · have := isPlain_or_sign_of_mem_compact inTime
    tauto
  · exact .inr (.inl hyphen)
  · rcases (isSlug_slug title.toList).small c inSlug with hyphen | ⟨plain, _⟩
    · exact .inr (.inl hyphen)
    · exact .inl plain
  · exact .inr (.inr (.inr dot))
  · exact .inl rfl
  · exact .inl rfl
  · exact .inl rfl

/-- The name of an exported file is a time, a slug and an extension. The time is written with four digits for the year
    and two for everything else, if it is one that there is; only years of more than four digits take more, and a sign.
    The slug consists of the runs of letters and digits in the title, in small letters, with single hyphens between
    them, or is the fallback if there are none. It is never empty, has no hyphen at an end and no two in a row, and is
    its own slug. What stands in the name of an image is neither a slash nor a backslash. -/
theorem named_by_time_and_slug (title : String) (time : Timestamp) (extension : String) :
    let slugged := slug title.toList
    (make title time extension).toList = time.compact ++ '-' :: (slugged ++ '.' :: extension.toList) ∧
    (∃ year month day hour minute second,
      time.compact = Timestamp.signOf time.year ++ year ++ month ++ day ++ '-' :: (hour ++ minute ++ second) ∧
      IsDecimal 4 time.year.natAbs year ∧ IsDecimal 2 time.month month ∧ IsDecimal 2 time.day day ∧
      IsDecimal 2 time.hour hour ∧ IsDecimal 2 time.minute minute ∧ IsDecimal 2 time.second second ∧
      (time.IsReal → (time.year.natAbs ≤ 9999 → year.length = 4) ∧ year.length ≤ 6 ∧
        ∀ part ∈ [month, day, hour, minute, second], part.length = 2)) ∧
    (∀ c, isPlain c = true ↔ ('a' ≤ c ∧ c ≤ 'z') ∨ ('A' ≤ c ∧ c ≤ 'Z') ∨ ('0' ≤ c ∧ c ≤ '9')) ∧
    (∃ runs, IsRuns title.toList runs ∧ (∀ others, IsRuns title.toList others → others = runs) ∧
      slugged = if runs = [] then "diagram".toList else ['-'].intercalate (runs.map (·.map Char.toLower))) ∧
    IsSlug slugged ∧ slug slugged = slugged ∧
    '/' ∉ (ofImage title time).toList ∧ '\\' ∉ (ofImage title time).toList := by
  intro slugged
  have isSlug := isSlug_slug title.toList
  refine ⟨make_toList title time extension, ?_, fun c => isPlain_iff, ?_, isSlug, slug_of_isSlug isSlug, ?_, ?_⟩
  · obtain ⟨year, month, day, hour, minute, second, text, isYear, isMonth, isDay, isHour, isMinute, isSecond⟩ :=
      time.isWritten_compact
    refine ⟨year, month, day, hour, minute, second, text, isYear, isMonth, isDay, isHour, isMinute, isSecond, ?_⟩
    intro real
    obtain ⟨yearSmall, monthSmall, daySmall, hourSmall, minuteSmall, secondSmall⟩ := real.bounds
    refine ⟨fun short => isYear.length_eq (by omega), isYear.short 6 (by decide) yearSmall, ?_⟩
    simp only [List.forall_mem_cons, List.not_mem_nil, false_imp_iff, implies_true, and_true]
    exact ⟨isMonth.length_eq monthSmall, isDay.length_eq daySmall, isHour.length_eq hourSmall,
      isMinute.length_eq minuteSmall, isSecond.length_eq secondSmall⟩
  · have isRuns := isRuns_iff.mpr (rfl : Text.words (!isPlain ·) title.toList = _)
    exact ⟨_, isRuns, fun others again => (isRuns_iff.mp again).symm, slug_eq isRuns⟩
  · intro slash
    rcases isPlain_or_mark_of_mem_ofImage slash with plain | mark
    · cases plain
    · revert mark; decide
  · intro backslash
    rcases isPlain_or_mark_of_mem_ofImage backslash with plain | mark
    · cases plain
    · revert mark; decide

example : make "Café Flow" ⟨2023, 12, 25, 14, 30, 15⟩ "svg" = "20231225-143015-caf-flow.svg" := by cbv

end FileName

end DiagramStudio
