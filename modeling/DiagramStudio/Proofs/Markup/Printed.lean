import DiagramStudio.Proofs.Markup.Forest

/-!
What is read of text that was written. Text between marks may be divided in another way when it is read
again, so readings are compared without it. References, comments, character data, declarations and
closing tags that were read are read back wherever they are written (`isRead_of_mem_scan`). A tag ends at
its first closing bracket outside quotes (`tagSpan_eq_ok_iff`).
-/

namespace DiagramStudio.Markup

/-! ## Readings without their text -/

/-- The event is text between marks. -/
def Event.isText : Event → Bool
  | .text _ => true
  | _ => false

/-- The events other than text. -/
def withoutText (events : List Event) : List Event :=
  events.filter (!·.isText)

@[simp] theorem withoutText_cons_text (body : List Char) (events : List Event) :
    withoutText (.text body :: events) = withoutText events := rfl

theorem withoutText_cons {e : Event} (isMark : e.isText = false) (events : List Event) :
    withoutText (e :: events) = e :: withoutText events := by
  simp [withoutText, isMark]

/-- The reading without its text. -/
def Reading.withoutText (r : Reading) : Reading :=
  ⟨Markup.withoutText r.events, r.fault⟩

theorem scan_cons_ok {c : Char} {rest after : List Char} {e : Event} (read : next c rest = .ok (e, after)) :
    scan (c :: rest) = (scan after).cons e := by
  rw [scan]
  split
  · next failed => rw [read] at failed; cases failed
  · next read' =>
    rw [read] at read'
    cases read'
    rfl

theorem scan_cons_error {c : Char} {rest : List Char} {fault : ReadFault} (failed : next c rest = .error fault) :
    scan (c :: rest) = ⟨[], some fault⟩ := by
  rw [scan]
  split
  · next failed' =>
    rw [failed] at failed'
    cases failed'
    rfl
  · next read => rw [failed] at read; cases read

theorem next_text {c : Char} (isText : isText c = true) (rest : List Char) :
    next c rest = .ok (.text (c :: rest.takeWhile Markup.isText), rest.dropWhile Markup.isText) := by
  simp only [Markup.isText, Bool.and_eq_true, bne_iff_ne, ne_eq] at isText
  unfold next
  rw [if_neg isText.1, if_neg isText.2]

/-- Text in front is one event or part of one. -/
theorem withoutText_scan_dropWhile (s : List Char) :
    (scan (s.dropWhile isText)).withoutText = (scan s).withoutText := by
  cases s with
  | nil => rfl
  | cons c rest =>
    by_cases isText : isText c
    · rw [List.dropWhile_cons_of_pos isText, scan_cons_ok (next_text isText rest)]
      rfl
    · rw [List.dropWhile_cons_of_neg isText]

theorem withoutText_scan_append {body : List Char} (isText : body.all Markup.isText = true) (rest : List Char) :
    (scan (body ++ rest)).withoutText = (scan rest).withoutText := by
  have same : (body ++ rest).dropWhile Markup.isText = rest.dropWhile Markup.isText :=
    List.dropWhile_append_of_pos (List.all_eq_true.mp isText)
  rw [← withoutText_scan_dropWhile (body ++ rest), same, withoutText_scan_dropWhile]

/-- The mark in front of a text is text, too. -/
theorem withoutText_scan_stripMark (s : List Char) :
    (scan (Text.stripMark s)).withoutText = (scan s).withoutText := by
  cases s with
  | nil => rfl
  | cons c rest =>
    by_cases mark : c = Text.byteOrderMark
    · subst mark
      rw [Text.stripMark, if_pos rfl]
      exact (@withoutText_scan_append [Text.byteOrderMark] rfl rest).symm
    · rw [Text.stripMark, if_neg mark]

/-! ## Where a mark ends -/

/-- The quote that is open behind a character. -/
def nextQuote (quote : Option Char) (c : Char) : Option Char :=
  match quote with
  | none => if c = '"' ∨ c = '\'' then some c else none
  | some q => if c = q then none else some q

/-- The quote that is open behind a text, unless a closing bracket stands in it outside quotes. -/
def quoteBehind? (quote : Option Char) : List Char → Option (Option Char)
  | [] => some quote
  | c :: rest => if quote = none ∧ c = '>' then none else quoteBehind? (nextQuote quote c) rest

theorem quoteBehind?_append (quote : Option Char) (front back : List Char) :
    quoteBehind? quote (front ++ back) = (quoteBehind? quote front).bind fun q => quoteBehind? q back := by
  induction front generalizing quote with
  | nil => rfl
  | cons c rest ih =>
    simp only [List.cons_append, quoteBehind?]
    split
    · rfl
    · exact ih _

/-- White space neither opens nor closes a quote. -/
theorem quoteBehind?_spaces {quote : Option Char} {spaces : List Char} (blank : spaces.all isSpace = true)
    (isQuote : ∀ q, quote = some q → isSpace q = false) : quoteBehind? quote spaces = some quote := by
  induction spaces with
  | nil => rfl
  | cons c rest ih =>
    obtain ⟨space, blank⟩ : isSpace c = true ∧ rest.all isSpace = true := by simpa using blank
    have other {q : Char} (visible : isSpace q = false) : c ≠ q := by
      rintro rfl
      rw [space] at visible
      cases visible
    have same : nextQuote quote c = quote := by
      cases quote with
      | none => simp [nextQuote, other (q := '"') rfl, other (q := '\'') rfl]
      | some q => simp [nextQuote, other (isQuote q rfl)]
    rw [quoteBehind?, if_neg (fun ends => other (q := '>') rfl ends.2), same]
    exact ih blank

theorem nextQuote_eq_some {quote : Option Char} {c q : Char} (opened : nextQuote quote c = some q)
    (isQuote : ∀ q, quote = some q → isSpace q = false) : isSpace q = false := by
  cases quote with
  | none =>
    simp only [nextQuote] at opened
    split at opened
    · next mark =>
      cases opened
      rcases mark with rfl | rfl <;> rfl
    · cases opened
  | some q' =>
    simp only [nextQuote] at opened
    split at opened
    · cases opened
    · cases opened
      exact isQuote q rfl

/-- What is open behind a text is no white space if what is open in front of it is none. -/
theorem quoteBehind?_eq_some {quote : Option Char} {s : List Char} {q : Char}
    (opened : quoteBehind? quote s = some (some q)) (isQuote : ∀ q, quote = some q → isSpace q = false) :
    isSpace q = false := by
  induction s generalizing quote with
  | nil =>
    cases opened
    exact isQuote q rfl
  | cons c rest ih =>
    rw [quoteBehind?] at opened
    split at opened
    · cases opened
    · exact ih opened fun q' opened' => nextQuote_eq_some opened' isQuote

theorem tagSpan_cons {quote : Option Char} {c : Char} (inside : ¬(quote = none ∧ c = '>')) (rest : List Char) :
    tagSpan quote (c :: rest) =
      (tagSpan (nextQuote quote c) rest).map fun (content, after) => (c :: content, after) := by
  cases quote with
  | none =>
    have bracket : c ≠ '>' := fun same => inside ⟨rfl, same⟩
    simp only [tagSpan, if_neg bracket, nextQuote]
    cases tagSpan (if c = '"' ∨ c = '\'' then some c else none) rest <;> rfl
  | some q =>
    simp only [tagSpan, nextQuote]
    cases tagSpan (if c = q then none else some q) rest <;> rfl

/-- A tag is the text up to its first closing bracket outside quotes. -/
theorem tagSpan_eq_ok_iff (quote : Option Char) (s content after : List Char) :
    tagSpan quote s = .ok (content, after) ↔
      s = content ++ '>' :: after ∧ quoteBehind? quote content = some none := by
  induction s generalizing quote content with
  | nil =>
    constructor
    · intro ends
      cases quote <;> cases ends
    · rintro ⟨same, _⟩
      simp at same
  | cons c rest ih =>
    by_cases ends : quote = none ∧ c = '>'
    · obtain ⟨rfl, rfl⟩ := ends
      have here : tagSpan none ('>' :: rest) = .ok ([], rest) := rfl
      rw [here]
      constructor
      · intro same
        cases same
        exact ⟨rfl, rfl⟩
      · rintro ⟨same, closed⟩
        cases content with
        | nil => cases same; rfl
        | cons d content =>
          obtain ⟨rfl, _⟩ := List.cons.inj same
          simp [quoteBehind?] at closed
    · rw [tagSpan_cons ends]
      constructor
      · intro same
        cases inner : tagSpan (nextQuote quote c) rest with
        | error fault => rw [inner] at same; cases same
        | ok span =>
          obtain ⟨content', after'⟩ := span
          rw [inner] at same
          cases same
          obtain ⟨rfl, closed⟩ := (ih (nextQuote quote c) content').mp inner
          exact ⟨rfl, by rw [quoteBehind?, if_neg ends]; exact closed⟩
      · rintro ⟨same, closed⟩
        cases content with
        | nil =>
          obtain ⟨rfl, _⟩ := List.cons.inj same
          cases closed
          exact absurd ⟨rfl, rfl⟩ ends
        | cons d content =>
          obtain ⟨rfl, rfl⟩ := List.cons.inj same
          rw [quoteBehind?, if_neg ends] at closed
          rw [(ih (nextQuote quote c) content).mpr ⟨rfl, closed⟩]
          rfl

theorem dropFront?_eq_some_iff (mark s after : List Char) :
    Text.dropFront? mark s = some after ↔ s = mark ++ after := by
  unfold Text.dropFront?
  by_cases begins : mark.isPrefixOf s
  · obtain ⟨rest, rfl⟩ := List.isPrefixOf_iff_prefix.mp begins
    simp [begins]
  · rw [if_neg begins]
    constructor
    · nofun
    · rintro rfl
      exact absurd (List.isPrefixOf_iff_prefix.mpr (List.prefix_append mark after)) begins

theorem cutAt?_mark (mark more : List Char) : Text.cutAt? mark (mark ++ more) = some ([], more) := by
  have front : Text.dropFront? mark (mark ++ more) = some more := (dropFront?_eq_some_iff _ _ _).mpr rfl
  cases whole : mark ++ more with
  | nil =>
    obtain ⟨rfl, rfl⟩ := List.append_eq_nil_iff.mp whole
    rfl
  | cons c rest =>
    rw [whole] at front
    simp [Text.cutAt?, front]

/-- A mark that is found is found at the same place whatever follows it. -/
theorem cutAt?_eq_some {mark s before after : List Char} (found : Text.cutAt? mark s = some (before, after))
    (more : List Char) : s = before ++ (mark ++ after) ∧
      Text.cutAt? mark (before ++ (mark ++ more)) = some (before, more) := by
  induction s generalizing before with
  | nil =>
    simp only [Text.cutAt?] at found
    split at found
    · next empty =>
      cases found
      rw [List.isEmpty_iff.mp empty]
      exact ⟨rfl, cutAt?_mark [] more⟩
    · cases found
  | cons c rest ih =>
    cases front : Text.dropFront? mark (c :: rest) with
    | some behind =>
      simp only [Text.cutAt?, front] at found
      cases found
      exact ⟨(dropFront?_eq_some_iff mark (c :: rest) after).mp front, cutAt?_mark mark more⟩
    | none =>
      simp only [Text.cutAt?, front] at found
      cases cut : Text.cutAt? mark rest with
      | none => rw [cut] at found; cases found
      | some span =>
        obtain ⟨before', after'⟩ := span
        rw [cut] at found
        cases found
        obtain ⟨rfl, later⟩ := ih cut
        refine ⟨rfl, ?_⟩
        -- The mark would end in front of what follows, so it would have stood there before.
        have front' : Text.dropFront? mark (c :: (before' ++ (mark ++ more))) = none := by
          rw [Text.dropFront?, if_neg]
          intro begins
          have short : mark <+: c :: (before' ++ mark) := by
            refine List.prefix_of_prefix_length_le (List.isPrefixOf_iff_prefix.mp begins) ?_ ?_
            · exact ⟨more, by simp⟩
            · simp only [List.length_cons, List.length_append]
              omega
          obtain ⟨behind, same⟩ := short
          have earlier := (dropFront?_eq_some_iff mark (c :: (before' ++ (mark ++ after'))) (behind ++ after')).mpr
            (by rw [← List.append_assoc mark, same]; simp)
          rw [earlier] at front
          cases front
        rw [List.cons_append, Text.cutAt?, front', later]
        rfl

/-- What was found between two marks is found between them again. -/
theorem cutBetween?_eq_some {opening mark s body after : List Char}
    (found : (Text.dropFront? opening s).bind (Text.cutAt? mark) = some (body, after)) (more : List Char) :
    (Text.dropFront? opening (opening ++ body ++ mark ++ more)).bind (Text.cutAt? mark) = some (body, more) := by
  cases front : Text.dropFront? opening s with
  | none => rw [front] at found; cases found
  | some inside =>
    rw [front, Option.bind_some] at found
    rw [List.append_assoc, List.append_assoc, (dropFront?_eq_some_iff _ _ _).mpr rfl]
    exact (cutAt?_eq_some found more).2

/-! ## Events that are read back -/

/-- The event is read back from its text, whatever follows that. -/
def Event.ReadsBack (e : Event) : Prop :=
  ∀ rest, scan (e.render ++ rest) = (scan rest).cons e

theorem Event.ReadsBack.withoutText_scan {e : Event} (back : e.ReadsBack) (isMark : e.isText = false)
    (rest : List Char) : (scan (e.render ++ rest)).withoutText = (scan rest).withoutText.cons e := by
  rw [back rest, Reading.withoutText, Reading.cons, withoutText_cons isMark]
  rfl

theorem readsBack_of_render {e : Event} {c : Char} {front : List Char} (written : e.render = c :: front)
    (reads : ∀ rest, next c (front ++ rest) = .ok (e, rest)) : e.ReadsBack := by
  intro rest
  rw [written, List.cons_append]
  exact scan_cons_ok (reads rest)

theorem readsBack_comment {s body after : List Char}
    (found : (Text.dropFront? "--".toList s).bind (Text.cutAt? "-->".toList) = some (body, after)) :
    (Event.comment body).ReadsBack := by
  have written : (Event.comment body).render = '<' :: '!' :: ("--".toList ++ body ++ "-->".toList) := rfl
  refine readsBack_of_render written fun rest => ?_
  have reads {s after : List Char}
      (found : (Text.dropFront? "--".toList ('-' :: s)).bind (Text.cutAt? "-->".toList) = some (body, after)) :
      next '<' ('!' :: '-' :: s) = .ok (.comment body, after) := by
    show bang ('-' :: s) = _
    simp only [bang, found]
  exact reads (cutBetween?_eq_some found rest)

theorem readsBack_characterData {s body after : List Char}
    (found : (Text.dropFront? "[CDATA[".toList s).bind (Text.cutAt? "]]>".toList) = some (body, after)) :
    (Event.characterData body).ReadsBack := by
  have written : (Event.characterData body).render = '<' :: '!' :: ("[CDATA[".toList ++ body ++ "]]>".toList) := rfl
  refine readsBack_of_render written fun rest => ?_
  have reads {s after : List Char}
      (found : (Text.dropFront? "[CDATA[".toList ('[' :: s)).bind (Text.cutAt? "]]>".toList) = some (body, after)) :
      next '<' ('!' :: '[' :: s) = .ok (.characterData body, after) := by
    show bang ('[' :: s) = _
    simp only [bang, found]
  exact reads (cutBetween?_eq_some found rest)

/-- One question mark closes what was opened with one, as long as it is not the one that opens. -/
theorem question_append {s body after : List Char} (begins : s.head? ≠ some '>')
    (found : Text.cutAt? "?>".toList s = some (body, after)) (rest : List Char) :
    question (body ++ "?>".toList ++ rest) =
      .ok (if isDeclaration body then .declaration body else .instruction body, rest) := by
  obtain ⟨whole, again⟩ := cutAt?_eq_some found rest
  have begins' : ¬(body ++ "?>".toList ++ rest).head? = some '>' := by
    cases body with
    | nil => simp
    | cons c body =>
      rw [whole] at begins
      exact begins
  unfold question
  rw [if_neg begins', List.append_assoc, again]

theorem readsBack_question {s body after : List Char} (begins : s.head? ≠ some '>')
    (found : Text.cutAt? "?>".toList s = some (body, after)) :
    (if isDeclaration body then Event.declaration body else .instruction body).ReadsBack := by
  have written : (if isDeclaration body then Event.declaration body else .instruction body).render =
      '<' :: '?' :: (body ++ "?>".toList) := by
    split <;> rfl
  exact readsBack_of_render written fun rest => question_append begins found rest

theorem closingName_append_spaces (content : List Char) :
    ∃ spaces, content = closingName content ++ spaces ∧ spaces.all isSpace = true := by
  unfold closingName
  split
  · exact ⟨[], by simp, rfl⟩
  · refine ⟨(content.reverse.takeWhile isSpace).reverse, ?_, ?_⟩
    · rw [← List.reverse_append, List.takeWhile_append_dropWhile, List.reverse_reverse]
    · rw [List.all_reverse]
      exact List.all_takeWhile

theorem closingName_closingName (content : List Char) : closingName (closingName content) = closingName content := by
  by_cases blank : content.all isSpace
  · have same : closingName content = content := by rw [closingName, if_pos blank]
    rw [same, same]
  · have trimmed : closingName content = (content.reverse.dropWhile isSpace).reverse := by
      rw [closingName, if_neg blank]
    rw [closingName]
    split
    · rfl
    · rw [trimmed, List.reverse_reverse]
      cases back : content.reverse.dropWhile isSpace with
      | nil => rfl
      | cons c more =>
        have visible := List.head?_dropWhile_not isSpace content.reverse
        rw [back] at visible
        rw [List.dropWhile_cons_of_neg (by simpa using visible)]

theorem readsBack_closing {content : List Char} (closed : quoteBehind? none ('/' :: content) = some none) :
    (Event.closing (closingName content)).ReadsBack := by
  obtain ⟨spaces, whole, blank⟩ := closingName_append_spaces content
  have closed' : quoteBehind? none ('/' :: closingName content) = some none := by
    rw [whole, ← List.cons_append, quoteBehind?_append] at closed
    obtain ⟨quote, front, back⟩ := Option.bind_eq_some_iff.mp closed
    have same : quoteBehind? quote spaces = some quote := by
      refine quoteBehind?_spaces blank ?_
      rintro q rfl
      exact quoteBehind?_eq_some front nofun
    rw [front, ← same, back]
  have written : (Event.closing (closingName content)).render = '<' :: '/' :: (closingName content ++ ['>']) := rfl
  refine readsBack_of_render written fun rest => ?_
  have span : tagSpan none ('/' :: (closingName content ++ ['>']) ++ rest) = .ok ('/' :: closingName content, rest) :=
    (tagSpan_eq_ok_iff _ _ _ _).mpr ⟨by simp, closed'⟩
  have reads (s : List Char) : next '<' ('/' :: s) =
      (tagSpan none ('/' :: s)).bind fun (content, after) => .ok (ofTag content, after) := rfl
  rw [List.cons_append] at span ⊢
  rw [reads, span]
  exact congrArg (fun name => Except.ok (Event.closing name, rest)) (closingName_closingName content)

/-- A character inside a reference. -/
def isReferenceChar (c : Char) : Bool :=
  isText c && c != ';'

/-- A reference ends at the semicolon behind its name. -/
theorem span_reference {name : List Char} (inside : name.all isReferenceChar = true) (rest : List Char) :
    (name ++ ';' :: rest).takeWhile isReferenceChar = name ∧
      (name ++ ';' :: rest).dropWhile isReferenceChar = ';' :: rest := by
  have inside := List.all_eq_true.mp inside
  have ends : ¬isReferenceChar ';' = true := by decide
  constructor
  · rw [List.takeWhile_append_of_pos inside, List.takeWhile_cons_of_neg ends, List.append_nil]
  · rw [List.dropWhile_append_of_pos inside, List.dropWhile_cons_of_neg ends]

theorem readsBack_reference {name : List Char} (inside : name.all isReferenceChar = true) :
    (Event.reference name).ReadsBack := by
  have written : (Event.reference name).render = '&' :: (name ++ [';']) := rfl
  refine readsBack_of_render written fun rest => ?_
  obtain ⟨front, behind⟩ := span_reference inside rest
  have whole : name ++ [';'] ++ rest = name ++ ';' :: rest := by simp
  have same : (fun d => isText d && d != ';') = isReferenceChar := rfl
  unfold next
  rw [whole, if_neg (by decide), if_pos rfl, same, behind, front]
  rfl

/-! ## What is known of events that were read -/

/-- The name of a tag: it ends in front of white space, and begins as no other mark does. -/
structure IsTagName (name : List Char) : Prop where
  visible : ∀ c ∈ name, isSpace c = false
  begins : ∀ c, name.head? = some c → c ≠ '!' ∧ c ≠ '?' ∧ c ≠ '/'

/-- What is known of an event that was read. Of a document type there is nothing to know. -/
def Event.IsRead : Event → Prop
  | .text body => body.all Markup.isText = true
  | .opening tag | .standalone tag => IsTagName tag.name
  | .doctype _ => True
  | e => e.ReadsBack

theorem isTagName_ofContent {content : List Char}
    (begins : ∀ c, content.head? = some c → c ≠ '!' ∧ c ≠ '?' ∧ c ≠ '/') :
    IsTagName (Tag.ofContent content).name := by
  constructor
  · intro c member
    simpa using List.all_eq_true.mp (List.all_takeWhile (p := (!isSpace ·))) c member
  · intro c first
    apply begins
    cases content with
    | nil => cases first
    | cons d content =>
      by_cases space : isSpace d
      · simp [Tag.ofContent, space] at first
      · simpa [Tag.ofContent, space] using first

theorem isRead_ofTag {content : List Char} (begins : ∀ c, content.head? = some c → c ≠ '!' ∧ c ≠ '?')
    (closed : quoteBehind? none content = some none) : (ofTag content).IsRead := by
  unfold ofTag
  split
  · exact readsBack_closing closed
  · next other =>
    have begins' (c : Char) (first : content.head? = some c) : c ≠ '!' ∧ c ≠ '?' ∧ c ≠ '/' := by
      refine ⟨(begins c first).1, (begins c first).2, ?_⟩
      rintro rfl
      obtain ⟨name, rfl⟩ := List.head?_eq_some_iff.mp first
      exact other name rfl
    split
    · refine isTagName_ofContent fun c first => begins' c ?_
      match content, first with
      | d :: _ :: _, first => exact first
    · exact isTagName_ofContent begins'

theorem isRead_of_bang {s after : List Char} {e : Event} (read : bang s = .ok (e, after)) : e.IsRead := by
  unfold bang at read
  split at read
  · split at read
    · next found => cases read; exact readsBack_comment found
    · cases read
  · split at read
    · next found => cases read; exact readsBack_characterData found
    · cases read
  · split at read
    · split at read
      · simp only at read
        split at read
        · split at read
          · cases read
          · cases read
            trivial
        · cases read
      · cases read
    · cases read
  · cases read

theorem isRead_of_question {s after : List Char} {e : Event} (read : question s = .ok (e, after)) : e.IsRead := by
  unfold question at read
  split at read
  · cases read
  · next begins =>
    split at read
    · next body behind found =>
      have back := readsBack_question begins found
      cases read
      split at back
      · next declares => rw [if_pos declares]; exact back
      · next instructs => rw [if_neg instructs]; exact back
    · cases read

theorem isRead_of_next {c : Char} {rest after : List Char} {e : Event} (read : next c rest = .ok (e, after)) :
    e.IsRead := by
  unfold next at read
  split at read
  · split at read
    · exact isRead_of_bang read
    · exact isRead_of_question read
    · next noBang noQuestion =>
      cases span : tagSpan none rest with
      | error fault => rw [span] at read; cases read
      | ok found =>
        obtain ⟨content, behind⟩ := found
        rw [span] at read
        cases read
        obtain ⟨rfl, closed⟩ := (tagSpan_eq_ok_iff _ _ _ _).mp span
        refine isRead_ofTag ?_ closed
        intro d first
        obtain ⟨more, rfl⟩ := List.head?_eq_some_iff.mp first
        constructor
        · rintro rfl
          exact noBang _ rfl
        · rintro rfl
          exact noQuestion _ rfl
  · next noBracket =>
    split at read
    · split at read
      · cases read
        exact readsBack_reference List.all_takeWhile
      · cases read
    · next noReference =>
      cases read
      have first : isText c = true := by simp [isText, noBracket, noReference]
      simp only [Event.IsRead, List.all_cons, first, Bool.true_and]
      exact List.all_takeWhile

theorem isRead_of_mem_scan {s : List Char} {e : Event} (member : e ∈ (scan s).events) : e.IsRead := by
  induction s using scan.induct with
  | case1 =>
    rw [scan] at member
    cases member
  | case2 c rest fault failed =>
    rw [scan_cons_error failed] at member
    cases member
  | case3 c rest first after read ih =>
    rw [scan_cons_ok read] at member
    rcases List.mem_cons.mp member with rfl | member
    · exact isRead_of_next read
    · exact ih member

/-- What is known of all events of a document that was read to its end. -/
theorem isRead_of_mem_read {s : List Char} {e : Event} (none_ : (read s).fault = none)
    (member : e ∈ (read s).events) : e.IsRead := by
  obtain ⟨_, same⟩ := events_nest none_
  rw [read, same] at member
  exact isRead_of_mem_scan member

end DiagramStudio.Markup
