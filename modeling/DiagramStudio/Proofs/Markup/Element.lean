import DiagramStudio.Proofs.Markup.Attributes
import DiagramStudio.Proofs.Markup.Printed

/-!
Elements as they are written, and when they are read back. The tag of an element ends where it was meant
to if no quote is open behind it and no closing bracket stands outside quotes, and an element without
attributes must not end in a slash of its own or have no name (`readsBack_begins_iff`). A document is read
back just where all its elements are (`scan_render_iff`).
-/

namespace DiagramStudio.Markup

/-- An element as it is written: its name, its attributes, and whether a closing tag follows. -/
structure Element where
  name : List Char
  attributes : List Attribute
  hasContent : Bool

namespace Element

def tag (el : Element) : Tag :=
  .ofAttributes el.name el.attributes

/-- The event with which the element begins. -/
def begins (el : Element) : Event :=
  if el.hasContent then .opening el.tag else .standalone el.tag

/-- The text between the brackets of the tag. -/
def inside (el : Element) : List Char :=
  if el.hasContent then el.tag.content else el.tag.content ++ ['/']

/-- The tag ends where it is written to end: no closing bracket in it is outside quotes, and no quote is
    open at its end. -/
def Ends (el : Element) : Prop :=
  quoteBehind? none el.inside = some none

/-- Without attributes, a slash at the end of the name would leave no room for content, and a slash
    without a name would close an element. -/
def KeepsForm (el : Element) : Prop :=
  el.attributes = [] → if el.hasContent then el.name.getLast? ≠ some '/' else el.name ≠ []

/-- The attributes are read back as they are written. -/
def KeepsAttributes (el : Element) : Prop :=
  el.tag.attributes = .ok el.attributes

theorem render_begins (el : Element) : el.begins.render = '<' :: (el.inside ++ ['>']) := by
  unfold begins inside
  split
  · rfl
  · rw [List.append_assoc]
    rfl

theorem isText_begins (el : Element) : el.begins.isText = false := by
  unfold begins
  split <;> rfl

/-- With keys that were read, the attributes are kept just where no value has a double quote in it. -/
theorem keepsAttributes_iff {el : Element} (valid : Attribute.WellKeyed [] el.attributes) :
    el.KeepsAttributes ↔ ∀ a ∈ el.attributes, '"' ∉ a.value :=
  @Attribute.readFrom_render_iff [] el.attributes valid _

/-! ## The tag of an element -/

theorem content_tag (el : Element) : el.tag.content = el.name ++ el.attributes.flatMap Attribute.render := rfl

theorem render_attributes_cons (a : Attribute) (more : List Attribute) :
    ∃ rest, (a :: more).flatMap Attribute.render = ' ' :: rest := ⟨_, rfl⟩

theorem getLast?_attributes {attributes : List Attribute} (some_ : attributes ≠ []) :
    (attributes.flatMap Attribute.render).getLast? = some '"' := by
  obtain none_ | ⟨front, last, rfl⟩ := List.eq_nil_or_concat attributes
  · exact absurd none_ some_
  · rw [List.concat_eq_append, List.flatMap_append, List.flatMap_singleton, Attribute.render, ← List.append_assoc,
      List.getLast?_concat]

/-- A tag that is written is taken apart again behind its name. -/
theorem ofContent_content {el : Element} (named : IsTagName el.name) : Tag.ofContent el.tag.content = el.tag := by
  have visible : ∀ c ∈ el.name, (!isSpace c) = true := fun c member => by rw [named.visible c member]; rfl
  rw [content_tag, Tag.ofContent, List.takeWhile_append_of_pos visible, List.dropWhile_append_of_pos visible]
  cases attributes : el.attributes with
  | nil => simp [tag, Tag.ofAttributes, attributes]
  | cons a more =>
    obtain ⟨rest, written⟩ := render_attributes_cons a more
    rw [written, tag, Tag.ofAttributes, attributes, written]
    simp [isSpace]

theorem content_ofTag {content : List Char} {el : Element} (same : ofTag content = el.begins) :
    content = el.inside := by
  unfold ofTag at same
  unfold begins at same
  unfold inside
  split at same
  · split at same <;> cases same
  · split at same
    · next standing =>
      split at same
      · cases same
      · next without =>
        rw [if_neg without, ← Event.standalone.inj same, Tag.content_ofContent]
        obtain ⟨front, rfl⟩ := List.getLast?_eq_some_iff.mp standing
        rw [List.dropLast_concat]
    · split at same
      · next within => rw [if_pos within, ← Event.opening.inj same, Tag.content_ofContent]
      · cases same

/-- The text of a tag does not begin as other marks do. -/
theorem head?_content {el : Element} (named : IsTagName el.name) (c : Char)
    (first : el.tag.content.head? = some c) : c ≠ '!' ∧ c ≠ '?' ∧ c ≠ '/' := by
  rw [content_tag] at first
  cases name : el.name with
  | cons d rest =>
    rw [name] at first
    cases first
    exact named.begins c (by rw [name]; rfl)
  | nil =>
    rw [name, List.nil_append] at first
    cases attributes : el.attributes with
    | nil => rw [attributes] at first; cases first
    | cons a more =>
      rw [attributes] at first
      cases first
      decide

theorem head?_inside {el : Element} (named : IsTagName el.name) (c : Char) (first : el.inside.head? = some c) :
    c ≠ '!' ∧ c ≠ '?' := by
  unfold inside at first
  cases content : el.tag.content with
  | nil =>
    rw [content] at first
    split at first
    · cases first
    · cases first
      decide
  | cons d rest =>
    have begins := head?_content named d (by rw [content]; rfl)
    rw [content] at first
    split at first <;> cases first <;> exact ⟨begins.1, begins.2.1⟩

theorem ofTag_of_ne_slash {content : List Char} (begins : content.head? ≠ some '/') :
    ofTag content =
      if content.getLast? = some '/' then .standalone (.ofContent content.dropLast)
      else .opening (.ofContent content) := by
  unfold ofTag
  split
  · exact absurd rfl begins
  · rfl

/-- Between its brackets an element is the same again just where it keeps its form. -/
theorem ofTag_inside_iff {el : Element} (named : IsTagName el.name) :
    ofTag el.inside = el.begins ↔ el.KeepsForm := by
  have noSlash : el.tag.content.head? ≠ some '/' := fun first => (head?_content named '/' first).2.2 rfl
  unfold inside begins KeepsForm
  split
  · next within =>
    rw [ofTag_of_ne_slash noSlash, ofContent_content named]
    by_cases bare : el.attributes = []
    · have content : el.tag.content = el.name := by rw [content_tag, bare]; simp
      by_cases slash : el.name.getLast? = some '/'
      · rw [content, if_pos slash]
        exact ⟨nofun, fun keeps => absurd slash (keeps bare)⟩
      · rw [content, if_neg slash]
        exact ⟨fun _ _ => slash, fun _ => rfl⟩
    · have quoted : el.tag.content.getLast? ≠ some '/' := by
        rw [content_tag, List.getLast?_append, getLast?_attributes bare]
        nofun
      rw [if_neg quoted]
      exact ⟨fun _ none_ => absurd none_ bare, fun _ => rfl⟩
  · next without =>
    cases content : el.tag.content with
    | nil =>
      obtain ⟨nameless, none_⟩ := List.append_eq_nil_iff.mp ((content_tag el).symm.trans content)
      have bare : el.attributes = [] := by
        cases attributes : el.attributes with
        | nil => rfl
        | cons a more => rw [attributes] at none_; cases none_
      exact ⟨nofun, fun keeps => absurd nameless (keeps bare)⟩
    | cons c rest =>
      have noSlash' : (c :: rest ++ ['/']).head? ≠ some '/' := by
        rw [content] at noSlash
        exact noSlash
      rw [ofTag_of_ne_slash noSlash', if_pos (List.getLast?_concat ..), List.dropLast_concat, ← content,
        ofContent_content named]
      refine ⟨fun _ bare nameless => ?_, fun _ => rfl⟩
      rw [content_tag, bare, nameless] at content
      cases content

/-! ## Where the tag of an element ends -/

theorem isText_ofTag (content : List Char) : (ofTag content).isText = false := by
  unfold ofTag
  split
  · rfl
  · split <;> rfl

theorem next_inside {el : Element} (named : IsTagName el.name) (rest : List Char) :
    next '<' (el.inside ++ '>' :: rest) =
      (tagSpan none (el.inside ++ '>' :: rest)).map fun (content, after) => (ofTag content, after) := by
  have reads (s : List Char) (begins : ∀ c, s.head? = some c → c ≠ '!' ∧ c ≠ '?') :
      next '<' s = (tagSpan none s).map fun (content, after) => (ofTag content, after) := by
    unfold next
    rw [if_pos rfl]
    split
    · exact absurd rfl (begins '!' rfl).1
    · exact absurd rfl (begins '?' rfl).2
    · cases tagSpan none s <;> rfl
  refine reads _ fun c first => ?_
  cases inside : el.inside with
  | nil =>
    rw [inside] at first
    cases first
    decide
  | cons d more =>
    rw [inside] at first
    cases first
    exact head?_inside named c (by rw [inside]; rfl)

/-- A tag that ends where it is written to end is read as one event. -/
theorem scan_begins {el : Element} (named : IsTagName el.name) (ends : el.Ends) (rest : List Char) :
    scan (el.begins.render ++ rest) = (scan rest).cons (ofTag el.inside) := by
  have span : tagSpan none (el.inside ++ '>' :: rest) = .ok (el.inside, rest) :=
    (tagSpan_eq_ok_iff _ _ _ _).mpr ⟨rfl, ends⟩
  have read := next_inside named rest
  rw [span] at read
  rw [render_begins, List.cons_append, List.append_assoc]
  exact scan_cons_ok read

/-- Only a tag that ends where it is written to end is read as the element. -/
theorem ends_of_scan {el : Element} (named : IsTagName el.name) {rest : List Char} {events : List Event}
    (read : (scan (el.begins.render ++ rest)).withoutText = ⟨el.begins :: events, none⟩) :
    el.Ends ∧ el.KeepsForm := by
  rw [render_begins, List.cons_append, List.append_assoc, List.singleton_append] at read
  have first := next_inside named rest
  cases span : tagSpan none (el.inside ++ '>' :: rest) with
  | error fault =>
    rw [span] at first
    rw [scan_cons_error first] at read
    cases read
  | ok found =>
    obtain ⟨content, after⟩ := found
    rw [span] at first
    rw [scan_cons_ok first] at read
    have same : ofTag content = el.begins := by
      have heads := congrArg Reading.events read
      rw [Reading.withoutText, Reading.cons, withoutText_cons (isText_ofTag content)] at heads
      exact (List.cons.inj heads).1
    obtain rfl := content_ofTag same
    exact ⟨((tagSpan_eq_ok_iff _ _ _ _).mp span).2, (ofTag_inside_iff named).mp same⟩

theorem readsBack_begins_iff {el : Element} (named : IsTagName el.name) :
    el.begins.ReadsBack ↔ el.Ends ∧ el.KeepsForm := by
  constructor
  · intro back
    refine @ends_of_scan el named [] [] ?_
    rw [back.withoutText_scan (isText_begins el), scan]
    rfl
  · rintro ⟨ends, keeps⟩ rest
    rw [scan_begins named ends, (ofTag_inside_iff named).mpr keeps]

end Element

/-! ## Whole documents -/

/-- What a document with the given elements consists of: text, marks that are read back wherever they
    stand, and the beginnings of the elements. -/
def Event.IsWritten (elements : List Element) (e : Event) : Prop :=
  (∃ body, e = .text body ∧ body.all Markup.isText = true) ∨ e.isText = false ∧ e.ReadsBack ∨
    ∃ el ∈ elements, IsTagName el.name ∧ e = el.begins

theorem Event.IsWritten.mono {elements more : List Element} {e : Event} (among : elements ⊆ more)
    (written : e.IsWritten elements) : e.IsWritten more := by
  rcases written with text | back | ⟨el, member, begins⟩
  · exact .inl text
  · exact .inr (.inl back)
  · exact .inr (.inr ⟨el, among member, begins⟩)

/-- A document is read back, but for how its text is divided, just where all its marks are. -/
theorem scan_render_iff {elements : List Element} {events : List Event}
    (written : ∀ e ∈ events, e.IsWritten elements) :
    (scan (render events)).withoutText = ⟨withoutText events, none⟩ ↔
      ∀ e ∈ events, e.isText = false → e.ReadsBack := by
  induction events with
  | nil =>
    rw [render_nil, scan]
    exact ⟨fun _ e member => absurd member List.not_mem_nil, fun _ => rfl⟩
  | cons e more ih =>
    obtain ⟨own, later⟩ := List.forall_mem_cons.mp written
    rw [render_cons, List.forall_mem_cons, ← ih later]
    -- A mark that is read back is the first event, and the others are read from what follows it.
    have behind (isMark : e.isText = false) (back : e.ReadsBack) :
        (scan (e.render ++ render more)).withoutText = ⟨withoutText (e :: more), none⟩ ↔
          (scan (render more)).withoutText = ⟨withoutText more, none⟩ := by
      rw [back.withoutText_scan isMark, withoutText_cons isMark, Reading.cons, Reading.mk.injEq, List.cons.injEq]
      constructor
      · rintro ⟨⟨_, same⟩, none_⟩
        rw [← same, ← none_]
      · intro same
        rw [same]
        exact ⟨⟨rfl, rfl⟩, rfl⟩
    rcases own with ⟨body, rfl, isText⟩ | ⟨isMark, back⟩ | ⟨el, _, named, rfl⟩
    · have noMark : ¬(Event.text body).isText = false := Bool.noConfusion
      rw [show (Event.text body).render = body from rfl, withoutText_scan_append isText, withoutText_cons_text]
      exact ⟨fun same => ⟨fun isMark => absurd isMark noMark, same⟩, fun both => both.2⟩
    · rw [behind isMark back]
      exact ⟨fun same => ⟨fun _ => back, same⟩, fun both => both.2⟩
    · have isMark := Element.isText_begins el
      constructor
      · intro read
        have back : el.begins.ReadsBack := by
          rw [withoutText_cons isMark] at read
          exact (Element.readsBack_begins_iff named).mpr (Element.ends_of_scan named read)
        exact ⟨fun _ => back, (behind isMark back).mp read⟩
      · rintro ⟨back, same⟩
        exact (behind isMark (back isMark)).mpr same

end DiagramStudio.Markup
