import DiagramStudio.Proofs.Markup.Element
import DiagramStudio.Proofs.Markup.Filter

/-!
Reading a cleaned document again. What is read is compared without the text between marks, since text may
be divided in another way. The document is read back as it was written just where each of its elements is
(`readsAs_iff`).
-/

namespace DiagramStudio.Markup

/-! ## Forests without their text -/

namespace Forest

/-- The forest without the text between marks. -/
def withoutText : Forest → Forest
  | empty => empty
  | element tag content rest => element tag content.withoutText rest.withoutText
  | standalone tag rest => standalone tag rest.withoutText
  | leaf e isLeaf rest => if e.isText then rest.withoutText else leaf e isLeaf rest.withoutText

theorem events_withoutText (f : Forest) : f.withoutText.events = Markup.withoutText f.events := by
  induction f with
  | empty => rfl
  | element tag content rest ihContent ihRest =>
    rw [withoutText, events, ihContent, ihRest]
    simp [events, Markup.withoutText, Event.isText]
  | standalone tag rest ih =>
    rw [withoutText, events, ih]
    rfl
  | leaf e isLeaf rest ih =>
    rw [withoutText]
    split
    · next isText =>
      rw [ih, events, Markup.withoutText, Markup.withoutText, List.filter_cons_of_neg (by simp [isText])]
    · next isMark => rw [events, ih, events, withoutText_cons (Bool.eq_false_iff.mpr isMark)]

theorem tags_withoutText (f : Forest) : f.withoutText.tags = f.tags := by
  induction f with
  | empty => rfl
  | element tag content rest ihContent ihRest => rw [withoutText, tags, ihContent, ihRest, tags]
  | standalone tag rest ih => rw [withoutText, tags, ih, tags]
  | leaf e isLeaf rest ih =>
    rw [withoutText]
    split
    · exact ih
    · exact ih

theorem topTags_withoutText (f : Forest) : f.withoutText.topTags = f.topTags := by
  induction f with
  | empty => rfl
  | element tag content rest _ ihRest => rw [withoutText, topTags, ihRest, topTags]
  | standalone tag rest ih => rw [withoutText, topTags, ih, topTags]
  | leaf e isLeaf rest ih =>
    rw [withoutText]
    split
    · exact ih
    · exact ih

/-- How text is divided makes no difference to the elements. -/
theorem tags_eq_of_withoutText {f g : Forest} (same : Markup.withoutText f.events = Markup.withoutText g.events) :
    f.tags = g.tags ∧ f.topTags = g.topTags := by
  have marks : f.withoutText = g.withoutText :=
    events_injective (by rw [events_withoutText, events_withoutText, same])
  rw [← tags_withoutText f, ← topTags_withoutText f, marks, tags_withoutText, topTags_withoutText]
  exact ⟨rfl, rfl⟩

theorem references_withoutText (f : Forest) : f.withoutText.references = f.references := by
  induction f with
  | empty => rfl
  | element tag content rest ihContent ihRest => rw [withoutText, references, ihContent, ihRest, references]
  | standalone tag rest ih => exact ih
  | leaf e isLeaf rest ih =>
    cases e with
    | reference name => exact congrArg (name :: ·) ih
    | opening tag => cases isLeaf
    | closing name => cases isLeaf
    | standalone tag => cases isLeaf
    | _ => exact ih

theorem references_eq_of_withoutText {f g : Forest}
    (same : Markup.withoutText f.events = Markup.withoutText g.events) : f.references = g.references := by
  have marks : f.withoutText = g.withoutText :=
    events_injective (by rw [events_withoutText, events_withoutText, same])
  rw [← references_withoutText f, marks, references_withoutText]

end Forest

/-! ## Documents that are read back -/

theorem openBehind?_withoutText (open_ : List (List Char)) (events : List Event) :
    openBehind? open_ (withoutText events) = openBehind? open_ events := by
  induction events generalizing open_ with
  | nil => rfl
  | cons e more ih =>
    cases e with
    | text body =>
      rw [withoutText_cons_text, openBehind?_leaf rfl]
      exact ih open_
    | closing name =>
      rw [withoutText_cons rfl]
      cases open_ with
      | nil => rfl
      | cons expected outer => simp only [openBehind?, ih]
    | _ =>
      rw [withoutText_cons rfl]
      exact ih _

/-- Reading the text meets no fault and gives the marks of the forest, whatever text stands between them. -/
def ReadsAs (out : List Char) (f : Forest) : Prop :=
  (read out).fault = none ∧ withoutText (read out).events = withoutText f.events

theorem readsAs_iff_scan (out : List Char) (f : Forest) :
    ReadsAs out f ↔ (scan out).withoutText = ⟨withoutText f.events, none⟩ := by
  rw [← withoutText_scan_stripMark out]
  constructor
  · rintro ⟨none_, same⟩
    obtain ⟨none_', same'⟩ := events_nest none_
    rw [read, same'] at same
    rw [Reading.withoutText, same, none_']
  · intro scanned
    obtain ⟨same, none_⟩ := (Reading.mk.injEq ..).mp scanned
    have matched : openBehind? [] (scan (Text.stripMark out)).events = some [] := by
      rw [← openBehind?_withoutText, same, openBehind?_withoutText]
      exact (exists_forest_iff _).mp ⟨f, rfl⟩
    have read_ : read out = ⟨(scan (Text.stripMark out)).events, none⟩ := by
      rw [read, none_]
      exact nest_of_openBehind? matched
    rw [ReadsAs, read_]
    exact ⟨rfl, same⟩

/-- A text that is read as a forest, but for its text between marks, is that of a forest. -/
theorem ReadsAs.exists_forest {out : List Char} {f : Forest} (reads : ReadsAs out f) :
    ∃ g : Forest, read out = ⟨g.events, none⟩ ∧ withoutText g.events = withoutText f.events := by
  obtain ⟨none_, same⟩ := reads
  have matched : openBehind? [] (read out).events = some [] := by
    rw [← openBehind?_withoutText, same, openBehind?_withoutText]
    exact (exists_forest_iff _).mp ⟨f, rfl⟩
  obtain ⟨g, events⟩ := (exists_forest_iff _).mpr matched
  exact ⟨g, by rw [events, ← none_], by rw [events, same]⟩

/-! ## Elements of a cleaned document -/

namespace Forest

/-- The elements as they are written, in the order of their tags. -/
def written (isRoot : Bool) : Forest → List Element
  | empty => []
  | element tag content rest =>
    ⟨tag.name, tag.writtenAttributes isRoot, true⟩ :: (content.written false ++ rest.written isRoot)
  | standalone tag rest => ⟨tag.name, tag.writtenAttributes isRoot, false⟩ :: rest.written isRoot
  | leaf _ _ rest => rest.written isRoot

theorem tags_rewritten (isRoot : Bool) (f : Forest) :
    (f.rewritten isRoot).tags = (f.written isRoot).map Element.tag := by
  induction f generalizing isRoot with
  | empty => rfl
  | element tag content rest ihContent ihRest =>
    rw [rewritten, tags, written, List.map_cons, List.map_append, ihContent, ihRest]
    rfl
  | standalone tag rest ih =>
    rw [rewritten, tags, written, List.map_cons, ih]
    rfl
  | leaf e isLeaf rest ih =>
    rw [rewritten, written, ← ih]
    split <;> rfl

theorem mem_events_of_withoutScripts {f : Forest} {e : Event} (member : e ∈ f.withoutScripts.events) :
    e ∈ f.events := by
  induction f with
  | empty => cases member
  | element tag content rest ihContent ihRest =>
    simp only [events, List.mem_cons, List.mem_append]
    rw [withoutScripts] at member
    split at member
    · exact .inr (.inr (.inr (ihRest member)))
    · simp only [events, List.mem_cons, List.mem_append] at member
      rcases member with same | member | same | member
      · exact .inl same
      · exact .inr (.inl (ihContent member))
      · exact .inr (.inr (.inl same))
      · exact .inr (.inr (.inr (ihRest member)))
  | standalone tag rest ih =>
    rw [withoutScripts] at member
    split at member
    · exact List.mem_cons_of_mem _ (ih member)
    · rcases List.mem_cons.mp member with same | member
      · exact List.mem_cons.mpr (.inl same)
      · exact List.mem_cons_of_mem _ (ih member)
  | leaf e isLeaf rest ih =>
    rcases List.mem_cons.mp member with same | member
    · exact List.mem_cons.mpr (.inl same)
    · exact List.mem_cons_of_mem _ (ih member)

theorem events_rewritten_begins (isRoot : Bool) (tag : Tag) (content rest : Forest) :
    ((element tag content rest).rewritten isRoot).events =
      (Element.mk tag.name (tag.writtenAttributes isRoot) true).begins ::
        ((content.rewritten false).events ++ .closing tag.name :: (rest.rewritten isRoot).events) := rfl

/-- What stays of a leaf that was read is text or is read back. -/
theorem isWritten_of_leaf {e : Event} (isLeaf : e.isLeaf = true) (stays : e.isDropped = false)
    (known : e.IsRead) (elements : List Element) : e.IsWritten elements := by
  cases e with
  | text body => exact .inl ⟨body, rfl, known⟩
  | opening tag => cases isLeaf
  | closing name => cases isLeaf
  | standalone tag => cases isLeaf
  | doctype body => cases stays
  | _ => exact .inr (.inl ⟨rfl, known⟩)

theorem isWritten_of_mem {f : Forest} (known : ∀ e ∈ f.events, e.IsRead) (isRoot : Bool) (e : Event)
    (member : e ∈ (f.rewritten isRoot).events) : e.IsWritten (f.written isRoot) := by
  induction f generalizing isRoot with
  | empty => cases member
  | element tag content rest ihContent ihRest =>
    simp only [events, List.forall_mem_cons, List.forall_mem_append] at known
    obtain ⟨own, inside, closing, behind⟩ := known
    have named : IsTagName tag.name := own
    rw [events_rewritten_begins] at member
    simp only [List.mem_cons, List.mem_append] at member
    rcases member with rfl | member | rfl | member
    · exact .inr (.inr ⟨_, List.mem_cons_self, named, rfl⟩)
    · refine (ihContent inside false member).mono fun el among => ?_
      exact List.mem_cons_of_mem _ (List.mem_append_left _ among)
    · exact .inr (.inl ⟨rfl, closing⟩)
    · refine (ihRest behind isRoot member).mono fun el among => ?_
      exact List.mem_cons_of_mem _ (List.mem_append_right _ among)
  | standalone tag rest ih =>
    obtain ⟨own, behind⟩ := List.forall_mem_cons.mp known
    have named : IsTagName tag.name := own
    rcases List.mem_cons.mp member with rfl | member
    · exact .inr (.inr ⟨_, List.mem_cons_self, named, rfl⟩)
    · exact (ih behind isRoot member).mono fun el among => List.mem_cons_of_mem _ among
  | leaf first isLeaf rest ih =>
    obtain ⟨own, behind⟩ := List.forall_mem_cons.mp known
    rw [rewritten] at member
    split at member
    · exact ih behind isRoot member
    · next stays =>
      rcases List.mem_cons.mp member with rfl | member
      · exact isWritten_of_leaf isLeaf (Bool.eq_false_iff.mpr stays) own _
      · exact ih behind isRoot member

/-- The marks of a cleaned document are all read back just where all its elements are. -/
theorem readsBack_iff {f : Forest} (known : ∀ e ∈ f.events, e.IsRead) (isRoot : Bool) :
    (∀ e ∈ (f.rewritten isRoot).events, e.isText = false → e.ReadsBack) ↔
      ∀ el ∈ f.written isRoot, el.Ends ∧ el.KeepsForm := by
  induction f generalizing isRoot with
  | empty => exact ⟨fun _ => nofun, fun _ => nofun⟩
  | element tag content rest ihContent ihRest =>
    simp only [events, List.forall_mem_cons, List.forall_mem_append] at known
    obtain ⟨own, inside, closing, behind⟩ := known
    have back := @Element.readsBack_begins_iff ⟨tag.name, tag.writtenAttributes isRoot, true⟩ own
    rw [events_rewritten_begins, written, List.forall_mem_cons, List.forall_mem_append, List.forall_mem_cons,
      List.forall_mem_cons, List.forall_mem_append, ihContent inside, ihRest behind, ← back]
    constructor
    · rintro ⟨first, content, _, rest⟩
      exact ⟨first rfl, content, rest⟩
    · rintro ⟨first, content, rest⟩
      exact ⟨fun _ => first, content, fun _ => closing, rest⟩
  | standalone tag rest ih =>
    obtain ⟨own, behind⟩ := List.forall_mem_cons.mp known
    have back := @Element.readsBack_begins_iff ⟨tag.name, tag.writtenAttributes isRoot, false⟩ own
    rw [rewritten, events, written, List.forall_mem_cons, List.forall_mem_cons, ih behind, ← back]
    constructor
    · rintro ⟨first, rest⟩
      exact ⟨first rfl, rest⟩
    · rintro ⟨first, rest⟩
      exact ⟨fun _ => first, rest⟩
  | leaf first isLeaf rest ih =>
    obtain ⟨own, behind⟩ := List.forall_mem_cons.mp known
    rw [rewritten, written, ← ih behind]
    split
    · rfl
    · next stays =>
      rw [events, List.forall_mem_cons]
      refine ⟨And.right, fun rest => ⟨fun isMark => ?_, rest⟩⟩
      have known := isWritten_of_leaf isLeaf (Bool.eq_false_iff.mpr stays) own []
      rcases known with ⟨body, rfl, _⟩ | ⟨_, back⟩ | ⟨el, none_, _⟩
      · cases isMark
      · exact back
      · cases none_

end Forest

/-- A cleaned document is read back just where each of its tags ends where it is written to end and makes
    the same element again. -/
theorem readsAs_iff {f : Forest} (known : ∀ e ∈ f.events, e.IsRead) :
    ReadsAs (render (f.rewritten true).events) (f.rewritten true) ↔
      ∀ el ∈ f.written true, el.Ends ∧ el.KeepsForm := by
  rw [readsAs_iff_scan, scan_render_iff (Forest.isWritten_of_mem known true), Forest.readsBack_iff known true]

/-! ## Elements that are opened and closed -/

/-- How many more elements are open behind an event than in front of it. -/
def Event.weight : Event → Int
  | .opening _ => 1
  | .closing _ => -1
  | _ => 0

/-- How many more elements are opened than closed. -/
def balance (events : List Event) : Int :=
  (events.map Event.weight).sum

theorem balance_cons (e : Event) (events : List Event) : balance (e :: events) = e.weight + balance events := by
  rw [balance, List.map_cons, List.sum_cons, balance]

theorem balance_append (front back : List Event) : balance (front ++ back) = balance front + balance back := by
  rw [balance, List.map_append, List.sum_append, balance, balance]

theorem weight_leaf {e : Event} (isLeaf : e.isLeaf = true) : e.weight = 0 := by
  cases e <;> first | rfl | cases isLeaf

/-- In a forest as many elements are closed as are opened. -/
theorem Forest.balance_events (f : Forest) : balance f.events = 0 := by
  induction f with
  | empty => rfl
  | element tag content rest ihContent ihRest =>
    rw [events, balance_cons, balance_append, balance_cons, ihContent, ihRest]
    rfl
  | standalone tag rest ih =>
    rw [events, balance_cons, ih]
    rfl
  | leaf e isLeaf rest ih => rw [events, balance_cons, ih, weight_leaf isLeaf, Int.add_zero]

theorem balance_withoutText (events : List Event) : balance (withoutText events) = balance events := by
  induction events with
  | nil => rfl
  | cons e more ih =>
    cases isText : e.isText with
    | false => rw [withoutText_cons isText, balance_cons, balance_cons, ih]
    | true =>
      cases e with
      | text body =>
        rw [withoutText_cons_text, balance_cons, ih]
        exact (Int.zero_add _).symm
      | _ => cases isText

/-- An element that does not keep its form is not opened, or closes another. -/
theorem Element.weight_ofTag_lt {el : Element} (named : IsTagName el.name) (loses : ¬el.KeepsForm) :
    (ofTag el.inside).weight < el.begins.weight := by
  obtain ⟨bare, form⟩ := Classical.not_imp.mp loses
  have content : el.tag.content = el.name := by rw [content_tag, bare, List.flatMap_nil, List.append_nil]
  unfold inside begins
  split
  · next within =>
    rw [if_pos within] at form
    have slash : el.name.getLast? = some '/' := Decidable.not_not.mp form
    have noSlash : el.name.head? ≠ some '/' := fun first => (named.begins '/' first).2.2 rfl
    rw [content, ofTag_of_ne_slash noSlash, if_pos slash]
    exact Int.zero_lt_one
  · next without =>
    rw [if_neg without] at form
    rw [content, Decidable.not_not.mp form]
    exact Int.negSucc_lt_zero 0

/-- If every tag ends where it is written to end, no more elements are open when a document is read again,
    and as many only if all marks are read back. -/
theorem balance_scan {elements : List Element} (ends : ∀ el ∈ elements, el.Ends) {events : List Event}
    (written : ∀ e ∈ events, e.IsWritten elements) :
    balance (scan (render events)).events ≤ balance events ∧
      (balance (scan (render events)).events = balance events →
        ∀ e ∈ events, e.isText = false → e.ReadsBack) := by
  induction events with
  | nil =>
    rw [render_nil, scan]
    exact ⟨Int.le_refl _, fun _ e member => absurd member List.not_mem_nil⟩
  | cons e more ih =>
    obtain ⟨own, later⟩ := List.forall_mem_cons.mp written
    obtain ⟨most, exact_⟩ := ih later
    rw [render_cons, List.forall_mem_cons, balance_cons]
    rcases own with ⟨body, rfl, isText⟩ | ⟨isMark, back⟩ | ⟨el, member, named, rfl⟩
    · have same : balance (scan (body ++ render more)).events = balance (scan (render more)).events := by
        have marks := congrArg Reading.events (withoutText_scan_append isText (render more))
        rw [← balance_withoutText, ← balance_withoutText (scan (render more)).events]
        exact congrArg balance marks
      rw [show (Event.text body).render = body from rfl, same, show (Event.text body).weight = 0 from rfl,
        Int.zero_add]
      exact ⟨most, fun equal => ⟨Bool.noConfusion, exact_ equal⟩⟩
    · rw [back (render more), Reading.cons, balance_cons]
      exact ⟨Int.add_le_add_left most _, fun equal => ⟨fun _ => back, exact_ (Int.add_left_cancel equal)⟩⟩
    · rw [Element.scan_begins named (ends el member), Reading.cons, balance_cons]
      by_cases keeps : el.KeepsForm
      · rw [(Element.ofTag_inside_iff named).mpr keeps]
        refine ⟨Int.add_le_add_left most _, fun equal => ⟨fun _ => ?_, exact_ (Int.add_left_cancel equal)⟩⟩
        exact (Element.readsBack_begins_iff named).mpr ⟨ends el member, keeps⟩
      · have less := Element.weight_ofTag_lt named keeps
        exact ⟨by omega, fun equal => by omega⟩

/-- A document whose tags all end where they are written to end is read back if it is read without a fault
    and all elements are closed. -/
theorem readsAs_of_ends {f g : Forest} (known : ∀ e ∈ f.events, e.IsRead)
    (ends : ∀ el ∈ f.written true, el.Ends)
    (reads : read (render (f.rewritten true).events) = ⟨g.events, none⟩) :
    ReadsAs (render (f.rewritten true).events) (f.rewritten true) := by
  have written := Forest.isWritten_of_mem known true
  have scanned : (scan (Text.stripMark (render (f.rewritten true).events))).events = g.events := by
    have none_ : (read (render (f.rewritten true).events)).fault = none := by rw [reads]
    rw [← (events_nest none_).2]
    exact congrArg Reading.events reads
  have marks : withoutText g.events = withoutText (scan (render (f.rewritten true).events)).events := by
    rw [← scanned]
    exact congrArg Reading.events (withoutText_scan_stripMark (render (f.rewritten true).events))
  have equal : balance (scan (render (f.rewritten true).events)).events = balance (f.rewritten true).events := by
    rw [Forest.balance_events, ← balance_withoutText, ← marks, balance_withoutText, Forest.balance_events]
  rw [readsAs_iff known, ← Forest.readsBack_iff known]
  exact (balance_scan ends written).2 equal

end DiagramStudio.Markup
