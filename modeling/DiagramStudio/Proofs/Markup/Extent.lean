import DiagramStudio.Markup.Extent
import DiagramStudio.Proofs.Markup.Harmless

/-!
The size of a drawing before and after it is cleaned. A text is measured by its first element, whatever that is; what is
cleaned begins with the root that stayed. The two are the same element unless a script stands in front of the root
(`extent_of_clean`).
-/

namespace DiagramStudio.Markup

/-! ## What is measured -/

/-- The size that an element with the tag gives. -/
def Tag.extent (tag : Tag) : Except Fault Size :=
  match tag.attributes with
  | .ok attributes =>
    match sizeOf? attributes with
    | some size => .ok size
    | none => .error .noSize
  | .error fault => .error (.attributes fault)

/-- Both texts give the same size, or neither gives one. -/
def SameExtent (s t : List Char) : Prop :=
  (extent s).toOption = (extent t).toOption

theorem extent_of_first {s : List Char} {tag : Tag} (first : (read s).events.findSome? Event.tag? = some tag) :
    extent s = tag.extent := by
  simp only [extent, first]
  rfl

namespace Attribute

variable {key : String}

/-- An attribute that is neither taken away nor put in has the value that it had. -/
theorem valueOf?_safeAtRoot (other : key.toList ≠ namespaceKey)
    (stays : ∀ a : Attribute, a.key = key.toList → a.isSafe = true) (attributes : List Attribute) :
    valueOf? (safeAtRoot attributes) key = valueOf? attributes key := by
  have called : (fun a : Attribute => decide (a.isSafe = true ∧ (a.key == key.toList) = true)) =
      fun a => a.key == key.toList := by
    funext a
    cases called : a.key == key.toList with
    | false => simp
    | true => simp [stays a (eq_of_beq called)]
  have keyed : (fun a : Attribute => a.key == key.toList) ∘ renamed = fun a => a.key == key.toList := by
    funext a
    rw [Function.comp_apply, renamed_key]
  have kept : valueOf? ((safe attributes).map renamed) key = valueOf? attributes key := by
    rw [valueOf?, List.find?_map, keyed, safe, List.find?_filter, called, Option.map_map, valueOf?]
    refine Option.map_congr fun a found => ?_
    have same : a.key = key.toList := by simpa using List.find?_some found
    rw [Function.comp_apply, renamed, isNamespace, same, if_neg (by simpa using other)]
  rw [safeAtRoot_eq]
  split
  · exact kept
  · have namespace_ : (svgNamespaceAttribute.key == key.toList) = false := beq_false_of_ne (Ne.symm other)
    rw [valueOf?, List.find?_cons, namespace_, ← valueOf?, kept]

/-- The size is given by attributes that are written as they were. -/
theorem sizeOf?_safeAtRoot (attributes : List Attribute) : sizeOf? (safeAtRoot attributes) = sizeOf? attributes := by
  have kept : ∀ key ∈ ["viewBox", "width", "height"],
      valueOf? (safeAtRoot attributes) key = valueOf? attributes key := by
    have plain : ∀ key ∈ ["viewBox", "width", "height"], key.toList ≠ namespaceKey ∧
        Text.startsFolded "on".toList (localName key.toList) = false ∧
        Text.sameFolded (localName key.toList) "href".toList = false := by decide
    intro key member
    obtain ⟨other, noHandler, noLink⟩ := plain key member
    exact valueOf?_safeAtRoot other (fun a same => isSafe_of_key same noHandler noLink) attributes
  rw [sizeOf?, kept "viewBox" (by simp), kept "width" (by simp), kept "height" (by simp), sizeOf?]

end Attribute

/-! ## The first element -/

theorem Event.tag?_of_isLeaf {e : Event} (isLeaf : e.isLeaf = true) : e.tag? = none := by
  cases e <;> first | rfl | cases isLeaf

theorem Element.tag?_begins (el : Element) : el.begins.tag? = some el.tag := by
  unfold begins
  split <;> rfl

/-- An element with the tag begins in the row of events, and no element begins or ends in front of it. -/
inductive BeginsWith (tag : Tag) : List Event → Prop
  | here {e : Event} {more : List Event} (begins : e.tag? = some tag) : BeginsWith tag (e :: more)
  | behind {e : Event} {more : List Event} (isLeaf : e.isLeaf = true) (later : BeginsWith tag more) :
      BeginsWith tag (e :: more)

namespace BeginsWith

variable {tag : Tag} {events : List Event}

theorem findSome? (begins : BeginsWith tag events) : events.findSome? Event.tag? = some tag := by
  induction begins with
  | here begins => rw [List.findSome?_cons, begins]
  | behind isLeaf _ ih => rw [List.findSome?_cons, Event.tag?_of_isLeaf isLeaf, ih]

/-- What stands in front of the element is kept when tags are matched. -/
theorem nest (begins : BeginsWith tag events) (fault : Option ReadFault) (open_ : List (List Char)) :
    BeginsWith tag (nest fault open_ events).events := by
  induction begins generalizing open_ with
  | @here e more begins =>
    cases e with
    | opening tag' => exact .here begins
    | standalone tag' => exact .here begins
    | _ => cases begins
  | behind isLeaf _ ih =>
    rw [nest_leaf isLeaf]
    exact .behind isLeaf (ih open_)

theorem of_withoutText (begins : BeginsWith tag (withoutText events)) : BeginsWith tag events := by
  induction events with
  | nil => cases begins
  | cons e more ih =>
    cases e with
    | text body => exact .behind rfl (ih begins)
    | _ =>
      cases begins with
      | here begins => exact .here begins
      | behind isLeaf later => exact .behind isLeaf (ih later)

end BeginsWith

/-- A text is measured by its first element, however its text is divided. -/
theorem extent_of_scan {s : List Char} {tag : Tag} (begins : BeginsWith tag (scan s).withoutText.events) :
    extent s = tag.extent := by
  rw [← withoutText_scan_stripMark] at begins
  exact extent_of_first (begins.of_withoutText.nest _ _).findSome?

/-! ## The root that is written -/

namespace Forest

theorem findSome?_tag? (f : Forest) : f.events.findSome? Event.tag? = f.topTags.head? := by
  cases f with
  | empty => rfl
  | element tag content rest => rfl
  | standalone tag rest => rfl
  | leaf e isLeaf rest =>
    rw [events, List.findSome?_cons, Event.tag?_of_isLeaf isLeaf, topTags]
    exact findSome?_tag? rest

theorem topTags_withoutScripts (f : Forest) : f.withoutScripts.topTags = f.topTags.filter (!·.isScript) := by
  induction f with
  | empty => rfl
  | element tag content rest _ ihRest =>
    rw [withoutScripts, topTags]
    split
    · next isScript => rw [ihRest, List.filter_cons_of_neg (by simp [isScript])]
    · next stays => rw [topTags, ihRest, List.filter_cons_of_pos (by simp [stays])]
  | standalone tag rest ih =>
    rw [withoutScripts, topTags]
    split
    · next isScript => rw [ih, List.filter_cons_of_neg (by simp [isScript])]
    · next stays => rw [topTags, ih, List.filter_cons_of_pos (by simp [stays])]
  | leaf e isLeaf rest ih => exact ih

theorem exists_head?_written {f : Forest} {root : Tag} (top : f.topTags.head? = some root) (isRoot : Bool) :
    ∃ hasContent, (f.written isRoot).head? = some ⟨root.name, root.writtenAttributes isRoot, hasContent⟩ := by
  induction f with
  | empty => cases top
  | element tag content rest =>
    cases top
    exact ⟨true, rfl⟩
  | standalone tag rest =>
    cases top
    exact ⟨false, rfl⟩
  | leaf e isLeaf rest ih => exact ih top

/-- What is written begins with its first element if the tag of that ends where it is written to end. -/
theorem beginsWith_scan {f : Forest} (known : ∀ e ∈ f.events, e.IsRead) {isRoot : Bool} {el : Element}
    (first : (f.written isRoot).head? = some el) (ends : el.Ends) (keeps : el.KeepsForm) :
    BeginsWith el.tag (scan (render (f.rewritten isRoot).events)).withoutText.events := by
  have opening {el : Element} (named : IsTagName el.name) (ends : el.Ends) (keeps : el.KeepsForm) (more : List Event) :
      BeginsWith el.tag (scan (render (el.begins :: more))).withoutText.events := by
    have back := (Element.readsBack_begins_iff named).mpr ⟨ends, keeps⟩
    rw [render_cons, back.withoutText_scan el.isText_begins]
    exact .here el.tag?_begins
  induction f with
  | empty => cases first
  | element tag content rest =>
    have named : IsTagName tag.name := known _ (.head _)
    cases first
    exact opening named ends keeps _
  | standalone tag rest =>
    have named : IsTagName tag.name := known _ (.head _)
    cases first
    exact opening named ends keeps _
  | leaf e isLeaf rest ih =>
    obtain ⟨own, behind⟩ := List.forall_mem_cons.mp known
    have ih := ih behind first
    rw [rewritten]
    split
    · exact ih
    · next stays =>
      rw [events, render_cons]
      rcases isWritten_of_leaf isLeaf (Bool.eq_false_iff.mpr stays) own [] with ⟨body, rfl, text⟩ | ⟨isMark, back⟩ | none_
      · rwa [show (Event.text body).render = body from rfl, withoutText_scan_append text]
      · rw [back.withoutText_scan isMark]
        exact .behind isLeaf ih
      · obtain ⟨_, none_, _⟩ := none_
        cases none_

/-- Of the elements that are in no other, `first` comes first and `root` is the only one that is no script; it is
    written as `el`. -/
structure IsRooted (f : Forest) (first root : Tag) (el : Element) : Prop where
  comesFirst : f.topTags.head? = some first
  stays : f.topTags.filter (!·.isScript) = [root]
  written : (f.withoutScripts.written true).head? = some el
  name : el.name = root.name
  attributes : el.attributes = root.writtenAttributes true

theorem exists_isRooted {f : Forest} {root : Tag} (top : f.withoutScripts.topTags = [root]) :
    ∃ first el, f.IsRooted first root el := by
  obtain ⟨hasContent, written⟩ := exists_head?_written (congrArg List.head? top) true
  rw [topTags_withoutScripts] at top
  cases tags : f.topTags with
  | nil =>
    rw [tags] at top
    cases top
  | cons first more => exact ⟨first, _, by rw [tags]; rfl, top, written, rfl, rfl⟩

theorem IsRooted.first_eq {f : Forest} {first root : Tag} {el : Element} (rooted : f.IsRooted first root el)
    (stays : first.isScript = false) : first = root := by
  obtain ⟨more, tags⟩ := List.head?_eq_some_iff.mp rooted.comesFirst
  have root_ := rooted.stays
  rw [tags, List.filter_cons_of_pos (by simp [stays])] at root_
  exact (List.cons.inj root_).1

end Forest

theorem Tag.writtenAttributes_of_ok {root : Tag} {given : List Attribute} (read_ : root.attributes = .ok given) :
    root.writtenAttributes true = Attribute.safeAtRoot given := by
  rw [writtenAttributes, read_]
  rfl

/-- The root always has the attribute that gives its namespace, so its name stands nowhere alone. -/
theorem Element.keepsForm_of_root {el : Element} {root : Tag} (has : root.HasAttributes)
    (attributes : el.attributes = root.writtenAttributes true) : el.KeepsForm := by
  obtain ⟨given, read_⟩ := has
  have member := Attribute.svgNamespaceAttribute_mem given
  intro none_
  rw [← Tag.writtenAttributes_of_ok read_, ← attributes, none_] at member
  cases member

/-- A root whose values can be read back gives the size that it gave. -/
theorem Element.extent_of_root {el : Element} {root : Tag} (has : root.HasAttributes)
    (attributes : el.attributes = root.writtenAttributes true) (keeps : el.KeepsAttributes) :
    el.tag.extent = root.extent := by
  obtain ⟨given, read_⟩ := has
  rw [Tag.extent, keeps, attributes, Tag.writtenAttributes_of_ok read_, Tag.extent, read_]
  simp only [Attribute.sizeOf?_safeAtRoot]

/-- What is measured of a drawing and of the cleaned drawing. Of the drawing it is the first element, and of the cleaned
    one, if the tag of its root ends where it is written to end, what is read of that tag. Where moreover no value of the
    root has a double quote in it, that gives the size that the root gave, so that the two are measured alike unless a
    script stands in front of the root. -/
theorem extent_of_clean {s out : List Char} (cleaned : clean s = .ok out) :
    ∃ (f : Forest) (first root : Tag) (el : Element), f.events = (read s).events ∧ f.IsRooted first root el ∧
      extent s = first.extent ∧
      (el.Ends → extent out = el.tag.extent ∧
        (SameExtent s out ↔ first.extent.toOption = el.tag.extent.toOption) ∧
        ((∀ a ∈ el.attributes, '"' ∉ a.value) →
          extent out = root.extent ∧ (first.isScript = false → extent out = extent s))) := by
  obtain ⟨none_, f, same, ⟨root, top, _⟩, attributes, _, rfl⟩ := (clean_eq_ok_iff s out).mp cleaned
  obtain ⟨first, el, rooted⟩ := Forest.exists_isRooted top
  have has : root.HasAttributes := attributes root (Forest.mem_tags_of_mem_topTags (top ▸ List.mem_singleton_self _))
  have given : extent s = first.extent := by
    refine extent_of_first ?_
    rw [← same, Forest.findSome?_tag?, rooted.comesFirst]
  refine ⟨f, first, root, el, same, rooted, given, fun ends => ?_⟩
  have known (e : Event) (member : e ∈ f.withoutScripts.events) : e.IsRead :=
    isRead_of_mem_read none_ (same ▸ Forest.mem_events_of_withoutScripts member)
  have cleaned_ : extent (render (f.withoutScripts.rewritten true).events) = el.tag.extent :=
    extent_of_scan (Forest.beginsWith_scan known rooted.written ends (Element.keepsForm_of_root has rooted.attributes))
  refine ⟨cleaned_, by rw [SameExtent, given, cleaned_], fun values => ?_⟩
  have keeps := (Element.keepsAttributes_iff_of_mem (List.mem_of_mem_head? rooted.written)).mpr values
  have root_ := cleaned_.trans (Element.extent_of_root has rooted.attributes keeps)
  refine ⟨root_, fun stays => ?_⟩
  rw [root_, given, rooted.first_eq stays]

/-- A drawing behind a comment, with a handler that goes. -/
theorem extent_of_clean_comment :
    ∃ out, clean "<!--1--><svg onload='x' viewBox='0 0 4 3'/>".toList = .ok out ∧
      extent out = extent "<!--1--><svg onload='x' viewBox='0 0 4 3'/>".toList := by
  have cleaned : clean "<!--1--><svg onload='x' viewBox='0 0 4 3'/>".toList =
      .ok "<!--1--><svg xmlns=\"http://www.w3.org/2000/svg\" viewBox=\"0 0 4 3\"/>".toList :=
    eq_ok_of_toOption (by decide +kernel)
  obtain ⟨f, first, root, el, same, rooted, _, measured⟩ := extent_of_clean cleaned
  have events : (read "<!--1--><svg onload='x' viewBox='0 0 4 3'/>".toList).events =
      (Forest.leaf (.comment ['1']) rfl
        (.standalone ⟨"svg".toList, " onload='x' viewBox='0 0 4 3'".toList⟩ .empty)).events := by decide +kernel
  obtain rfl := events_injective (same.trans events)
  have attributes : (Tag.mk "svg".toList " onload='x' viewBox='0 0 4 3'".toList).writtenAttributes true =
      [svgNamespaceAttribute, ⟨"viewBox".toList, "0 0 4 3".toList⟩] := by decide +kernel
  obtain rfl : Tag.mk "svg".toList " onload='x' viewBox='0 0 4 3'".toList = first := Option.some.inj rooted.comesFirst
  obtain rfl : ⟨"svg".toList, [svgNamespaceAttribute, ⟨"viewBox".toList, "0 0 4 3".toList⟩], false⟩ = el := by
    rw [← attributes]
    exact Option.some.inj rooted.written
  have ends : quoteBehind? none (Element.mk "svg".toList
      [svgNamespaceAttribute, ⟨"viewBox".toList, "0 0 4 3".toList⟩] false).inside = some none := by decide +kernel
  obtain ⟨_, _, alike⟩ := measured ends
  exact ⟨_, cleaned, (alike (by decide +kernel)).2 (by decide +kernel)⟩

/-- A script in front of the root is measured in its place; and a double quote in a value ends the value when it is read
    again, so that the width is there twice. -/
theorem not_sameExtent_of_script :
    (∃ out, clean "<script width=\"5\" height=\"5\"/><svg width=\"10\" height=\"10\"/>".toList = .ok out ∧
      ¬SameExtent "<script width=\"5\" height=\"5\"/><svg width=\"10\" height=\"10\"/>".toList out) ∧
    ∃ out, clean "<svg width=\"10\" height=\"10\" a='\" width=\"5'/>".toList = .ok out ∧
      ¬SameExtent "<svg width=\"10\" height=\"10\" a='\" width=\"5'/>".toList out := by
  refine ⟨⟨"<svg xmlns=\"http://www.w3.org/2000/svg\" width=\"10\" height=\"10\"/>".toList,
    eq_ok_of_toOption (by decide +kernel), fun same => ?_⟩,
    ⟨"<svg xmlns=\"http://www.w3.org/2000/svg\" width=\"10\" height=\"10\" a=\"\" width=\"5\"/>".toList,
    eq_ok_of_toOption (by decide +kernel), fun same => ?_⟩⟩
  · exact absurd (congrArg (Option.map fun size => size.width.toBits) same) (by decide +kernel)
  · exact absurd (congrArg Option.isSome same) (by decide +kernel)

end DiagramStudio.Markup
