import DiagramStudio.Proofs.Markup.Reread

/-!
When a cleaned document can do no harm. If it is read back as it was written, it can do none just where
what was written can (`isHarmless_iff_of_readsAs`), which is one drawing in the namespace of drawings,
without scripts, handlers, document types and instructions. It is not read back where an attribute has a
double quote in its value, since values are written between double quotes as they are, and what follows
the quote may then be read as a handler.
-/

namespace DiagramStudio.Markup

/-! ## What no harm is -/

namespace Tag

/-- The attributes can be read, and none of them runs a program when something happens. -/
def IsInert (tag : Tag) : Prop :=
  ∃ attributes, tag.attributes = .ok attributes ∧ ∀ a ∈ attributes, a.isHandler = false

/-- The attributes can be read, and one of them gives the namespace, which is that of drawings. -/
def IsNamespaced (tag : Tag) : Prop :=
  ∃ attributes, tag.attributes = .ok attributes ∧
    attributes.filter Attribute.isNamespace = [svgNamespaceAttribute]

end Tag

/-- A forest that can do no harm: one drawing in its namespace, and no script, handler, document type or
    instruction at any depth. -/
structure Forest.IsHarmless (f : Forest) : Prop where
  drawing : ∃ root, f.topTags = [root] ∧ root.isDrawing = true ∧ root.IsNamespaced
  scripts : ∀ tag ∈ f.tags, tag.isScript = false
  handlers : ∀ tag ∈ f.tags, tag.IsInert
  marks : ∀ e ∈ f.events, e.isDropped = false

/-- The text is read without a fault as a forest that can do no harm. -/
def IsHarmless (out : List Char) : Prop :=
  ∃ f : Forest, read out = ⟨f.events, none⟩ ∧ f.IsHarmless

/-! ## What is written for an element -/

namespace Attribute

theorem isSafe_svgNamespaceAttribute : svgNamespaceAttribute.isSafe = true := by decide

theorem isSafe_of_mem_safeAtRoot {attributes : List Attribute} {a : Attribute}
    (member : a ∈ safeAtRoot attributes) : a.isSafe = true := by
  have kept {a : Attribute} (member : a ∈ (safe attributes).map renamed) : a.isSafe = true := by
    obtain ⟨b, stays, rfl⟩ := List.mem_map.mp member
    unfold renamed
    split
    · exact isSafe_svgNamespaceAttribute
    · exact (List.mem_filter.mp stays).2
  rw [safeAtRoot_eq] at member
  split at member
  · exact kept member
  · rcases List.mem_cons.mp member with rfl | member
    · exact isSafe_svgNamespaceAttribute
    · exact kept member

/-- Whether an attribute may stay is seen from its key, unless it is a link. -/
theorem isSafe_of_key {a : Attribute} {key : List Char} (same : a.key = key)
    (noHandler : Text.startsFolded "on".toList (localName key) = false)
    (noLink : Text.sameFolded (localName key) "href".toList = false) : a.isSafe = true := by
  simp only [isSafe, isHandler, isScriptLink, isCalled, same, noHandler, noLink, Bool.false_and, Bool.not_false,
    Bool.and_true]

/-- The attribute that gives the namespace stays. -/
theorem isSafe_of_isNamespace {a : Attribute} (isNamespace : a.isNamespace = true) : a.isSafe = true :=
  isSafe_of_key (eq_of_beq isNamespace) (by decide) (by decide)

theorem svgNamespaceAttribute_mem (attributes : List Attribute) : svgNamespaceAttribute ∈ safeAtRoot attributes := by
  rw [safeAtRoot_eq]
  split
  · next some_ =>
    obtain ⟨a, member, isNamespace⟩ := List.any_eq_true.mp some_
    refine List.mem_map.mpr ⟨a, List.mem_filter.mpr ⟨member, isSafe_of_isNamespace isNamespace⟩, ?_⟩
    rw [renamed, if_pos isNamespace]
  · exact List.mem_cons_self

theorem eq_of_mem_safeAtRoot {attributes : List Attribute} {a : Attribute} (member : a ∈ safeAtRoot attributes)
    (isNamespace : a.isNamespace = true) : a = svgNamespaceAttribute := by
  have kept (member : a ∈ (safe attributes).map renamed) : a = svgNamespaceAttribute := by
    obtain ⟨b, _, rfl⟩ := List.mem_map.mp member
    unfold renamed at isNamespace ⊢
    split
    · rfl
    · next other =>
      rw [if_neg other] at isNamespace
      exact absurd isNamespace other
  rw [safeAtRoot_eq] at member
  split at member
  · exact kept member
  · rcases List.mem_cons.mp member with same | member
    · exact same
    · exact kept member

/-- The root has one attribute that gives its namespace, and it is that of drawings. -/
theorem filter_isNamespace_safeAtRoot {attributes : List Attribute} (valid : WellKeyed [] attributes) :
    (safeAtRoot attributes).filter isNamespace = [svgNamespaceAttribute] := by
  have once : (((safeAtRoot attributes).filter isNamespace).map (·.key)).Nodup :=
    valid.safeAtRoot.once.sublist (List.filter_sublist.map _)
  have same (a : Attribute) (member : a ∈ (safeAtRoot attributes).filter isNamespace) : a = svgNamespaceAttribute :=
    eq_of_mem_safeAtRoot (List.mem_filter.mp member).1 (List.mem_filter.mp member).2
  have member : svgNamespaceAttribute ∈ (safeAtRoot attributes).filter isNamespace :=
    List.mem_filter.mpr ⟨svgNamespaceAttribute_mem attributes, beq_self_eq_true _⟩
  match found : (safeAtRoot attributes).filter isNamespace with
  | [] => rw [found] at member; cases member
  | [a] => rw [same a (found ▸ List.mem_cons_self)]
  | a :: b :: more =>
    rw [found] at once same
    have first := same a List.mem_cons_self
    have second := same b (List.mem_cons_of_mem a List.mem_cons_self)
    rw [first, second] at once
    simp at once

end Attribute

namespace Tag

theorem wellKeyed_writtenAttributes (isRoot : Bool) (tag : Tag) :
    Attribute.WellKeyed [] (tag.writtenAttributes isRoot) := by
  unfold writtenAttributes
  split
  · next attributes read =>
    have valid : Attribute.WellKeyed [] attributes := Attribute.wellKeyed_of_readFrom read
    split
    · exact valid.safeAtRoot
    · exact valid.safe
  · exact Attribute.wellKeyed_nil []

/-- Nothing is written that may not stay. -/
theorem isSafe_of_mem_writtenAttributes {isRoot : Bool} {tag : Tag} {a : Attribute}
    (member : a ∈ tag.writtenAttributes isRoot) : a.isSafe = true := by
  unfold writtenAttributes at member
  split at member
  · split at member
    · exact Attribute.isSafe_of_mem_safeAtRoot member
    · exact (List.mem_filter.mp member).2
  · cases member

theorem isHandler_of_mem_writtenAttributes {isRoot : Bool} {tag : Tag} {a : Attribute}
    (member : a ∈ tag.writtenAttributes isRoot) : a.isHandler = false := by
  have stays := isSafe_of_mem_writtenAttributes member
  simp only [Attribute.isSafe, Bool.and_eq_true, Bool.not_eq_true'] at stays
  exact stays.1

theorem filter_isNamespace_writtenAttributes {tag : Tag} (has : tag.HasAttributes) :
    (tag.writtenAttributes true).filter Attribute.isNamespace = [svgNamespaceAttribute] := by
  obtain ⟨attributes, read⟩ := has
  rw [writtenAttributes, read]
  exact Attribute.filter_isNamespace_safeAtRoot (Attribute.wellKeyed_of_readFrom read)

end Tag

/-! ## Scripts, dropped marks and the root of a cleaned document -/

namespace Forest

/-- Every written element has the name and the attributes that are written for a tag of the forest. -/
theorem exists_of_mem_written {f : Forest} {isRoot : Bool} {el : Element} (member : el ∈ f.written isRoot) :
    ∃ tag ∈ f.tags, ∃ isRoot, el.name = tag.name ∧ el.attributes = tag.writtenAttributes isRoot := by
  induction f generalizing isRoot with
  | empty => cases member
  | element tag content rest ihContent ihRest =>
    simp only [written, List.mem_cons, List.mem_append] at member
    simp only [tags, List.mem_cons, List.mem_append]
    rcases member with rfl | member | member
    · exact ⟨tag, .inl rfl, isRoot, rfl, rfl⟩
    · obtain ⟨tag', inside, same⟩ := ihContent member
      exact ⟨tag', .inr (.inl inside), same⟩
    · obtain ⟨tag', behind, same⟩ := ihRest member
      exact ⟨tag', .inr (.inr behind), same⟩
  | standalone tag rest ih =>
    rcases List.mem_cons.mp member with rfl | member
    · exact ⟨tag, List.mem_cons_self, isRoot, rfl, rfl⟩
    · obtain ⟨tag', behind, same⟩ := ih member
      exact ⟨tag', List.mem_cons_of_mem tag behind, same⟩
  | leaf e isLeaf rest ih => exact ih member

theorem isScript_of_mem_withoutScripts {f : Forest} {tag : Tag} (member : tag ∈ f.withoutScripts.tags) :
    tag.isScript = false := by
  induction f with
  | empty => cases member
  | element tag' content rest ihContent ihRest =>
    rw [withoutScripts] at member
    split at member
    · exact ihRest member
    · next stays =>
      simp only [tags, List.mem_cons, List.mem_append] at member
      rcases member with rfl | member | member
      · exact Bool.eq_false_iff.mpr stays
      · exact ihContent member
      · exact ihRest member
  | standalone tag' rest ih =>
    rw [withoutScripts] at member
    split at member
    · exact ih member
    · next stays =>
      rcases List.mem_cons.mp member with rfl | member
      · exact Bool.eq_false_iff.mpr stays
      · exact ih member
  | leaf e isLeaf rest ih => exact ih member

theorem isDropped_of_mem_rewritten {f : Forest} {isRoot : Bool} {e : Event}
    (member : e ∈ (f.rewritten isRoot).events) : e.isDropped = false := by
  induction f generalizing isRoot with
  | empty => cases member
  | element tag content rest ihContent ihRest =>
    simp only [rewritten, events, List.mem_cons, List.mem_append] at member
    rcases member with rfl | member | rfl | member
    · rfl
    · exact ihContent member
    · rfl
    · exact ihRest member
  | standalone tag rest ih =>
    rcases List.mem_cons.mp member with rfl | member
    · rfl
    · exact ih member
  | leaf first isLeaf rest ih =>
    rw [rewritten] at member
    split at member
    · exact ih member
    · next stays =>
      rcases List.mem_cons.mp member with rfl | member
      · exact Bool.eq_false_iff.mpr stays
      · exact ih member

theorem topTags_rewritten (f : Forest) (isRoot : Bool) :
    (f.rewritten isRoot).topTags = f.topTags.map (Tag.rewritten isRoot) := by
  induction f with
  | empty => rfl
  | element tag content rest _ ihRest => rw [rewritten, topTags, topTags, List.map_cons, ihRest]
  | standalone tag rest ih => rw [rewritten, topTags, topTags, List.map_cons, ih]
  | leaf e isLeaf rest ih =>
    rw [rewritten, topTags, ← ih]
    split <;> rfl

/-- The elements that are in no other are written with the attributes of a root. -/
theorem exists_written_of_mem_topTags {f : Forest} {isRoot : Bool} {tag : Tag} (member : tag ∈ f.topTags) :
    ∃ el ∈ f.written isRoot, el.name = tag.name ∧ el.attributes = tag.writtenAttributes isRoot := by
  induction f with
  | empty => cases member
  | element tag' content rest _ ihRest =>
    rcases List.mem_cons.mp member with rfl | member
    · exact ⟨_, List.mem_cons_self, rfl, rfl⟩
    · obtain ⟨el, behind, same⟩ := ihRest member
      exact ⟨el, List.mem_cons_of_mem _ (List.mem_append_right _ behind), same⟩
  | standalone tag' rest ih =>
    rcases List.mem_cons.mp member with rfl | member
    · exact ⟨_, List.mem_cons_self, rfl, rfl⟩
    · obtain ⟨el, behind, same⟩ := ih member
      exact ⟨el, List.mem_cons_of_mem _ behind, same⟩
  | leaf e isLeaf rest ih => exact ih member

end Forest

/-! ## Documents that can do no harm -/

theorem mem_withoutText_of_isDropped {e : Event} {events : List Event} (dropped : e.isDropped = true)
    (member : e ∈ events) : e ∈ withoutText events := by
  refine List.mem_filter.mpr ⟨member, ?_⟩
  cases e <;> first | rfl | cases dropped

theorem Forest.IsHarmless.congr {f g : Forest} (harmless : f.IsHarmless)
    (same : Markup.withoutText g.events = Markup.withoutText f.events) : g.IsHarmless := by
  obtain ⟨tags, topTags⟩ := Forest.tags_eq_of_withoutText same
  refine ⟨topTags ▸ harmless.drawing, tags ▸ harmless.scripts, tags ▸ harmless.handlers, ?_⟩
  intro e member
  by_cases dropped : e.isDropped
  · have mark := mem_withoutText_of_isDropped dropped member
    rw [same] at mark
    exact harmless.marks e (List.mem_filter.mp mark).1
  · exact Bool.eq_false_iff.mpr dropped

/-- A document that is read back can do harm if what was written can. -/
theorem isHarmless_iff_of_readsAs {out : List Char} {f : Forest} (reads : ReadsAs out f) :
    IsHarmless out ↔ f.IsHarmless := by
  obtain ⟨g, read_, same⟩ := reads.exists_forest
  constructor
  · rintro ⟨h, read', harmless⟩
    obtain rfl : g = h := events_injective (congrArg Reading.events (read_.symm.trans read'))
    exact harmless.congr same.symm
  · exact fun harmless => ⟨g, read_, harmless.congr same⟩

/-- What was written can do no harm if its attributes can do none when they are read. -/
theorem Forest.isHarmless_rewritten_iff {f : Forest} {written : List Event} (cleans : f.CleansTo written) :
    (f.withoutScripts.rewritten true).IsHarmless ↔
      (∀ el ∈ f.withoutScripts.written true, el.tag.IsInert) ∧
        ∀ root ∈ (f.withoutScripts.rewritten true).topTags, root.IsNamespaced := by
  obtain ⟨⟨root, top, isDrawing⟩, sound, _⟩ := cleans
  have top' : (f.withoutScripts.rewritten true).topTags = [root.rewritten true] := by
    rw [topTags_rewritten, top]
    rfl
  constructor
  · rintro ⟨⟨root', top'', _, namespaced⟩, _, handlers, _⟩
    rw [tags_rewritten, List.forall_mem_map] at handlers
    refine ⟨handlers, fun tag member => ?_⟩
    rw [top''] at member
    rw [List.mem_singleton.mp member]
    exact namespaced
  · rintro ⟨handlers, namespaced⟩
    refine ⟨⟨root.rewritten true, top', isDrawing, ?_⟩, ?_, ?_, fun e => isDropped_of_mem_rewritten⟩
    · exact namespaced _ (top' ▸ List.mem_singleton_self _)
    · intro tag member
      rw [tags_rewritten] at member
      obtain ⟨el, among, rfl⟩ := List.mem_map.mp member
      obtain ⟨tag, kept, _, name, _⟩ := exists_of_mem_written among
      have stays := isScript_of_mem_withoutScripts kept
      unfold Tag.isScript Tag.isCalled at stays ⊢
      rw [← name] at stays
      exact stays
    · rw [tags_rewritten, List.forall_mem_map]
      exact handlers

/-- Attributes that are read back can do no harm. -/
theorem Element.isInert_of_keepsAttributes {f : Forest} {isRoot : Bool} {el : Element}
    (member : el ∈ f.written isRoot) (keeps : el.KeepsAttributes) : el.tag.IsInert := by
  obtain ⟨tag, _, isRoot', _, attributes⟩ := Forest.exists_of_mem_written member
  refine ⟨el.attributes, keeps, fun a member => ?_⟩
  rw [attributes] at member
  exact Tag.isHandler_of_mem_writtenAttributes member

/-- The attributes of an element are read back just where no value has a double quote in it. -/
theorem Element.keepsAttributes_iff_of_mem {f : Forest} {isRoot : Bool} {el : Element}
    (member : el ∈ f.written isRoot) : el.KeepsAttributes ↔ ∀ a ∈ el.attributes, '"' ∉ a.value := by
  obtain ⟨tag, _, isRoot', _, attributes⟩ := Forest.exists_of_mem_written member
  refine Element.keepsAttributes_iff ?_
  rw [attributes]
  exact Tag.wellKeyed_writtenAttributes isRoot' tag

theorem isNamespaced_of_keepsAttributes {f : Forest} (sound : f.Sound)
    (keep : ∀ el ∈ f.written true, el.KeepsAttributes) (root : Tag)
    (member : root ∈ (f.rewritten true).topTags) : root.IsNamespaced := by
  rw [Forest.topTags_rewritten] at member
  obtain ⟨tag, top, rfl⟩ := List.mem_map.mp member
  obtain ⟨el, among, name, attributes⟩ := @Forest.exists_written_of_mem_topTags f true tag top
  have same : el.tag = tag.rewritten true := by rw [Element.tag, name, attributes]; rfl
  refine ⟨el.attributes, same ▸ keep el among, ?_⟩
  rw [attributes]
  exact Tag.filter_isNamespace_writtenAttributes (sound.attributes tag (Forest.mem_tags_of_mem_topTags top))

/-- The element is read back as it is written: its tag ends where it is written to end, it is opened and
    closed as it was, and no value has a double quote in it. -/
structure Element.IsReadBack (el : Element) : Prop where
  ends : el.Ends
  form : el.KeepsForm
  values : ∀ a ∈ el.attributes, '"' ∉ a.value

theorem eq_ok_of_toOption {α β : Type} {x : Except α β} {b : β} (some_ : x.toOption = some b) : x = .ok b := by
  cases x with
  | error a => cases some_
  | ok c =>
    cases some_
    rfl

/-- What a cleaned document is when it is read again. It is read as it was meant just where each of its
    elements is read back, and then it can do no harm. If only its tags end where they are written to end,
    it can do no harm just where all elements are opened and closed as they were and the attributes that
    are read of them can do none. -/
theorem isHarmless_of_clean {s out : List Char} (cleaned : clean s = .ok out) :
    ∃ f : Forest, f.events = (read s).events ∧
      (ReadsAs out (f.withoutScripts.rewritten true) ∧
          (∀ el ∈ f.withoutScripts.written true, el.KeepsAttributes) ↔
        ∀ el ∈ f.withoutScripts.written true, el.IsReadBack) ∧
      ((∀ el ∈ f.withoutScripts.written true, el.IsReadBack) → IsHarmless out) ∧
      ((∀ el ∈ f.withoutScripts.written true, el.Ends) →
        (IsHarmless out ↔
          (∀ el ∈ f.withoutScripts.written true, el.KeepsForm ∧ el.tag.IsInert) ∧
            ∀ root ∈ (f.withoutScripts.rewritten true).topTags, root.IsNamespaced)) := by
  obtain ⟨written, ran, rfl⟩ := (clean_eq_ok_iff_cleanEvents s out).mp cleaned
  obtain ⟨none_, f, same, cleans⟩ := (cleanEvents_eq_ok_iff s written).mp ran
  have sound := cleans.2.1
  obtain rfl := cleans.2.2
  have known (e : Event) (member : e ∈ f.withoutScripts.events) : e.IsRead :=
    isRead_of_mem_read none_ (same ▸ Forest.mem_events_of_withoutScripts member)
  have readBack_iff :
      ReadsAs (render (f.withoutScripts.rewritten true).events) (f.withoutScripts.rewritten true) ∧
          (∀ el ∈ f.withoutScripts.written true, el.KeepsAttributes) ↔
        ∀ el ∈ f.withoutScripts.written true, el.IsReadBack := by
    rw [readsAs_iff known]
    constructor
    · rintro ⟨tags, attributes⟩ el member
      refine ⟨(tags el member).1, (tags el member).2, ?_⟩
      exact (Element.keepsAttributes_iff_of_mem member).mp (attributes el member)
    · intro back
      refine ⟨fun el member => ⟨(back el member).ends, (back el member).form⟩, fun el member => ?_⟩
      exact (Element.keepsAttributes_iff_of_mem member).mpr (back el member).values
  refine ⟨f, same, readBack_iff, ?_, ?_⟩
  · intro back
    obtain ⟨reads, keep⟩ := readBack_iff.mpr back
    refine (isHarmless_iff_of_readsAs reads).mpr ((Forest.isHarmless_rewritten_iff cleans).mpr ⟨?_, ?_⟩)
    · exact fun el member => Element.isInert_of_keepsAttributes member (keep el member)
    · exact isNamespaced_of_keepsAttributes sound keep
  · intro ends
    constructor
    · intro harmless
      have ⟨g, read_, _⟩ := harmless
      have reads := readsAs_of_ends known ends read_
      have forms := (readsAs_iff known).mp reads
      obtain ⟨handlers, namespaced⟩ :=
        (Forest.isHarmless_rewritten_iff cleans).mp ((isHarmless_iff_of_readsAs reads).mp harmless)
      exact ⟨fun el member => ⟨(forms el member).2, handlers el member⟩, namespaced⟩
    · rintro ⟨inert, namespaced⟩
      have reads := (readsAs_iff known).mpr fun el member => ⟨ends el member, (inert el member).1⟩
      refine (isHarmless_iff_of_readsAs reads).mpr ((Forest.isHarmless_rewritten_iff cleans).mpr ⟨?_, namespaced⟩)
      exact fun el member => (inert el member).2

/-- A handler goes, and what is left can do no harm. -/
theorem isHarmless_of_clean_onload : ∃ out, clean "<svg onload='x'/>".toList = .ok out ∧ IsHarmless out := by
  have cleaned : clean "<svg onload='x'/>".toList = .ok "<svg xmlns=\"http://www.w3.org/2000/svg\"/>".toList :=
    eq_ok_of_toOption (by decide +kernel)
  obtain ⟨f, same, _, harmless, _⟩ := isHarmless_of_clean cleaned
  have events : (read "<svg onload='x'/>".toList).events =
      (Forest.standalone ⟨"svg".toList, " onload='x'".toList⟩ .empty).events := by decide +kernel
  obtain rfl := events_injective (same.trans events)
  refine ⟨_, cleaned, harmless fun el member => ?_⟩
  have attributes : (Tag.mk "svg".toList " onload='x'".toList).writtenAttributes true = [svgNamespaceAttribute] := by
    decide +kernel
  have only : el = ⟨"svg".toList, [svgNamespaceAttribute], false⟩ := by
    rw [← attributes]
    exact List.mem_singleton.mp member
  subst only
  have ends : quoteBehind? none (Element.mk "svg".toList [svgNamespaceAttribute] false).inside = some none := by
    decide +kernel
  exact ⟨ends, nofun, by decide +kernel⟩

/-- A double quote in a value ends the value when it is read again, and what follows it is a handler. -/
theorem not_isHarmless_of_quote :
    clean "<svg a='\" onload=\"x'/>".toList =
        .ok "<svg xmlns=\"http://www.w3.org/2000/svg\" a=\"\" onload=\"x\"/>".toList ∧
      ¬IsHarmless "<svg xmlns=\"http://www.w3.org/2000/svg\" a=\"\" onload=\"x\"/>".toList := by
  refine ⟨eq_ok_of_toOption (by decide +kernel), ?_⟩
  rintro ⟨f, read_, harmless⟩
  have events : (read "<svg xmlns=\"http://www.w3.org/2000/svg\" a=\"\" onload=\"x\"/>".toList).events =
      (Forest.standalone
        ⟨"svg".toList, " xmlns=\"http://www.w3.org/2000/svg\" a=\"\" onload=\"x\"".toList⟩ .empty).events := by
    decide +kernel
  obtain rfl := events_injective ((congrArg Reading.events read_).symm.trans events)
  obtain ⟨attributes, found, inert⟩ := harmless.handlers _ List.mem_cons_self
  have onload : (Tag.mk "svg".toList
      " xmlns=\"http://www.w3.org/2000/svg\" a=\"\" onload=\"x\"".toList).attributes.toOption =
        some [svgNamespaceAttribute, ⟨['a'], []⟩, ⟨"onload".toList, ['x']⟩] := by
    decide +kernel
  rw [found] at onload
  cases onload
  have handler : (Attribute.mk "onload".toList ['x']).isHandler = true := by decide
  have inert := inert ⟨"onload".toList, ['x']⟩ (by simp)
  rw [handler] at inert
  cases inert

end DiagramStudio.Markup
