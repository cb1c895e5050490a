import DiagramStudio.Proofs.Markup.Harmless
import DiagramStudio.Proofs.Markup.Outside

/-!
Documents that need no declarations. A cleaned document refers in its text only to what is known in every document, for
other references are refused there. They are not looked for in the values of attributes, nor is it asked what stands in
front of the root and behind it: both are written as they were read, and the document is self-contained just where they
are (`isSelfContained_of_clean`).
-/

namespace DiagramStudio.Markup

/-! ## References in values -/

/-- A reference to the name is written somewhere in the text. -/
def Refers (s name : List Char) : Prop :=
  name.all isReferenceChar = true ∧ ∃ front behind, s = front ++ (Event.reference name).render ++ behind

/-- The names of the references that are written in a text, in their order. -/
def referencesIn : List Char → List (List Char)
  | [] => []
  | c :: rest =>
    if c = '&' ∧ (rest.dropWhile isReferenceChar).head? = some ';' then
      rest.takeWhile isReferenceChar :: referencesIn rest
    else referencesIn rest

theorem mem_referencesIn_cons {s name : List Char} (member : name ∈ referencesIn s) (c : Char) :
    name ∈ referencesIn (c :: s) := by
  rw [referencesIn]
  split
  · exact .tail _ member
  · exact member

theorem refers_cons {s name : List Char} (refers : Refers s name) (c : Char) : Refers (c :: s) name := by
  obtain ⟨inside, front, behind, rfl⟩ := refers
  exact ⟨inside, c :: front, behind, by simp only [List.cons_append]⟩

theorem render_reference (name : List Char) : (Event.reference name).render = '&' :: (name ++ [';']) := rfl

theorem refers_iff_mem {s name : List Char} : Refers s name ↔ name ∈ referencesIn s := by
  induction s with
  | nil => simp [Refers, referencesIn, render_reference]
  | cons c rest ih =>
    constructor
    · rintro ⟨inside, front, behind, whole⟩
      cases front with
      | nil =>
        obtain ⟨rfl, rfl⟩ : c = '&' ∧ rest = name ++ ';' :: behind := by simpa [render_reference] using whole
        obtain ⟨named, closed⟩ := span_reference inside behind
        rw [referencesIn, if_pos ⟨rfl, by rw [closed]; rfl⟩, named]
        exact .head _
      | cons d front =>
        obtain ⟨_, rfl⟩ := List.cons.inj whole
        exact mem_referencesIn_cons (ih.mp ⟨inside, front, behind, rfl⟩) c
    · intro member
      rw [referencesIn] at member
      split at member
      · next begins =>
        rcases List.mem_cons.mp member with rfl | member
        · obtain ⟨rfl, closed⟩ := begins
          obtain ⟨behind, after⟩ := List.head?_eq_some_iff.mp closed
          refine ⟨List.all_takeWhile, [], behind, ?_⟩
          rw [List.nil_append, render_reference, List.cons_append, List.append_assoc, List.singleton_append, ← after,
            List.takeWhile_append_dropWhile]
        · exact refers_cons (ih.mpr member) c
      · exact refers_cons (ih.mpr member) c

/-! ## Self-contained documents -/

/-- The attributes can be read, and what their values refer to is allowed. -/
def Tag.Allows (allowed : List Char → Bool) (tag : Tag) : Prop :=
  ∃ attributes, tag.attributes = .ok attributes ∧
    ∀ a ∈ attributes, ∀ name, Refers a.value name → allowed name = true

/-- Text and values refer only to what is allowed, and outside of all elements there is only white space. -/
structure Forest.IsSelfContained (allowed : List Char → Bool) (f : Forest) : Prop where
  text : ∀ name ∈ f.references, allowed name = true
  values : ∀ tag ∈ f.tags, tag.Allows allowed
  outside : IsBlankOutside 0 f.events

/-- The text is read without a fault as a forest that is self-contained. -/
def IsSelfContained (allowed : List Char → Bool) (out : List Char) : Prop :=
  ∃ f : Forest, read out = ⟨f.events, none⟩ ∧ f.IsSelfContained allowed

/-- A document that is read back refers to what was written. -/
theorem isSelfContained_iff_of_readsAs {out : List Char} {f : Forest} (reads : ReadsAs out f)
    (allowed : List Char → Bool) :
    IsSelfContained allowed out ↔
      (∀ tag ∈ f.tags, tag.Allows allowed) ∧ (∀ name ∈ f.references, allowed name = true) ∧
        IsBlankOutside 0 (read out).events := by
  obtain ⟨g, read_, same⟩ := reads.exists_forest
  rw [← (Forest.tags_eq_of_withoutText same).1, ← Forest.references_eq_of_withoutText same, read_]
  constructor
  · rintro ⟨h, read', text, values, outside⟩
    obtain rfl : g = h := events_injective (congrArg Reading.events (read_.symm.trans read'))
    exact ⟨values, text, outside⟩
  · rintro ⟨values, text, outside⟩
    exact ⟨g, read_, text, values, outside⟩

/-- Values without a double quote are read again as they are. -/
theorem Element.allows_iff {f : Forest} {isRoot : Bool} {el : Element} (member : el ∈ f.written isRoot)
    (values : ∀ a ∈ el.attributes, '"' ∉ a.value) (allowed : List Char → Bool) :
    el.tag.Allows allowed ↔ ∀ a ∈ el.attributes, ∀ name, Refers a.value name → allowed name = true := by
  have keeps : el.tag.attributes = .ok el.attributes := (Element.keepsAttributes_iff_of_mem member).mpr values
  constructor
  · rintro ⟨attributes, read_, allows⟩
    cases keeps.symm.trans read_
    exact allows
  · exact fun allows => ⟨el.attributes, keeps, allows⟩

namespace Forest

theorem references_rewritten (f : Forest) (isRoot : Bool) : (f.rewritten isRoot).references = f.references := by
  induction f generalizing isRoot with
  | empty => rfl
  | element tag content rest ihContent ihRest => rw [rewritten, references, ihContent, ihRest, references]
  | standalone tag rest ih => exact ih isRoot
  | leaf e isLeaf rest ih =>
    cases e with
    | reference name => exact congrArg (name :: ·) (ih isRoot)
    | opening tag => cases isLeaf
    | closing name => cases isLeaf
    | standalone tag => cases isLeaf
    | _ => exact ih isRoot

/-- No leaf is written that was not read. -/
theorem mem_events_of_rewritten {f : Forest} {isRoot : Bool} {e : Event} (isLeaf : e.isLeaf = true)
    (member : e ∈ (f.rewritten isRoot).events) : e ∈ f.events := by
  induction f generalizing isRoot with
  | empty => cases member
  | element tag content rest ihContent ihRest =>
    simp only [rewritten, events, List.mem_cons, List.mem_append] at member ⊢
    rcases member with rfl | member | rfl | member
    · cases isLeaf
    · exact .inr (.inl (ihContent member))
    · cases isLeaf
    · exact .inr (.inr (.inr (ihRest member)))
  | standalone tag rest ih =>
    rcases List.mem_cons.mp member with rfl | member
    · cases isLeaf
    · exact .tail _ (ih member)
  | leaf first _ rest ih =>
    rw [events_rewritten_leaf, List.mem_append] at member
    rcases member with own | member
    · unfold Event.kept? at own
      split at own
      · cases own
      · rw [List.mem_singleton.mp own]
        exact .head _
    · exact .tail _ (ih member)

end Forest

/-- A document that is read back is self-contained just where what was written for its forest is. -/
theorem isSelfContained_render_iff {f : Forest} (known : ∀ e ∈ f.events, e.IsRead)
    (full : ∀ body, .text body ∈ f.events → body ≠ [])
    (reads : ReadsAs (render (f.rewritten true).events) (f.rewritten true)) (allowed : List Char → Bool) :
    IsSelfContained allowed (render (f.rewritten true).events) ↔
      (∀ el ∈ f.written true, el.tag.Allows allowed) ∧ (∀ name ∈ f.references, allowed name = true) ∧
        IsBlankOutside 0 (unmarked (f.rewritten true).events) := by
  have stays {body : List Char} (member : .text body ∈ (f.rewritten true).events) : .text body ∈ f.events :=
    Forest.mem_events_of_rewritten rfl member
  have outside : IsBlankOutside 0 (read (render (f.rewritten true).events)).events ↔
      IsBlankOutside 0 (unmarked (f.rewritten true).events) :=
    isBlankOutside_read (fun body member => full body (stays member))
      (fun body member => known (.text body) (stays member))
      ((Forest.readsBack_iff known true).mpr ((readsAs_iff known).mp reads)) reads.1
  rw [isSelfContained_iff_of_readsAs reads, outside, Forest.references_rewritten, Forest.tags_rewritten,
    List.forall_mem_map]

/-- When a cleaned document needs no declarations. The references in its text are to predefined entities, or begin with
    the sign of a number. If its tags end where they are written to end, it is self-contained, whichever references are
    allowed, just where all its elements are opened and closed as they were, the values that are read of them and its text
    refer to what is allowed, and what was written outside of the root is blank, but for a byte-order mark in front. Values
    without a double quote are read as they are written. -/
theorem isSelfContained_of_clean {s out : List Char} (cleaned : clean s = .ok out) (allowed : List Char → Bool) :
    ∃ f : Forest, f.events = (read s).events ∧ out = render (f.withoutScripts.rewritten true).events ∧
      (∀ name ∈ f.withoutScripts.references, isSafeReference name = true) ∧
      ((∀ el ∈ f.withoutScripts.written true, el.Ends) →
        (IsSelfContained allowed out ↔
          (∀ el ∈ f.withoutScripts.written true, el.KeepsForm ∧ el.tag.Allows allowed) ∧
          (∀ name ∈ f.withoutScripts.references, allowed name = true) ∧
          IsBlankOutside 0 (unmarked (f.withoutScripts.rewritten true).events))) ∧
      ∀ el ∈ f.withoutScripts.written true, (∀ a ∈ el.attributes, '"' ∉ a.value) →
        (el.tag.Allows allowed ↔ ∀ a ∈ el.attributes, ∀ name, Refers a.value name → allowed name = true) := by
  obtain ⟨written, ran, rfl⟩ := (clean_eq_ok_iff_cleanEvents s out).mp cleaned
  obtain ⟨none_, f, same, _, sound, rfl⟩ := (cleanEvents_eq_ok_iff s written).mp ran
  have stays {e : Event} (member : e ∈ f.withoutScripts.events) : e ∈ (read s).events :=
    same ▸ Forest.mem_events_of_withoutScripts member
  have known (e : Event) (member : e ∈ f.withoutScripts.events) : e.IsRead := isRead_of_mem_read none_ (stays member)
  have full (body : List Char) (member : .text body ∈ f.withoutScripts.events) : body ≠ [] := by
    have among := stays member
    rw [read, (events_nest none_).2] at among
    exact ne_nil_of_mem_scan among
  refine ⟨f, same, rfl, sound.references, fun ends => ?_, fun el member values => Element.allows_iff member values allowed⟩
  constructor
  · intro selfContained
    obtain ⟨g, read_⟩ : ∃ g : Forest, read (render (f.withoutScripts.rewritten true).events) = ⟨g.events, none⟩ :=
      selfContained.imp fun _ => And.left
    have reads := readsAs_of_ends known ends read_
    have forms := (readsAs_iff known).mp reads
    obtain ⟨values, text, outside⟩ := (isSelfContained_render_iff known full reads allowed).mp selfContained
    exact ⟨fun el member => ⟨(forms el member).2, values el member⟩, text, outside⟩
  · rintro ⟨elements, text, outside⟩
    have reads := (readsAs_iff known).mpr fun el member => ⟨ends el member, (elements el member).1⟩
    exact (isSelfContained_render_iff known full reads allowed).mpr
      ⟨fun el member => (elements el member).2, text, outside⟩

/-- A drawing with a reference in a value and one in its text, and a line break behind it. -/
theorem isSelfContained_of_clean_entity :
    ∃ out, clean "<svg a='&lt;'>&#65;</svg>\n".toList = .ok out ∧ IsSelfContained isSafeReference out := by
  have cleaned : clean "<svg a='&lt;'>&#65;</svg>\n".toList =
      .ok "<svg xmlns=\"http://www.w3.org/2000/svg\" a=\"&lt;\">&#65;</svg>\n".toList :=
    eq_ok_of_toOption (by decide +kernel)
  obtain ⟨f, same, _, text, selfContained, values⟩ := isSelfContained_of_clean cleaned isSafeReference
  have events : (read "<svg a='&lt;'>&#65;</svg>\n".toList).events =
      (Forest.element ⟨"svg".toList, " a='&lt;'".toList⟩ (.leaf (.reference "#65".toList) rfl .empty)
        (.leaf (.text ['\n']) rfl .empty)).events := by decide +kernel
  obtain rfl := events_injective (same.trans events)
  have attributes : (Tag.mk "svg".toList " a='&lt;'".toList).writtenAttributes true =
      [svgNamespaceAttribute, ⟨['a'], "&lt;".toList⟩] := by decide +kernel
  have only (el : Element) (member : el ∈ [Element.mk "svg".toList
      ((Tag.mk "svg".toList " a='&lt;'".toList).writtenAttributes true) true]) :
      el = ⟨"svg".toList, [svgNamespaceAttribute, ⟨['a'], "&lt;".toList⟩], true⟩ := by
    rw [← attributes]
    exact List.mem_singleton.mp member
  refine ⟨_, cleaned, (selfContained ?_).mpr ⟨fun el member => ⟨?_, ?_⟩, text, ?_⟩⟩
  · intro el member
    obtain rfl := only el member
    show quoteBehind? none _ = some none
    decide +kernel
  · obtain rfl := only el member
    nofun
  · have bare : ∀ a ∈ el.attributes, '"' ∉ a.value := by
      obtain rfl := only el member
      decide +kernel
    have safe : ∀ a ∈ el.attributes, ∀ name ∈ referencesIn a.value, isSafeReference name = true := by
      obtain rfl := only el member
      decide +kernel
    exact (values el member bare).mpr fun a among name refers => safe a among name (refers_iff_mem.mp refers)
  · unfold IsBlankOutside
    decide +kernel

/-- A reference that is not declared is written in a value, and text is written behind the root. -/
theorem not_isSelfContained_of_value :
    clean "<svg a=\"&foo;\"/>".toList =
        .ok "<svg xmlns=\"http://www.w3.org/2000/svg\" a=\"&foo;\"/>".toList ∧
      ¬IsSelfContained isSafeReference "<svg xmlns=\"http://www.w3.org/2000/svg\" a=\"&foo;\"/>".toList ∧
    clean "<svg/>x".toList = .ok "<svg xmlns=\"http://www.w3.org/2000/svg\"/>x".toList ∧
      ¬IsSelfContained isSafeReference "<svg xmlns=\"http://www.w3.org/2000/svg\"/>x".toList := by
  refine ⟨eq_ok_of_toOption (by decide +kernel), ?_, eq_ok_of_toOption (by decide +kernel), ?_⟩
  · rintro ⟨f, read_, selfContained⟩
    have events : (read "<svg xmlns=\"http://www.w3.org/2000/svg\" a=\"&foo;\"/>".toList).events =
        (Forest.standalone ⟨"svg".toList, " xmlns=\"http://www.w3.org/2000/svg\" a=\"&foo;\"".toList⟩ .empty).events := by
      decide +kernel
    obtain rfl := events_injective ((congrArg Reading.events read_).symm.trans events)
    obtain ⟨attributes, found, allows⟩ := selfContained.values _ (.head _)
    have written : (Tag.mk "svg".toList " xmlns=\"http://www.w3.org/2000/svg\" a=\"&foo;\"".toList).attributes.toOption =
        some [svgNamespaceAttribute, ⟨['a'], "&foo;".toList⟩] := by decide +kernel
    rw [found] at written
    cases written
    have refers : Refers "&foo;".toList "foo".toList := refers_iff_mem.mpr (by decide +kernel)
    have safe : isSafeReference "foo".toList = true := allows ⟨['a'], "&foo;".toList⟩ (by simp) _ refers
    exact absurd safe (by decide +kernel)
  · rintro ⟨f, read_, selfContained⟩
    have events : (read "<svg xmlns=\"http://www.w3.org/2000/svg\"/>x".toList).events =
        [.standalone ⟨"svg".toList, " xmlns=\"http://www.w3.org/2000/svg\"".toList⟩, .text ['x']] := by
      decide +kernel
    have outside := selfContained.outside
    rw [show f.events = _ from (congrArg Reading.events read_).symm.trans events] at outside
    exact absurd (outside (.text ['x']) (by decide +kernel)) (by decide +kernel)

end DiagramStudio.Markup
