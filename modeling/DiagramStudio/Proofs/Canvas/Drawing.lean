import DiagramStudio.Canvas.Drawing
import DiagramStudio.Proofs.Markup.Characters

/-!
Drawings that are read again. Whatever a text holds, it is read as character data and references to
predefined entities that stand for its characters (`characters?_withChars`), so no text begins or ends an
element. A drawing whose names are words and whose values hold no double quote is read as it is nested
(`read_render`), with line breaks between the children of its elements.
-/

namespace DiagramStudio.Drawing

open Markup

/-! ## Texts -/

/-- The entity by which a character is written, if it is not written as it is. -/
def entity? (c : Char) : Option (List Char) :=
  if c = '&' then some "amp".toList
  else if c = '<' then some "lt".toList
  else if c = '>' then some "gt".toList
  else none

theorem entity?_eq_some {c : Char} {name : List Char} (entity : entity? c = some name) :
    escapeChar c = (Event.reference name).render ∧ name.all isReferenceChar = true ∧
      Reference.letter? name = some ⟨c, false⟩ := by
  unfold entity? at entity
  split at entity
  · next same => cases entity; subst same; decide
  · split at entity
    · next same => cases entity; subst same; decide
    · split at entity
      · next same => cases entity; subst same; decide
      · cases entity

theorem entity?_eq_none {c : Char} (plain : entity? c = none) : escapeChar c = [c] ∧ isText c = true := by
  unfold entity? at plain
  split at plain
  · cases plain
  · next ampersand =>
    split at plain
    · cases plain
    · next bracket =>
      split at plain
      · cases plain
      · next closing => simp [escapeChar, isText, ampersand, bracket, closing]

/-- A text without characters that have an entity is written as it is. -/
theorem escape_of_plain {s : List Char} (plain : ∀ c ∈ s, entity? c = none) : escape s = s := by
  induction s with
  | nil => rfl
  | cons c rest ih =>
    obtain ⟨own, later⟩ := List.forall_mem_cons.mp plain
    have first : escape (c :: rest) = escapeChar c ++ escape rest := List.flatMap_cons
    rw [first, ih later, (entity?_eq_none own).1]
    rfl

/-- The events with a character of a drawing in front, as it is written. -/
def withChar (c : Char) (events : List Event) : List Event :=
  match entity? c with
  | some name => .reference name :: events
  | none => withText c events

/-- The events with a text of a drawing in front. -/
def withChars (s : List Char) (events : List Event) : List Event := s.foldr withChar events

theorem scan_escapeChar (c : Char) (rest : List Char) :
    scan (escapeChar c ++ rest) = ⟨withChar c (scan rest).events, (scan rest).fault⟩ := by
  unfold withChar
  split
  · next name entity =>
    obtain ⟨written, inside, _⟩ := entity?_eq_some entity
    rw [written]
    exact readsBack_reference inside rest
  · next plain =>
    obtain ⟨written, text⟩ := entity?_eq_none plain
    rw [written]
    exact scan_cons_text text rest

theorem scan_escape (s rest : List Char) :
    scan (escape s ++ rest) = ⟨withChars s (scan rest).events, (scan rest).fault⟩ := by
  induction s with
  | nil => rfl
  | cons c more ih =>
    have first : escape (c :: more) = escapeChar c ++ escape more := List.flatMap_cons
    rw [first, List.append_assoc, scan_escapeChar, ih]
    rfl

theorem characters?_withChar (c : Char) (events : List Event) :
    characters? (withChar c events) = (characters? events).map (c :: ·) := by
  unfold withChar
  split
  · next name entity =>
    obtain ⟨_, _, stands⟩ := entity?_eq_some entity
    simp only [characters?, stands, Option.bind_eq_bind, Option.bind_some]
    cases characters? events <;> rfl
  · exact characters?_withText c events

/-- A text of a drawing stands for its characters. -/
theorem characters?_withChars (s : List Char) : characters? (withChars s []) = some s := by
  induction s with
  | nil => rfl
  | cons c more ih =>
    have first := characters?_withChar c (withChars more [])
    rw [ih] at first
    exact first

theorem withChar_append_mark {e : Event} (mark : e.isText = false) (c : Char) (front more : List Event) :
    withChar c (front ++ e :: more) = withChar c front ++ e :: more := by
  unfold withChar
  split
  · rfl
  · cases front with
    | nil => exact withText_mark mark c more
    | cons first front => cases first <;> rfl

/-- A text in front of a mark is read as if it stood alone. -/
theorem withChars_mark {e : Event} (mark : e.isText = false) (s : List Char) (more : List Event) :
    withChars s (e :: more) = withChars s [] ++ e :: more := by
  induction s with
  | nil => rfl
  | cons c s ih =>
    have step : withChars (c :: s) (e :: more) = withChar c (withChars s (e :: more)) := rfl
    rw [step, ih, withChar_append_mark mark]
    rfl

theorem openBehind?_withText (open_ : List (List Char)) (c : Char) (events : List Event) :
    openBehind? open_ (withText c events) = openBehind? open_ events := by
  unfold withText
  split <;> rfl

theorem openBehind?_withChar (open_ : List (List Char)) (c : Char) (events : List Event) :
    openBehind? open_ (withChar c events) = openBehind? open_ events := by
  unfold withChar
  split
  · rfl
  · exact openBehind?_withText open_ c events

theorem openBehind?_withChars (open_ : List (List Char)) (s : List Char) (events : List Event) :
    openBehind? open_ (withChars s events) = openBehind? open_ events := by
  induction s with
  | nil => rfl
  | cons c more ih => exact (openBehind?_withChar open_ c _).trans ih

/-! ## Tags -/

/-- The attributes of an element; a text has none. -/
def attributes : Drawing → List (String × List Char)
  | .text _ => []
  | .element _ attributes _ => attributes

/-- A letter or a hyphen. -/
def isWordChar (c : Char) : Bool := c.isAlpha || c == '-'

/-- A name of letters and hyphens. -/
def isWord (name : String) : Bool := !name.toList.isEmpty && name.toList.all isWordChar

/-- The attribute as it stands in the tag. -/
def inTag (a : String × List Char) : Attribute := ⟨a.1.toList, escape a.2⟩

/-- The element as it is written. -/
def written (name : String) (attributes : List (String × List Char)) (hasContent : Bool) : Element :=
  ⟨name.toList, attributes.map inTag, hasContent⟩

/-- The tag that is written for an element. -/
def tag (name : String) (attributes : List (String × List Char)) : Tag :=
  .ofAttributes name.toList (attributes.map inTag)

/-- The names are words, no key is there twice, and no value has a double quote in it. -/
structure IsProperTag (name : String) (attributes : List (String × List Char)) : Prop where
  name : isWord name = true
  keys : ∀ a ∈ attributes, isWord a.1 = true
  once : (attributes.map (·.1)).Nodup
  values : ∀ a ∈ attributes, '"' ∉ a.2

theorem IsProperTag.of_keys {name : String} {attributes : List (String × List Char)} (keys : List String)
    (same : attributes.map (·.1) = keys) (words : isWord name = true ∧ keys.all isWord = true ∧ keys.Nodup)
    (values : ∀ a ∈ attributes, '"' ∉ a.2) : IsProperTag name attributes := by
  obtain ⟨name_, keys_, once⟩ := words
  subst same
  exact ⟨name_, fun a member => List.all_eq_true.mp keys_ a.1 (List.mem_map_of_mem member), once, values⟩

theorem isWord_iff {name : String} :
    isWord name = true ↔ name.toList ≠ [] ∧ ∀ c ∈ name.toList, isWordChar c = true := by
  simp only [isWord, Bool.and_eq_true, Bool.not_eq_true', List.isEmpty_eq_false_iff, List.all_eq_true, ne_eq]

/-- No character of a word means anything in a tag. -/
theorem plain_of_isWord {name : String} (word : isWord name = true) {c : Char} (member : c ∈ name.toList) :
    isSpace c = false ∧ c ∉ ['!', '?', '/', '=', '>', '"', '\''] := by
  have other : c ∉ [' ', '\t', '\r', '\n', '!', '?', '/', '=', '>', '"', '\''] :=
    not_mem_of_all (by decide) ((isWord_iff.mp word).2 c member)
  simp only [List.mem_cons, List.not_mem_nil, or_false, not_or] at other
  simp [isSpace, other]

theorem isTagName_of_isWord {name : String} (word : isWord name = true) : IsTagName name.toList := by
  refine ⟨fun c member => (plain_of_isWord word member).1, fun c first => ?_⟩
  have other := (plain_of_isWord word (List.mem_of_mem_head? first)).2
  simp only [List.mem_cons, List.not_mem_nil, or_false, not_or] at other
  exact ⟨other.1, other.2.1, other.2.2.1⟩

theorem isKey_of_isWord {name : String} (word : isWord name = true) : Attribute.IsKey name.toList := by
  obtain ⟨c, rest, whole⟩ := List.exists_cons_of_ne_nil (isWord_iff.mp word).1
  have plain (d : Char) (member : d ∈ c :: rest) := plain_of_isWord word (whole ▸ member)
  refine ⟨c, rest, whole, (plain c List.mem_cons_self).1, List.all_eq_true.mpr fun d member => ?_⟩
  obtain ⟨visible, other⟩ := plain d (List.mem_cons_of_mem c member)
  simp only [List.mem_cons, List.not_mem_nil, or_false, not_or] at other
  simp [Attribute.isKeyChar, visible, other]

theorem wellKeyed_attributes {name : String} {attributes : List (String × List Char)}
    (proper : IsProperTag name attributes) : Attribute.WellKeyed [] (attributes.map inTag) := by
  refine ⟨fun a member => ?_, ?_, fun _ _ => List.not_mem_nil⟩
  · obtain ⟨b, among, rfl⟩ := List.mem_map.mp member
    exact isKey_of_isWord (proper.keys b among)
  · have keys : (attributes.map inTag).map (·.key) = (attributes.map (·.1)).map String.toList := by
      rw [List.map_map, List.map_map]
      rfl
    rw [keys]
    exact List.Pairwise.map _ (fun _ _ other same => other (String.toList_injective same)) proper.once

theorem quote_mem_escape {s : List Char} (member : '"' ∈ escape s) : '"' ∈ s := by
  obtain ⟨c, among, inside⟩ := List.mem_flatMap.mp member
  unfold escapeChar at inside
  split at inside
  · exact absurd inside (by decide)
  · split at inside
    · exact absurd inside (by decide)
    · split at inside
      · exact absurd inside (by decide)
      · rwa [← List.mem_singleton.mp inside] at among

theorem noQuote_attributes {name : String} {attributes : List (String × List Char)}
    (proper : IsProperTag name attributes) : ∀ a ∈ attributes.map inTag, '"' ∉ a.value := by
  intro a member quote
  obtain ⟨b, among, rfl⟩ := List.mem_map.mp member
  exact proper.values b among (quote_mem_escape quote)

/-- The attributes of a proper tag are read as they are written. -/
theorem attributes_tag {name : String} {attributes : List (String × List Char)}
    (proper : IsProperTag name attributes) : (tag name attributes).attributes = .ok (attributes.map inTag) :=
  (@Element.keepsAttributes_iff (written name attributes false) (wellKeyed_attributes proper)).mpr
    (noQuote_attributes proper)

/-! ## Where tags end -/

/-- Behind characters that are neither quotes nor closing brackets no quote is open. -/
theorem quoteBehind?_plain {s : List Char} (plain : ∀ c ∈ s, c ∉ ['"', '\'', '>']) :
    quoteBehind? none s = some none := by
  induction s with
  | nil => rfl
  | cons c rest ih =>
    obtain ⟨own, later⟩ := List.forall_mem_cons.mp plain
    simp only [List.mem_cons, List.not_mem_nil, or_false, not_or] at own
    have same : nextQuote none c = none := by simp [nextQuote, own]
    rw [quoteBehind?, if_neg (fun ends => own.2.2 ends.2), same]
    exact ih later

/-- A quote stays open up to its like. -/
theorem quoteBehind?_value {value : List Char} (noQuote : '"' ∉ value) :
    quoteBehind? (some '"') value = some (some '"') := by
  induction value with
  | nil => rfl
  | cons c rest ih =>
    have same : nextQuote (some '"') c = some '"' := if_neg (List.ne_of_not_mem_cons noQuote).symm
    rw [quoteBehind?, if_neg (by simp), same]
    exact ih (List.not_mem_of_not_mem_cons noQuote)

theorem unquoted_of_isWord {name : String} (word : isWord name = true) : ∀ c ∈ name.toList, c ∉ ['"', '\'', '>'] := by
  intro c member among
  have other := (plain_of_isWord word member).2
  simp only [List.mem_cons, List.not_mem_nil, or_false] at among
  rcases among with rfl | rfl | rfl <;> exact other (by decide)

theorem quoteBehind?_inTag {a : String × List Char} (key : isWord a.1 = true) (noQuote : '"' ∉ a.2) :
    quoteBehind? none (inTag a).render = some none := by
  have front : quoteBehind? none (' ' :: a.1.toList) = some none :=
    quoteBehind?_plain (List.forall_mem_cons.mpr ⟨by decide, unquoted_of_isWord key⟩)
  have value : quoteBehind? (some '"') (escape a.2) = some (some '"') :=
    quoteBehind?_value fun quote => noQuote (quote_mem_escape quote)
  rw [Attribute.render, quoteBehind?_append, quoteBehind?_append, quoteBehind?_append]
  rw [show (inTag a).key = a.1.toList from rfl, show (inTag a).value = escape a.2 from rfl, front, Option.bind_some,
    show quoteBehind? none "=\"".toList = some (some '"') from rfl, Option.bind_some, value]
  rfl

theorem quoteBehind?_attributes {attributes : List (String × List Char)} (keys : ∀ a ∈ attributes, isWord a.1 = true)
    (values : ∀ a ∈ attributes, '"' ∉ a.2) :
    quoteBehind? none ((attributes.map inTag).flatMap Attribute.render) = some none := by
  induction attributes with
  | nil => rfl
  | cons a more ih =>
    obtain ⟨key, keys⟩ := List.forall_mem_cons.mp keys
    obtain ⟨value, values⟩ := List.forall_mem_cons.mp values
    rw [List.map_cons, List.flatMap_cons, quoteBehind?_append, quoteBehind?_inTag key value]
    exact ih keys values

/-- A proper tag is read back wherever it stands. -/
theorem readsBack_begins {name : String} {attributes : List (String × List Char)}
    (proper : IsProperTag name attributes) (hasContent : Bool) : (written name attributes hasContent).begins.ReadsBack := by
  have content : quoteBehind? none (tag name attributes).content = some none := by
    rw [Tag.content, quoteBehind?_append]
    rw [show (tag name attributes).name = name.toList from rfl, quoteBehind?_plain (unquoted_of_isWord proper.name)]
    exact quoteBehind?_attributes proper.keys proper.values
  have ends : (written name attributes hasContent).Ends := by
    unfold Element.Ends Element.inside
    split
    · exact content
    · rw [quoteBehind?_append]
      rw [show (written name attributes hasContent).tag = tag name attributes from rfl, content]
      rfl
  have keeps : (written name attributes hasContent).KeepsForm := by
    intro _
    split
    · intro last
      exact (plain_of_isWord proper.name (List.mem_of_getLast? last)).2 (by decide)
    · exact (isWord_iff.mp proper.name).1
  exact (Element.readsBack_begins_iff (isTagName_of_isWord proper.name)).mpr ⟨ends, keeps⟩

theorem closingName_of_isWord {name : String} (word : isWord name = true) : closingName name.toList = name.toList := by
  have visible (c : Char) (member : c ∈ name.toList) : isSpace c = false := (plain_of_isWord word member).1
  obtain ⟨spaces, whole, blank⟩ := closingName_append_spaces name.toList
  have none_ : spaces = [] := by
    refine List.eq_nil_iff_forall_not_mem.mpr fun c member => ?_
    have space := List.all_eq_true.mp blank c member
    rw [visible c (whole ▸ List.mem_append_right _ member)] at space
    cases space
  rw [none_, List.append_nil] at whole
  exact whole.symm

theorem readsBack_closing_of_isWord {name : String} (word : isWord name = true) :
    (Event.closing name.toList).ReadsBack := by
  have plain : ∀ c ∈ '/' :: name.toList, c ∉ ['"', '\'', '>'] :=
    List.forall_mem_cons.mpr ⟨by decide, unquoted_of_isWord word⟩
  have back := readsBack_closing (quoteBehind?_plain plain)
  rwa [closingName_of_isWord word] at back

/-! ## Trees -/

/-- All tags in a drawing are proper. -/
inductive IsProper : Drawing → Prop
  | text (body : List Char) : IsProper (.text body)
  | element {name : String} {attributes : List (String × List Char)} {children : List Drawing}
      (tag : IsProperTag name attributes) (inside : ∀ child ∈ children, IsProper child) :
      IsProper (.element name attributes children)

mutual

/-- The events with those of a drawing in front. Every child of an element stands on lines of its own. -/
def before : Drawing → List Event → List Event
  | .text body, events => withChars body events
  | .element name attributes [], events => .standalone (tag name attributes) :: events
  | .element name attributes (child :: more), events =>
    .opening (tag name attributes) :: withChar '\n' (before child
      (beforeAll more (withChar '\n' (.closing name.toList :: events))))

/-- The events with those of children behind the first in front. -/
def beforeAll : List Drawing → List Event → List Event
  | [], events => events
  | child :: more, events => withChar '\n' (before child (beforeAll more events))

end

theorem render_tag (name : String) (attributes : List (String × List Char)) :
    '<' :: name.toList ++ attributes.flatMap renderAttribute = '<' :: (tag name attributes).content := by
  have inside : attributes.flatMap renderAttribute = (attributes.map inTag).flatMap Attribute.render := by
    rw [List.flatMap_map]
    rfl
  rw [inside]
  rfl

theorem render_element_nil (name : String) (attributes : List (String × List Char)) :
    (element name attributes []).render = (written name attributes false).begins.render := by
  rw [render, render_tag]
  rfl

theorem render_element_cons (name : String) (attributes : List (String × List Char)) (child : Drawing)
    (more : List Drawing) (rest : List Char) :
    (element name attributes (child :: more)).render ++ rest =
      (written name attributes true).begins.render ++
        '\n' :: (child.render ++ (renderAll more ++ '\n' :: ((Event.closing name.toList).render ++ rest))) := by
  have opens : (written name attributes true).begins.render = '<' :: (tag name attributes).content ++ ['>'] := rfl
  have closes : (Event.closing name.toList).render = "</".toList ++ name.toList ++ ['>'] := rfl
  have ends : "\n</".toList = '\n' :: "</".toList := rfl
  rw [render, render_tag, opens, closes, ends]
  simp only [List.append_assoc, List.cons_append, List.nil_append]

theorem scan_lineBreak (rest : List Char) :
    scan ('\n' :: rest) = ⟨withChar '\n' (scan rest).events, (scan rest).fault⟩ :=
  scan_escapeChar '\n' rest

mutual

/-- A proper drawing is read as its events, whatever stands behind it. -/
theorem scan_render {d : Drawing} (proper : d.IsProper) (rest : List Char) :
    scan (d.render ++ rest) = ⟨d.before (scan rest).events, (scan rest).fault⟩ := by
  match d, proper with
  | .text body, _ =>
    rw [render, before]
    exact scan_escape body rest
  | .element name attributes [], .element proper _ =>
    have back := readsBack_begins proper false rest
    rw [render_element_nil, back, before]
    rfl
  | .element name attributes (child :: more), .element proper inside =>
    obtain ⟨own, later⟩ := List.forall_mem_cons.mp inside
    have opens := readsBack_begins proper true
    have closes := readsBack_closing_of_isWord proper.name rest
    rw [render_element_cons, opens, scan_lineBreak, scan_render own, scan_renderAll later, scan_lineBreak, closes, before]
    rfl

theorem scan_renderAll {children : List Drawing} (proper : ∀ child ∈ children, child.IsProper) (rest : List Char) :
    scan (renderAll children ++ rest) = ⟨beforeAll children (scan rest).events, (scan rest).fault⟩ := by
  match children with
  | [] => rw [renderAll, beforeAll]; rfl
  | child :: more =>
    obtain ⟨own, later⟩ := List.forall_mem_cons.mp proper
    rw [renderAll, beforeAll, List.cons_append, List.cons_append, List.append_assoc, scan_lineBreak, scan_render own,
      scan_renderAll later]

end

mutual

/-- Behind a drawing the same elements are open as in front of it. -/
theorem openBehind?_before (d : Drawing) (open_ : List (List Char)) (events : List Event) :
    openBehind? open_ (d.before events) = openBehind? open_ events := by
  match d with
  | .text body =>
    rw [before]
    exact openBehind?_withChars open_ body events
  | .element name attributes [] => rw [before]; rfl
  | .element name attributes (child :: more) =>
    rw [before, openBehind?, openBehind?_withChar, openBehind?_before child, openBehind?_beforeAll more,
      openBehind?_withChar]
    exact if_pos rfl

theorem openBehind?_beforeAll (children : List Drawing) (open_ : List (List Char)) (events : List Event) :
    openBehind? open_ (beforeAll children events) = openBehind? open_ events := by
  match children with
  | [] => rw [beforeAll]
  | child :: more => rw [beforeAll, openBehind?_withChar, openBehind?_before child, openBehind?_beforeAll more]

end

/-- A proper element is read as a document that consists of its events, and without a fault. -/
theorem read_render {name : String} {attributes : List (String × List Char)} {children : List Drawing}
    (proper : (element name attributes children).IsProper) :
    read (element name attributes children).render = ⟨(element name attributes children).before [], none⟩ := by
  have begins : ∃ rest, (element name attributes children).render = '<' :: rest := by
    cases children <;> exact ⟨_, rfl⟩
  obtain ⟨rest, whole⟩ := begins
  have unmarked : Text.stripMark (element name attributes children).render =
      (element name attributes children).render := by
    rw [whole]
    rfl
  have scanned := scan_render proper []
  rw [List.append_nil, scan] at scanned
  have closed : openBehind? [] ((element name attributes children).before []) = some [] :=
    openBehind?_before _ [] []
  rw [Markup.read, unmarked, scanned]
  exact nest_of_openBehind? closed

end DiagramStudio.Drawing
