import DiagramStudio.Proofs.Markup.Harmless
import DiagramStudio.Proofs.Markup.Reference

/-!
Links that stay when a drawing is cleaned. No link that stays begins with the scheme of a program as it is
written, white space aside. With its references resolved it may: not by way of entities, none of which
stands for a character of the scheme, but where one of its characters, or of the white space among them, is
given by its number (`leadsToScript_iff`).
-/

namespace DiagramStudio.Markup

namespace Attribute

/-- The link runs a program once its references are resolved. -/
def LeadsToScript (a : Attribute) : Prop :=
  a.isCalled "href" = true ∧
    Text.startsFolded scriptScheme ((resolved a.value).filter (!isAsciiSpace ·)) = true

instance (a : Attribute) : Decidable a.LeadsToScript := inferInstanceAs (Decidable (_ ∧ _))

end Attribute

open Attribute (isAsciiSpace scriptScheme)

/-- The letters spell the scheme of a program, in any case and with any white space among them. -/
def SpellsScheme (front : List Letter) : Prop :=
  Text.lower ((front.map (·.char)).filter (!isAsciiSpace ·)) = Text.lower scriptScheme

theorem startsFolded_of_spells {front : List Letter} (spells : SpellsScheme front) (behind : List Char) :
    Text.startsFolded scriptScheme ((front.map (·.char) ++ behind).filter (!isAsciiSpace ·)) = true := by
  rw [Text.startsFolded, List.isPrefixOf_iff_prefix, List.filter_append, ← spells]
  exact ⟨Text.lower (behind.filter (!isAsciiSpace ·)), List.map_append.symm⟩

/-- A text begins with the scheme just where its first letters spell it. -/
theorem startsFolded_resolved_iff {s : List Char} :
    Text.startsFolded scriptScheme ((resolved s).filter (!isAsciiSpace ·)) = true ↔
      ∃ front back, letters s = front ++ back ∧ SpellsScheme front := by
  constructor
  · intro begins
    obtain ⟨rest, same⟩ := List.isPrefixOf_iff_prefix.mp begins
    obtain ⟨first, second, cut, spells, _⟩ := List.map_eq_append_iff.mp same.symm
    obtain ⟨front, back, whole, rfl, _⟩ := List.filter_eq_append_iff.mp cut
    obtain ⟨front, back, read, rfl, _⟩ := List.map_eq_append_iff.mp whole
    exact ⟨front, back, read, spells⟩
  · rintro ⟨front, back, read, spells⟩
    rw [resolved, read, List.map_append]
    exact startsFolded_of_spells spells _

/-- No character of an entity is white space or one of the scheme. -/
theorem not_mem_entities_of_spells {front : List Letter} (spells : SpellsScheme front) :
    ∀ letter ∈ front, letter.char ∉ Reference.entities.map (·.2) := by
  have apart : (Reference.entities.map (·.2)).all
      (fun c => !(isAsciiSpace c || (Text.lower scriptScheme).contains c.toLower)) = true := by decide
  intro letter member
  refine not_mem_of_all apart ?_
  cases white : isAsciiSpace letter.char with
  | true => rfl
  | false =>
    have among : letter.char ∈ (front.map (·.char)).filter (!isAsciiSpace ·) :=
      List.mem_filter.mpr ⟨List.mem_map.mpr ⟨letter, member, rfl⟩, by simp [white]⟩
    rw [Bool.false_or, List.contains_iff_mem, ← spells]
    exact List.mem_map.mpr ⟨letter.char, among, rfl⟩

/-- A link that does not run a program as it is written runs one, its references resolved, just where it begins
    with letters that spell the scheme, one of them at least given by its number. -/
theorem leadsToScript_iff {a : Attribute} (isLink : a.isCalled "href" = true) (stays : a.isScriptLink = false) :
    a.LeadsToScript ↔
      ∃ front back, letters a.value = front ++ back ∧ SpellsScheme front ∧ ∃ letter ∈ front, letter.numbered = true := by
  rw [Attribute.LeadsToScript, startsFolded_resolved_iff]
  constructor
  · rintro ⟨_, front, back, read, spells⟩
    refine ⟨front, back, read, spells, ?_⟩
    by_cases some_ : ∃ letter ∈ front, letter.numbered = true
    · exact some_
    · -- the scheme stands in the value as it is, and the link would have gone
      have plain (letter : Letter) (member : letter ∈ front) :
          letter.numbered = false ∧ letter.char ∉ Reference.entities.map (·.2) :=
        ⟨Bool.eq_false_iff.mpr fun numbered => some_ ⟨letter, member, numbered⟩,
          not_mem_entities_of_spells spells letter member⟩
      obtain ⟨behind, written⟩ := exists_of_letters read plain
      have begins := startsFolded_of_spells spells behind
      rw [← written] at begins
      simp [Attribute.isScriptLink, isLink, begins] at stays
  · rintro ⟨front, back, read, spells, _⟩
    exact ⟨isLink, front, back, read, spells⟩

/-- Of a cleaned drawing no link runs a program as it is written, and one runs a program with its references
    resolved just where letters that spell the scheme begin it, one of them given by its number. So where no
    number stands for white space or a character of the scheme in a link, none runs a program. -/
theorem links_of_clean {s out : List Char} (cleaned : clean s = .ok out) :
    ∃ f : Forest, f.events = (read s).events ∧ out = render (f.withoutScripts.rewritten true).events ∧
      ∀ el ∈ f.withoutScripts.written true, ∀ a ∈ el.attributes, a.isCalled "href" = true →
        Text.startsFolded scriptScheme (a.value.filter (!isAsciiSpace ·)) = false ∧
        (a.LeadsToScript ↔ ∃ front back, letters a.value = front ++ back ∧ SpellsScheme front ∧
          ∃ letter ∈ front, letter.numbered = true) := by
  obtain ⟨written, ran, rfl⟩ := (clean_eq_ok_iff_cleanEvents s out).mp cleaned
  obtain ⟨_, f, same, _, _, rfl⟩ := (cleanEvents_eq_ok_iff s written).mp ran
  refine ⟨f, same, rfl, fun el member a among isLink => ?_⟩
  obtain ⟨tag, _, isRoot, _, attributes⟩ := Forest.exists_of_mem_written member
  have safe : a.isSafe = true := Tag.isSafe_of_mem_writtenAttributes (attributes ▸ among)
  have stays : a.isScriptLink = false := by
    simp only [Attribute.isSafe, Bool.and_eq_true, Bool.not_eq_true'] at safe
    exact safe.2
  refine ⟨?_, leadsToScript_iff isLink stays⟩
  simpa [Attribute.isScriptLink, isLink] using stays

/-- A drawing of one element. -/
def Forest.nested (root inner : Tag) : Forest := .element root (.standalone inner .empty) .empty

theorem Forest.mem_written_nested (root inner : Tag) (stays : root.isScript = false) (stays' : inner.isScript = false) :
    ⟨inner.name, inner.writtenAttributes false, false⟩ ∈ (Forest.nested root inner).withoutScripts.written true := by
  simp [nested, withoutScripts, written, stays, stays']

/-- A number stands for a character in front of the scheme, so the link runs nothing. -/
theorem links_of_clean_help :
    let link : Attribute := ⟨"href".toList, "&#x48;elp:javascript:".toList⟩
    ∃ out, clean "<svg><a href='&#x48;elp:javascript:'/></svg>".toList = .ok out ∧ ¬link.LeadsToScript ∧
      ¬∃ front back, letters link.value = front ++ back ∧ SpellsScheme front ∧ ∃ letter ∈ front, letter.numbered = true := by
  intro link
  let tag : Tag := ⟨"a".toList, " href='&#x48;elp:javascript:'".toList⟩
  have cleaned : clean "<svg><a href='&#x48;elp:javascript:'/></svg>".toList =
      .ok "<svg xmlns=\"http://www.w3.org/2000/svg\"><a href=\"&#x48;elp:javascript:\"/></svg>".toList :=
    eq_ok_of_toOption (by decide +kernel)
  obtain ⟨f, same, _, links⟩ := links_of_clean cleaned
  have events : (read "<svg><a href='&#x48;elp:javascript:'/></svg>".toList).events =
      (Forest.nested ⟨"svg".toList, []⟩ tag).events := by decide +kernel
  obtain rfl := events_injective (same.trans events)
  have attributes : tag.writtenAttributes false = [link] := by decide +kernel
  have member := Forest.mem_written_nested ⟨"svg".toList, []⟩ tag (by decide) (by decide)
  obtain ⟨_, leads⟩ := links _ member link (attributes ▸ List.mem_cons_self) (by decide)
  have stays : ¬link.LeadsToScript := by decide +kernel
  exact ⟨_, cleaned, stays, fun spelled => stays (leads.mpr spelled)⟩

/-- The first character of the scheme is given by its number, and the link stays. -/
theorem not_stripped_of_number :
    ¬ ∀ (s out : List Char) (f : Forest), clean s = .ok out → f.events = (read s).events →
      ∀ el ∈ f.withoutScripts.written true, ∀ a ∈ el.attributes, ¬a.LeadsToScript := by
  intro all
  let link : Attribute := ⟨"href".toList, "&#106;avascript:alert(1)".toList⟩
  let tag : Tag := ⟨"a".toList, " href=\"&#106;avascript:alert(1)\"".toList⟩
  have cleaned : clean "<svg><a href=\"&#106;avascript:alert(1)\"/></svg>".toList =
      .ok "<svg xmlns=\"http://www.w3.org/2000/svg\"><a href=\"&#106;avascript:alert(1)\"/></svg>".toList :=
    eq_ok_of_toOption (by decide +kernel)
  have events : (Forest.nested ⟨"svg".toList, []⟩ tag).events =
      (read "<svg><a href=\"&#106;avascript:alert(1)\"/></svg>".toList).events := by decide +kernel
  have attributes : tag.writtenAttributes false = [link] := by decide +kernel
  have member := Forest.mem_written_nested ⟨"svg".toList, []⟩ tag (by decide) (by decide)
  have leads : link.LeadsToScript := by decide +kernel
  exact all _ _ _ cleaned events _ member link (attributes ▸ List.mem_cons_self) leads

end DiagramStudio.Markup
