import DiagramStudio.Keyed
import DiagramStudio.Markup.Cleaning
import DiagramStudio.Toml.Strings

/-!
What references stand for: the predefined entities, and characters by their number, decimal or
hexadecimal. A value is read letter by letter (`letters`): a reference that stands for a character is one
letter, and so is every other character; of each letter it is kept whether it was given by its number.
-/

namespace DiagramStudio.Markup

open Number (isDigit ofDigits)

/-- A character of one kind is not among characters that are all of another. -/
theorem not_mem_of_all {kind : Char → Bool} {others : List Char} (apart : others.all (!kind ·) = true) {c : Char}
    (own : kind c = true) : c ∉ others := by
  intro among
  have foreign := List.all_eq_true.mp apart c among
  rw [own] at foreign
  cases foreign

/-- A character of a text, and whether it was given by its number. -/
structure Letter where
  char : Char
  numbered : Bool
deriving Repr, DecidableEq

namespace Reference

/-- The predefined entities and what they stand for. -/
def entities : List (List Char × Char) :=
  [("lt".toList, '<'), ("gt".toList, '>'), ("amp".toList, '&'), ("apos".toList, '\''), ("quot".toList, '"')]

/-- The character of a number; zero is the number of none. -/
def scalar? (n : Nat) : Option Char :=
  if n ≠ 0 ∧ n.isValidChar then some (Char.ofNat n) else none

/-- The character of a reference by number. -/
def byNumber? : List Char → Option Char
  | '#' :: 'x' :: digits => if digits = [] then none else (Toml.hexNumber? 0 digits).bind scalar?
  | '#' :: digits => if digits ≠ [] ∧ digits.all isDigit then scalar? (ofDigits digits) else none
  | _ => none

/-- What a reference stands for. -/
def letter? (name : List Char) : Option Letter :=
  match entryFor? name entities with
  | some c => some ⟨c, false⟩
  | none => (byNumber? name).map (⟨·, true⟩)

/-- A character that is not given by its number is that of an entity. -/
theorem mem_entities_of_letter? {name : List Char} {letter : Letter} (stands : letter? name = some letter)
    (plain : letter.numbered = false) : letter.char ∈ entities.map (·.2) := by
  unfold letter? at stands
  split at stands
  · next c entity =>
    cases stands
    obtain ⟨e, found, rfl⟩ := Option.map_eq_some_iff.mp entity
    exact List.mem_map.mpr ⟨e, List.mem_of_find?_eq_some found, rfl⟩
  · obtain ⟨c, _, rfl⟩ := Option.map_eq_some_iff.mp stands
    cases plain

end Reference

/-- The letters of a text: a reference reaches up to the next semicolon, and an ampersand that begins none
    stands for itself. -/
def letters : List Char → List Letter
  | [] => []
  | c :: rest =>
    if c = '&' then
      match _h : Text.cut? (· == ';') rest with
      | none => ⟨c, false⟩ :: letters rest
      | some (name, after) =>
        match Reference.letter? name with
        | some letter => letter :: letters after
        | none => ⟨c, false⟩ :: letters rest
    else ⟨c, false⟩ :: letters rest
termination_by s => s.length
decreasing_by
  all_goals first
    | exact Nat.lt_succ_self _
    | exact Nat.lt_succ_of_lt (Attribute.length_cut? _h)

/-- The text with its references resolved. -/
def resolved (s : List Char) : List Char := (letters s).map (·.char)

example : resolved "&#106;ava&#x53;cript&colon;&amp;".toList = "javaScript&colon;&".toList := by decide +kernel

theorem letters_cons {c : Char} (plain : c ≠ '&') (rest : List Char) : letters (c :: rest) = ⟨c, false⟩ :: letters rest := by
  rw [letters, if_neg plain]

/-- What an ampersand begins is given by a number, or it is a character of an entity. -/
theorem letters_ampersand (rest : List Char) :
    ∃ letter more, letters ('&' :: rest) = letter :: more ∧
      (letter.numbered = false → letter.char ∈ Reference.entities.map (·.2)) := by
  rw [letters, if_pos rfl]
  split
  · exact ⟨_, _, rfl, fun _ => by decide⟩
  · next name after _ =>
    split
    · next letter stands => exact ⟨_, _, rfl, Reference.mem_entities_of_letter? stands⟩
    · exact ⟨_, _, rfl, fun _ => by decide⟩

/-- Letters that are neither given by number nor characters of entities stand in the text as they are. -/
theorem exists_of_letters {s : List Char} {front back : List Letter} (read : letters s = front ++ back)
    (plain : ∀ letter ∈ front, letter.numbered = false ∧ letter.char ∉ Reference.entities.map (·.2)) :
    ∃ behind, s = front.map (·.char) ++ behind := by
  induction front generalizing s with
  | nil => exact ⟨s, rfl⟩
  | cons letter more ih =>
    obtain ⟨⟨written, other⟩, others⟩ := List.forall_mem_cons.mp plain
    cases s with
    | nil => simp [letters] at read
    | cons c rest =>
      by_cases ampersand : c = '&'
      · subst ampersand
        obtain ⟨letter', more', read', entity⟩ := letters_ampersand rest
        rw [read'] at read
        obtain ⟨rfl, _⟩ := List.cons.inj read
        exact absurd (entity written) other
      · rw [letters_cons ampersand] at read
        obtain ⟨rfl, following⟩ := List.cons.inj read
        obtain ⟨behind, rfl⟩ := ih following others
        exact ⟨behind, rfl⟩

end DiagramStudio.Markup
