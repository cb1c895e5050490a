import DiagramStudio.Markup.Cleaning
import DiagramStudio.Proofs.Text.White

/-!
Attributes that are written and read again. The keys that are read are keys of their own
(`wellKeyed_of_readFrom`), and attributes with such keys are read back just where no value has a double
quote in it (`readFrom_render_iff`), since values are written between double quotes as they are.
-/

namespace DiagramStudio.Markup.Attribute

/-! ## Keys -/

/-- A text that is read as a key: it ends in front of white space or an equals sign, with which it may
    begin. -/
def IsKey (key : List Char) : Prop :=
  ∃ c rest, key = c :: rest ∧ isSpace c = false ∧ rest.all isKeyChar = true

/-- The keys can be read, and none is there twice or among those seen before. -/
structure WellKeyed (seen : List (List Char)) (attributes : List Attribute) : Prop where
  keys : ∀ a ∈ attributes, IsKey a.key
  once : (attributes.map (·.key)).Nodup
  fresh : ∀ a ∈ attributes, a.key ∉ seen

theorem wellKeyed_nil (seen : List (List Char)) : WellKeyed seen [] :=
  ⟨nofun, List.nodup_nil, nofun⟩

theorem wellKeyed_cons (seen : List (List Char)) (a : Attribute) (more : List Attribute) :
    WellKeyed seen (a :: more) ↔ IsKey a.key ∧ a.key ∉ seen ∧ WellKeyed (a.key :: seen) more := by
  constructor
  · rintro ⟨keys, once, fresh⟩
    obtain ⟨other, once⟩ := List.nodup_cons.mp once
    refine ⟨keys a List.mem_cons_self, fresh a List.mem_cons_self,
      fun b member => keys b (List.mem_cons_of_mem a member), once, ?_⟩
    intro b member again
    rcases List.mem_cons.mp again with same | again
    · exact other (List.mem_map.mpr ⟨b, member, same⟩)
    · exact fresh b (List.mem_cons_of_mem a member) again
  · rintro ⟨key, unseen, keys, once, fresh⟩
    refine ⟨?_, List.nodup_cons.mpr ⟨?_, once⟩, ?_⟩
    · intro b member
      rcases List.mem_cons.mp member with rfl | member
      · exact key
      · exact keys b member
    · intro again
      obtain ⟨b, member, same⟩ := List.mem_map.mp again
      exact fresh b member (same ▸ List.mem_cons_self)
    · intro b member
      rcases List.mem_cons.mp member with rfl | member
      · exact unseen
      · exact fun again => fresh b member (List.mem_cons_of_mem a.key again)

theorem front_eq_ok {seen : List Key} {position behind : Nat} {c : Char} {s after : List Char} {a : Attribute}
    (visible : isSpace c = false) (read : front seen position c s = .ok (a, behind, after)) :
    IsKey a.key ∧ a.key ∉ seen.map (·.name) := by
  simp only [front, bind, Except.bind] at read
  split at read
  · cases read
  · split at read
    · cases read
    · next unseen =>
      split at read
      · cases read
      · cases read
        refine ⟨⟨c, _, rfl, visible, List.all_takeWhile⟩, ?_⟩
        intro member
        obtain ⟨earlier, member, same⟩ := List.mem_map.mp member
        simpa [same] using List.find?_eq_none.mp unseen earlier member

theorem readFrom_cons {seen : List Key} {position : Nat} {c : Char} {rest : List Char}
    (visible : isSpace c = false) :
    readFrom seen position (c :: rest) =
      match front seen position c rest with
      | .error fault => .error fault
      | .ok (a, behind, after) => (readFrom (⟨a.key, position⟩ :: seen) behind after).map (a :: ·) := by
  rw [readFrom, if_neg (by simp [visible])]
  split
  · next failed => rw [failed]
  · next a behind after found =>
    rw [found]
    show _ = (readFrom (⟨a.key, position⟩ :: seen) behind after).map (a :: ·)
    cases readFrom (⟨a.key, position⟩ :: seen) behind after <;> rfl

/-- Attributes that were read have keys of their own. -/
theorem wellKeyed_of_readFrom {seen : List Key} {position : Nat} {s : List Char} {attributes : List Attribute}
    (read : readFrom seen position s = .ok attributes) : WellKeyed (seen.map (·.name)) attributes := by
  induction seen, position, s using readFrom.induct generalizing attributes with
  | case1 seen position =>
    rw [readFrom] at read
    cases read
    exact wellKeyed_nil _
  | case2 seen position c rest space ih =>
    rw [readFrom, if_pos space] at read
    exact ih read
  | case3 seen position c rest visible fault failed =>
    rw [readFrom_cons (Bool.eq_false_iff.mpr visible), failed] at read
    cases read
  | case4 seen position c rest visible a behind after found ih =>
    obtain ⟨key, unseen⟩ := front_eq_ok (Bool.eq_false_iff.mpr visible) found
    rw [readFrom_cons (Bool.eq_false_iff.mpr visible), found] at read
    simp only at read
    cases more : readFrom (⟨a.key, position⟩ :: seen) behind after with
    | error fault => rw [more] at read; cases read
    | ok attributes =>
      rw [more] at read
      cases read
      exact (wellKeyed_cons _ a attributes).mpr ⟨key, unseen, ih more⟩

/-! ## Attributes that are kept -/

theorem WellKeyed.safe {seen : List (List Char)} {attributes : List Attribute} (valid : WellKeyed seen attributes) :
    WellKeyed seen (safe attributes) := by
  have kept : (Attribute.safe attributes).Sublist attributes := List.filter_sublist
  refine ⟨fun a member => valid.keys a (kept.subset member), ?_, fun a member => valid.fresh a (kept.subset member)⟩
  exact valid.once.sublist (kept.map _)

/-- The attribute that gives the namespace of drawings in place of one that gives another. -/
def renamed (a : Attribute) : Attribute :=
  if a.isNamespace then svgNamespaceAttribute else a

theorem renamed_key (a : Attribute) : a.renamed.key = a.key := by
  unfold renamed
  split
  · next same => exact (eq_of_beq same).symm
  · rfl

theorem safeAtRoot_eq (attributes : List Attribute) :
    safeAtRoot attributes =
      if attributes.any isNamespace then (safe attributes).map renamed
      else svgNamespaceAttribute :: (safe attributes).map renamed := rfl

theorem isKey_namespaceKey : IsKey namespaceKey := ⟨'x', "mlns".toList, rfl, rfl, rfl⟩

theorem WellKeyed.safeAtRoot {attributes : List Attribute} (valid : WellKeyed [] attributes) :
    WellKeyed [] (safeAtRoot attributes) := by
  have keys : ((Attribute.safe attributes).map renamed).map (·.key) = (Attribute.safe attributes).map (·.key) := by
    rw [List.map_map]
    exact List.map_congr_left fun a _ => renamed_key a
  have kept : WellKeyed [] ((Attribute.safe attributes).map renamed) := by
    refine ⟨?_, keys ▸ valid.safe.once, nofun⟩
    intro a member
    obtain ⟨b, stays, rfl⟩ := List.mem_map.mp member
    rw [renamed_key]
    exact valid.safe.keys b stays
  rw [safeAtRoot_eq]
  split
  · exact kept
  · next other =>
    refine (wellKeyed_cons _ _ _).mpr ⟨isKey_namespaceKey, nofun, kept.keys, kept.once, ?_⟩
    intro a member again
    obtain ⟨b, stays, rfl⟩ := List.mem_map.mp member
    rw [renamed_key] at again
    refine other (List.any_eq_true.mpr ⟨b, (List.mem_filter.mp stays).1, ?_⟩)
    exact beq_iff_eq.mpr (List.mem_singleton.mp again)

/-! ## Reading what was written -/

theorem not_mem_of_cut? {s before after : List Char} (cut : Text.cut? (· == '"') s = some (before, after)) :
    '"' ∉ before := by
  induction s generalizing before with
  | nil => cases cut
  | cons c rest ih =>
    rw [Text.cut?] at cut
    split at cut
    · cases cut
      exact List.not_mem_nil
    · next other =>
      cases inner : Text.cut? (· == '"') rest with
      | none => rw [inner] at cut; cases cut
      | some span =>
        rw [inner] at cut
        cases cut
        intro member
        rcases List.mem_cons.mp member with rfl | member
        · exact other rfl
        · exact ih inner member

theorem quotedValue_quote (position : Nat) (s : List Char) :
    quotedValue position ('"' :: s) =
      match Text.cut? (· == '"') s with
      | some (text, after) => .ok (text, position + Text.byteSize text + 2, after)
      | none => .error (.unclosedValue (position + Text.byteSize ('"' :: s)) '"') := by
  have begins : ('"' :: s).takeWhile isSpace = [] := rfl
  have value : ('"' :: s).dropWhile isSpace = '"' :: s := rfl
  unfold quotedValue
  rw [begins, value]
  rfl

/-- A key that was not seen before, in front of its written value. -/
theorem front_render {seen : List Key} {key : List Char} {c : Char} {rest : List Char} (whole : key = c :: rest)
    (inside : rest.all isKeyChar = true) (unseen : key ∉ seen.map (·.name)) (position : Nat) (s : List Char) :
    ∃ valued, front seen position c (rest ++ '=' :: '"' :: s) =
      (quotedValue valued ('"' :: s)).map fun (text, behind, after) => (⟨key, text⟩, behind, after) := by
  subst whole
  have inside := List.all_eq_true.mp inside
  have ends : isKeyChar '=' = false := rfl
  have keyed : (rest ++ '=' :: '"' :: s).takeWhile isKeyChar = rest := by
    rw [List.takeWhile_append_of_pos inside, List.takeWhile_cons_of_neg (by simp [ends]), List.append_nil]
  have behind : (rest ++ '=' :: '"' :: s).dropWhile isKeyChar = '=' :: '"' :: s := by
    rw [List.dropWhile_append_of_pos inside, List.dropWhile_cons_of_neg (by simp [ends])]
  have fresh : (seen.find? fun earlier => earlier.name == c :: rest) = none := by
    refine List.find?_eq_none.mpr fun earlier member same => unseen ?_
    exact List.mem_map.mpr ⟨earlier, member, eq_of_beq same⟩
  have sign (position : Nat) : ∃ valued, equals position ('=' :: '"' :: s) = .ok (valued, '"' :: s) := ⟨_, rfl⟩
  obtain ⟨valued, signed⟩ := sign (position + Text.byteSize (c :: rest))
  refine ⟨valued, ?_⟩
  simp only [front, keyed, behind, signed, fresh, bind, Except.bind]
  cases quotedValue valued ('"' :: s) <;> rfl

theorem render_cons_eq {a : Attribute} {c : Char} {rest : List Char} (whole : a.key = c :: rest)
    (more : List Attribute) :
    (a :: more).flatMap render = ' ' :: c :: (rest ++ '=' :: '"' :: (a.value ++ '"' :: more.flatMap render)) := by
  have sign : "=\"".toList = ['=', '"'] := rfl
  simp only [List.flatMap_cons, render, whole, sign, List.cons_append, List.append_assoc, List.nil_append]

/-- Attributes are read back from their text just where no value has a double quote in it. -/
theorem readFrom_render_iff {seen : List Key} {attributes : List Attribute}
    (valid : WellKeyed (seen.map (·.name)) attributes) (position : Nat) :
    readFrom seen position (attributes.flatMap render) = .ok attributes ↔ ∀ a ∈ attributes, '"' ∉ a.value := by
  induction attributes generalizing seen position with
  | nil =>
    rw [List.flatMap_nil, readFrom]
    exact ⟨fun _ a member => absurd member List.not_mem_nil, fun _ => rfl⟩
  | cons a more ih =>
    obtain ⟨⟨c, rest, whole, visible, inside⟩, unseen, later⟩ := (wellKeyed_cons _ a more).mp valid
    have space : isSpace ' ' = true := rfl
    obtain ⟨valued, first⟩ := front_render whole inside unseen (position + ' '.utf8Size)
      (a.value ++ '"' :: more.flatMap render)
    rw [render_cons_eq whole, readFrom, if_pos space, readFrom_cons visible, first, quotedValue_quote]
    constructor
    · intro read
      cases cut : Text.cut? (· == '"') (a.value ++ '"' :: more.flatMap render) with
      | none => rw [cut] at read; cases read
      | some span =>
        obtain ⟨text, after⟩ := span
        rw [cut] at read
        simp only [Except.map] at read
        split at read
        · cases read
        · next attributes again =>
          obtain ⟨own, rfl⟩ := List.cons.inj (Except.ok.inj read)
          have value : text = a.value := congrArg Attribute.value own
          subst value
          have noQuote := not_mem_of_cut? cut
          rw [Text.cut?_append noQuote] at cut
          cases cut
          intro b member
          rcases List.mem_cons.mp member with rfl | member
          · exact noQuote
          · exact (@ih (⟨a.key, position + ' '.utf8Size⟩ :: seen) later _).mp again b member
    · intro noQuotes
      rw [Text.cut?_append (noQuotes a List.mem_cons_self)]
      have again := (@ih (⟨a.key, position + ' '.utf8Size⟩ :: seen) later
        (valued + Text.byteSize a.value + 2)).mpr fun b member => noQuotes b (List.mem_cons_of_mem a member)
      simp only [Except.map, again]

end DiagramStudio.Markup.Attribute
