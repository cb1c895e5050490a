import DiagramStudio.Proofs.Json.Grammar

/-!
Where an object ends. The reader takes an object off the front whatever follows it, so what stands behind its last
brace is settled by the bytes alone (`IsDocument.rest_unique`), and of a text of an object nothing can be cut off
and leave a text again, white space at its end aside (`IsText.isGap_of_cut`). Numbers are otherwise: what is cut
off one may leave another.
-/

namespace DiagramStudio.Json

theorem getLast?_render_object (members : List (Quoted × Json)) :
    (Json.object members).render.getLast? = some 0x7D := by
  have tail (members : List (Quoted × Json)) : ∃ front, renderMembers members = front ++ [0x7D] := by
    induction members with
    | nil => exact ⟨[], rfl⟩
    | cons m more ih =>
      cases more with
      | nil => exact ⟨m.1.render ++ byte ':' :: m.2.render, by simp [renderMembers, byte]⟩
      | cons second others =>
        obtain ⟨front, whole⟩ := ih
        refine ⟨m.1.render ++ byte ':' :: (m.2.render ++ byte ',' :: front), ?_⟩
        rw [renderMembers.eq_3 _ _ _ (by simp), whole]
        simp
  obtain ⟨front, whole⟩ := tail members
  rw [render, whole, ← List.cons_append, List.getLast?_concat]

theorem IsMembers.rest_unique {s s' rest rest' : List UInt8} {members members' : List (Quoted × Json)}
    (inside : IsMembers s members) (inside' : IsMembers s' members') (same : s ++ 0x7D :: rest = s' ++ 0x7D :: rest') :
    rest = rest' := by
  let fuel := 2 * s.length + 1 + (2 * s'.length + 1)
  have read := (complete fuel).members inside rest (by omega)
  have read' := (complete fuel).members inside' rest' (by omega)
  rw [← same, read] at read'
  exact (Prod.mk.inj (Option.some.inj read')).2

/-- Between the braces of an object there is white space, or there are members. -/
theorem IsDocument.between_braces {s : List UInt8} {document : Json} (spells : IsDocument (0x7B :: s) document) :
    (∃ gap, IsGap gap ∧ s = gap ++ [0x7D]) ∨ ∃ t members, IsMembers t members ∧ s = t ++ [0x7D] := by
  generalize whole : 0x7B :: s = spelled at spells
  cases spells with
  | word known =>
    simp only [words, List.mem_cons, Prod.mk.injEq, List.not_mem_nil, or_false] at known
    rcases known with ⟨rfl, _⟩ | ⟨rfl, _⟩ | ⟨rfl, _⟩ <;> exact absurd (List.cons.inj whole).1 (by decide)
  | number isNumber =>
    obtain ⟨b, more, rfl, range⟩ := isNumber.exists_cons
    exact absurd (List.cons.inj whole).1.symm (ne_of_range range (by decide))
  | string => exact absurd (List.cons.inj whole).1 (by decide)
  | emptyArray => exact absurd (List.cons.inj whole).1 (by decide)
  | array => exact absurd (List.cons.inj whole).1 (by decide)
  | emptyObject isGap => exact .inl ⟨_, isGap, (List.cons.inj whole).2⟩
  | object inside => exact .inr ⟨_, _, inside, (List.cons.inj whole).2⟩

/-- An object ends at one place only, whatever is taken to follow it. -/
theorem IsDocument.rest_unique {s s' rest rest' : List UInt8} {document document' : Json}
    (spells : IsDocument (0x7B :: s) document) (spells' : IsDocument (0x7B :: s') document')
    (same : s ++ rest = s' ++ rest') : rest = rest' := by
  -- Behind its white space an object that has members goes on with a quote, one that has none with the brace.
  have apart {gap t rest rest' : List UInt8} {members : List (Quoted × Json)} (isGap : IsGap gap)
      (inside : IsMembers t members) (same : gap ++ 0x7D :: rest = t ++ 0x7D :: rest') : False := by
    obtain ⟨more, quote⟩ := inside.skipSpace_append (0x7D :: rest')
    rw [← same, skipSpace_append_cons isGap (by decide)] at quote
    exact absurd (List.cons.inj quote).1 (by decide)
  rcases spells.between_braces with ⟨gap, isGap, rfl⟩ | ⟨t, members, inside, rfl⟩ <;>
    rcases spells'.between_braces with ⟨gap', isGap', rfl⟩ | ⟨t', members', inside', rfl⟩ <;>
    simp only [List.append_assoc, List.singleton_append] at same
  · have skipped := skipSpace_append_cons isGap (b := 0x7D) (by decide) rest
    rw [same, skipSpace_append_cons isGap' (by decide)] at skipped
    exact (List.cons.inj skipped).2.symm
  · exact (apart isGap inside' same).elim
  · exact (apart isGap' inside same.symm).elim
  · exact inside.rest_unique inside' same

/-- What can be cut off a text of an object so that a text is left is white space. -/
theorem IsText.isGap_of_cut {s rest : List UInt8} {document : Json} {members : List (Quoted × Json)}
    (whole : IsText (s ++ rest) (.object members)) (cut : IsText s document) : IsGap rest := by
  generalize text : s ++ rest = t at whole
  obtain @⟨front, spelled, back, _, before, spells, behind⟩ := cut
  obtain @⟨front', spelled', back', _, before', spells', behind'⟩ := whole
  obtain ⟨b, more, rfl, ink, _⟩ := spells.exists_cons
  obtain ⟨inside, rfl⟩ : ∃ inside, spelled' = 0x7B :: inside := by
    cases spells' with
    | word known => simp [words] at known
    | emptyObject => exact ⟨_, rfl⟩
    | object => exact ⟨_, rfl⟩
  have opens : b :: (more ++ (back ++ rest)) = 0x7B :: (inside ++ back') := by
    rw [← skipSpace_append_cons before ink, ← skipSpace_append_cons before' (b := 0x7B) (by decide)]
    simpa only [List.append_assoc, List.cons_append] using congrArg skipSpace text
  obtain ⟨rfl, same⟩ := List.cons.inj opens
  have tail := spells.rest_unique spells' same
  exact fun c member => behind' c (tail ▸ List.mem_append_right back member)

end DiagramStudio.Json
