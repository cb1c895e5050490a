import DiagramStudio.Proofs.Json.Ending
import DiagramStudio.Proofs.Share.Link

/-!
Tokens that were cut off. The front of a token is read, if at all, as bytes that those of the token begin with, and
these are an object with nothing behind it: no front of it is a document, wherever it ends, in a character, an
escape, a text that spells a document itself, or between two members. So of all fronts of a token only the whole
is read (`decode?_of_cut`).
-/

namespace DiagramStudio.SharedState

open Json (IsText isSpace)

theorem isText_toJson (s : SharedState) : IsText s.toJson.render s.toJson :=
  Json.read?_eq_some_iff.mp (read?_toJson s)

/-- No bytes that those of a state begin with are a document, but all of them. -/
theorem eq_of_read?_cut {s : SharedState} {bytes : List UInt8} (cut : bytes <+: s.toJson.render) {document : Json}
    (read : Json.read? bytes = some document) : bytes = s.toJson.render := by
  obtain ⟨rest, whole⟩ := cut
  have text : IsText (bytes ++ rest) (.object (s.members.map fun m => (m.1, .string m.2))) := by
    rw [whole, ← toJson_eq]
    exact isText_toJson s
  have gap : Json.IsGap rest := text.isGap_of_cut (Json.read?_eq_some_iff.mp read)
  -- What is cut off would end in the brace, which is no white space.
  have none_ : rest = [] := by
    obtain none_ | ⟨front, last, rfl⟩ := List.eq_nil_or_concat rest
    · exact none_
    · have brace := Json.getLast?_render_object (s.members.map fun m => (m.1, .string m.2))
      rw [← toJson_eq, ← whole, List.concat_eq_append, ← List.append_assoc, List.getLast?_concat] at brace
      have space : isSpace 0x7D = true := by
        rw [← Option.some.inj brace]
        exact gap last (by simp)
      cases space
  rw [← whole, none_, List.append_nil]

theorem isPlain_of_cut {s : SharedState} {p : List Char} (cut : p <+: s.encode) : IsPlain p :=
  fun c member => isPlain_encode s c (cut.subset member)

theorem eq_encode_of_decode?_cut {s state : SharedState} {p : List Char} (cut : p <+: s.encode)
    (decoded : decode? p = some state) : p = s.encode := by
  have blank : Text.isBlank [] = true := rfl
  have alone : token p = p := by
    have same := token_surrounded (isPlain_of_cut cut) blank blank
    rwa [List.nil_append, List.append_nil] at same
  rw [decode?, alone] at decoded
  split at decoded
  · cases decoded
  · obtain ⟨document, found, _⟩ := Option.bind_eq_some_iff.mp decoded
    obtain ⟨bytes, characters, read⟩ := Option.bind_eq_some_iff.mp found
    have whole := eq_of_read?_cut (Text.Base64.prefix_of_decode? cut characters) read
    rw [Text.Base64.decode?_eq_some_iff.mp characters, whole, encode]

/-- Of all that a token begins with, only the token itself is read: what is cut off at any place stands for no state,
    alone or in a link behind any address. -/
theorem decode?_of_cut {s : SharedState} {p : List Char} (cut : p <+: s.encode) (address : List Char) :
    (decode? p = if p = s.encode then some s else none) ∧
    ((Link.token? (Link.make address p)).bind decode? = if p = s.encode then some s else none) := by
  have alone : decode? p = if p = s.encode then some s else none := by
    split
    · next whole => rw [whole, decode?_encode]
    · next short =>
      refine Option.eq_none_iff_forall_ne_some.mpr fun state decoded => ?_
      exact short (eq_encode_of_decode?_cut cut decoded)
  refine ⟨alone, ?_⟩
  by_cases none_ : p = []
  · rw [none_, Link.token?_make_nil, Option.bind_none, if_neg (Ne.symm (encode_ne_nil s))]
  · rw [Link.token?_make address (isPlain_of_cut cut) none_, Option.bind_some, alone]

/-- A source that spells a whole document of its own, of which the link has all. -/
theorem decode?_of_cut_behind_document :
    let s : SharedState := ⟨"\x7b\"c\":\"é\"\x7d", "", .viewer⟩
    let p := s.encode.take 32
    p <+: s.encode ∧ p ≠ s.encode ∧ decode? p = none ∧
      (Link.token? (Link.make "https://x.test/#old".toList p)).bind decode? = none := by
  intro s p
  have cut : p <+: s.encode := List.take_prefix 32 s.encode
  have short : p ≠ s.encode := by decide +kernel
  obtain ⟨alone, linked⟩ := decode?_of_cut cut "https://x.test/#old".toList
  rw [if_neg short] at alone linked
  exact ⟨cut, short, alone, linked⟩

end DiagramStudio.SharedState
