import DiagramStudio.Proofs.Markup.Element
import DiagramStudio.Proofs.Markup.Reference

/-!
Text as it is read, character by character. A character that is no mark goes into the text in front of which
it stands (`scan_cons_text`), and a reference is an event of its own. A row of texts and references stands
for the characters of the texts and of what is referred to (`characters?`).
-/

namespace DiagramStudio.Markup

/-! ## Marks are no text -/

theorem isText_of_bang {s after : List Char} {e : Event} (read : bang s = .ok (e, after)) : e.isText = false := by
  unfold bang at read
  split at read
  · split at read <;> cases read
    rfl
  · split at read <;> cases read
    rfl
  · split at read
    · split at read
      · simp only at read
        split at read
        · split at read <;> cases read
          rfl
        · cases read
      · cases read
    · cases read
  · cases read

theorem isText_of_question {s after : List Char} {e : Event} (read : question s = .ok (e, after)) :
    e.isText = false := by
  unfold question at read
  split at read
  · cases read
  · split at read
    · cases read
      split <;> rfl
    · cases read

theorem isText_of_next {c : Char} {rest after : List Char} {e : Event} (mark : isText c = false)
    (read : next c rest = .ok (e, after)) : e.isText = false := by
  unfold next at read
  split at read
  · split at read
    · exact isText_of_bang read
    · exact isText_of_question read
    · rcases span : tagSpan none rest with fault | ⟨content, behind⟩
      · simp [span, bind, Except.bind] at read
      · simp only [span, bind, Except.bind, pure, Except.pure, Except.ok.injEq, Prod.mk.injEq] at read
        rw [← read.1]
        exact Element.isText_ofTag content
  · split at read
    · split at read <;> cases read
      rfl
    · next left right => simp [isText, left, right] at mark

/-! ## Characters in front of events -/

/-- The events with a character of text in front, which goes into the text that stands first. -/
def withText (c : Char) : List Event → List Event
  | .text body :: more => .text (c :: body) :: more
  | events => .text [c] :: events

theorem withText_mark {e : Event} (mark : e.isText = false) (c : Char) (more : List Event) :
    withText c (e :: more) = .text [c] :: e :: more := by
  cases e <;> first | rfl | cases mark

theorem scan_cons_text {c : Char} (text : isText c = true) (rest : List Char) :
    scan (c :: rest) = ⟨withText c (scan rest).events, (scan rest).fault⟩ := by
  rw [scan_cons_ok (next_text text rest)]
  cases rest with
  | nil => simp [scan, Reading.cons, withText]
  | cons d more =>
    by_cases text' : isText d = true
    · rw [scan_cons_ok (next_text text' more), List.takeWhile_cons_of_pos text', List.dropWhile_cons_of_pos text']
      rfl
    · rw [List.takeWhile_cons_of_neg text', List.dropWhile_cons_of_neg text']
      rcases first : next d more with fault | ⟨e, after⟩
      · rw [scan_cons_error first]
        rfl
      · have mark : e.isText = false := isText_of_next (Bool.eq_false_iff.mpr text') first
        rw [scan_cons_ok first]
        simp only [Reading.cons, withText_mark mark]

/-- The characters that a row of texts and references stands for, if it consists of these and each reference
    stands for one. -/
def characters? : List Event → Option (List Char)
  | [] => some []
  | .text body :: more => (characters? more).map (body ++ ·)
  | .reference name :: more => do return (← Reference.letter? name).char :: (← characters? more)
  | _ => none

theorem characters?_withText (c : Char) (events : List Event) :
    characters? (withText c events) = (characters? events).map (c :: ·) := by
  match events with
  | .text body :: more =>
    simp only [withText, characters?, Option.map_map]
    rfl
  | [] => rfl
  | .reference name :: more => rfl
  | .opening _ :: _ | .closing _ :: _ | .standalone _ :: _ | .comment _ :: _ | .characterData _ :: _ | .doctype _ :: _
  | .declaration _ :: _ | .instruction _ :: _ => rfl

end DiagramStudio.Markup
