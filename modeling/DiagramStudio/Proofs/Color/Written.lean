import DiagramStudio.Color.Reading
import DiagramStudio.Proofs.Number.Written

/-!
The characters of colors that are written. A color that is read is written with numbers, the words of its
form and the signs between them (`isInk_of_read`): a name is one of a list, and no other text of the color
that is read comes back.
-/

namespace DiagramStudio.Color

open Number

/-- A character that colors are written with. -/
def isInk (c : Char) : Bool := isNumeral c || c == ' ' || c == ',' || c == '/' || c == '(' || c == ')'

/-! ## Writing -/

/-- The text is written with such characters only. -/
def Inked (s : String) : Prop := ∀ c ∈ s.toList, isInk c = true

theorem Inked.append {s t : String} (front : Inked s) (back : Inked t) : Inked (s ++ t) := by
  intro c member
  rw [String.toList_append] at member
  rcases List.mem_append.mp member with member | member
  · exact front c member
  · exact back c member

theorem inked_of_all {s : String} (plain : s.toList.all isInk = true) : Inked s := List.all_eq_true.mp plain

theorem inked_coordinateText (scale : Float32) (x : Coordinate) : Inked (coordinateText scale x) := by
  cases x with
  | none => exact inked_of_all (s := "none") (by decide)
  | some x =>
    intro c member
    rw [coordinateText, String.toList_ofList] at member
    simp [isInk, Single.isNumeral_of_mem_text member]

theorem inked_spaced (c : Coordinates) : Inked (spaced c) := by
  have space : Inked " " := inked_of_all (by decide)
  have opacity : Inked (if c.alpha.getD 0 < 1 then " / " ++ coordinateText 1 c.alpha else "") := by
    split
    · exact .append (inked_of_all (by decide)) (inked_coordinateText 1 c.alpha)
    · exact inked_of_all (by decide)
  exact ((((inked_coordinateText 1 c.first).append space).append (inked_coordinateText 1 c.second)).append space).append
    (inked_coordinateText 1 c.third) |>.append opacity

theorem inked_channelText (c : Coordinates) : Inked (channelText c) := by
  have comma : Inked ", " := inked_of_all (by decide)
  have head : Inked (if c.alpha.getD 0 < 1 then "rgba(" else "rgb(") := by
    split <;> exact inked_of_all (by decide)
  have opacity : Inked (if c.alpha.getD 0 < 1 then ", " ++ coordinateText 1 c.alpha else "") := by
    split
    · exact comma.append (inked_coordinateText 1 c.alpha)
    · exact inked_of_all (by decide)
  have channels := (((head.append (inked_coordinateText 255 c.first)).append comma).append
    (inked_coordinateText 255 c.second)).append comma
  exact ((channels.append (inked_coordinateText 255 c.third)).append opacity).append (inked_of_all (by decide))

/-- If the color has a name, it is one of the list. -/
def IsListed : Color → Prop
  | named name => name ∈ names
  | _ => True

theorem names_inked : ∀ name ∈ names, name.toList.all isInk = true := by decide +kernel

theorem inked_display {color : Color} (listed : color.IsListed) : Inked color.display := by
  cases color with
  | named name => exact inked_of_all (names_inked name listed)
  | channels c => exact inked_channelText c
  | hueSaturation c => exact inked_channelText _
  | hueWhiteness c => exact inked_channelText _
  | perceptual space c =>
    have name : Inked space.name := by cases space <;> exact inked_of_all (by decide)
    exact ((name.append (inked_of_all (by decide))).append (inked_spaced c)).append (inked_of_all (by decide))
  | inSpace space c =>
    have name : Inked space.name := by cases space <;> exact inked_of_all (by decide)
    have head : Inked "color(" := inked_of_all (by decide)
    have space : Inked " " := inked_of_all (by decide)
    exact (((head.append name).append space).append (inked_spaced c)).append (inked_of_all (by decide))

/-! ## Reading -/

namespace Reader

/-- Whatever is read has the property. -/
def Gives {α : Type} (P : α → Prop) (r : Reader α) : Prop := ∀ s a rest, r s = .ok (a, rest) → P a

variable {α β : Type}

theorem gives_bind {P : β → Prop} {r : Reader α} {g : α → Reader β} (gives : ∀ a, (g a).Gives P) :
    Gives P (r >>= g) := by
  intro s b rest read
  rcases first : r s with fault | ⟨a, between⟩
  · simp [bind, StateT.bind, first, Except.bind] at read
  · refine gives a between b rest ?_
    simpa [bind, StateT.bind, first, Except.bind] using read

theorem gives_pure {P : α → Prop} {a : α} (holds : P a) : Gives P (pure a : Reader α) := by
  intro s b rest read
  cases read
  exact holds

theorem gives_throw {P : α → Prop} (fault : ColorFault) : Gives P (throw fault : Reader α) := by
  intro s a rest read
  cases read

theorem gives_map {P : β → Prop} {f : α → β} (holds : ∀ a, P (f a)) (r : Reader α) : Gives P (f <$> r) := by
  rw [← bind_pure_comp]
  exact gives_bind fun a => gives_pure (holds a)

theorem spaceArguments_isListed : Gives IsListed spaceArguments := by
  refine gives_bind fun _ => gives_bind fun s => ?_
  split
  · exact gives_throw _
  · refine gives_bind fun _ => ?_
    split
    · exact gives_throw _
    · exact gives_bind fun _ => gives_bind fun _ => gives_bind fun _ => gives_bind fun _ => gives_pure trivial

theorem functions_isListed : ∀ entry ∈ functions, Gives IsListed entry.2 := by
  simp only [functions, List.forall_mem_cons, List.not_mem_nil, false_imp_iff, implies_true, and_true]
  refine ⟨?_, ?_, ?_, ?_, ?_, ?_, ?_, ?_, ?_, spaceArguments_isListed⟩ <;> exact gives_map (fun _ => trivial) _

theorem wordColor_isListed (word : List Char) : Gives IsListed (wordColor word) := by
  unfold wordColor
  simp only
  split
  · next name arguments found =>
    exact gives_bind fun _ => functions_isListed _ (List.mem_of_find?_eq_some found)
  · split
    · next known => exact gives_pure (show _ ∈ names by simpa using known)
    · exact gives_throw _

end Reader

theorem front_isListed {s rest : List Char} {color : Color} (read : front s = .ok (color, rest)) : color.IsListed := by
  unfold front at read
  split at read
  · simp only at read
    split at read
    · cases read
      trivial
    · cases read
  · split at read
    · next word behind _ => exact Reader.wordColor_isListed word behind color rest read
    · cases read

theorem read_isListed {s : List Char} {color : Color} (read : Color.read s = .ok color) : color.IsListed := by
  unfold Color.read at read
  rcases first : front (Text.trim s) with fault | ⟨found, rest⟩
  · simp [first, bind, Except.bind] at read
  · simp only [first, bind, Except.bind] at read
    split at read
    · cases read
      exact front_isListed first
    · cases read

theorem isInk_of_read {s : List Char} {color : Color} (read : Color.read s = .ok color) {c : Char}
    (member : c ∈ color.display.toList) : isInk c = true :=
  inked_display (read_isListed read) c member

end DiagramStudio.Color
