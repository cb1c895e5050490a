import DiagramStudio.Files.Disk

/-!
Where paths lead. That names lead from one place to another, over links and steps upwards, is a relation without
a limit (`Reaches`); looking them up is that relation, up to the most links on the way (`walk_eq_ok_iff`). Where a
file is to be written is where its path leads, once something is there (`reaches_of_fileFrom`): so a file that was
written is found again, unless there are too many links on the way.
-/

namespace DiagramStudio

namespace Text

/-- The last piece of a text that does not end in a separator is not empty. -/
theorem exists_getLast?_pieces (sep : Char → Bool) {s : List Char} (some_ : s ≠ [])
    (last : ∀ c ∈ s.getLast?, sep c = false) : ∃ piece, (pieces sep s).getLast? = some piece ∧ piece ≠ [] := by
  induction s with
  | nil => exact absurd rfl some_
  | cons c rest ih =>
    cases rest with
    | nil =>
      have whole : sep c = false := last c rfl
      exact ⟨[c], by simp [pieces, whole], List.cons_ne_nil _ _⟩
    | cons d more =>
      obtain ⟨piece, ends, full⟩ := ih (List.cons_ne_nil _ _) (by rwa [List.getLast?_cons_cons] at last)
      obtain ⟨first, others, cut⟩ := List.exists_cons_of_ne_nil (pieces_ne_nil sep (d :: more))
      rw [cut] at ends
      rw [pieces, cut]
      split
      · exact ⟨piece, by rwa [List.getLast?_cons_cons], full⟩
      · cases others with
        | nil => exact ⟨c :: first, rfl, List.cons_ne_nil _ _⟩
        | cons second others => exact ⟨piece, by rwa [List.getLast?_cons_cons] at ends ⊢, full⟩

end Text

namespace Disk

variable {d : Disk}

/-- Names lead from a place to another, over so many links. -/
inductive Reaches (d : Disk) : Nat → Place → List (List Char) → Place → Prop where
  | here {place : Place} : Reaches d 0 place [] place
  | step {links : Nat} {place next goal : Place} {name : List Char} {more : List (List Char)}
    (stepped : d.step place name = .ok next) (plain : ∀ target, d.at? next ≠ some (.link target))
    (behind : Reaches d links next more goal) : Reaches d links place (name :: more) goal
  | link {links : Nat} {place next goal : Place} {name target : List Char} {more : List (List Char)}
    (stepped : d.step place name = .ok next) (isLink : d.at? next = some (.link target))
    (behind : Reaches d links (startFrom place target) (Path.names target ++ more) goal) :
    Reaches d (links + 1) place (name :: more) goal

/-! ## Looking names up -/

theorem walk_nil (links : Nat) (place : Place) : d.walk links place [] = .ok place := by
  cases links <;> rfl

theorem walk_step {place next : Place} {name : List Char} (stepped : d.step place name = .ok next)
    (plain : ∀ target, d.at? next ≠ some (.link target)) (links : Nat) (more : List (List Char)) :
    d.walk links place (name :: more) = d.walk links next more := by
  cases links <;> simp only [walk, walkBy, stepped]

theorem walk_link {place next : Place} {name target : List Char} (stepped : d.step place name = .ok next)
    (isLink : d.at? next = some (.link target)) (links : Nat) (more : List (List Char)) :
    d.walk links place (name :: more) =
      match links with
      | 0 => .error .tooManyLinks
      | links + 1 => d.walk links (startFrom place target) (Path.names target ++ more) := by
  cases links <;> simp only [walk, walkBy, stepped, isLink]

/-- Names that lead somewhere are looked up as far as there are not too many links. -/
theorem Reaches.walk_eq {links : Nat} {place goal : Place} {names : List (List Char)}
    (reaches : d.Reaches links place names goal) (most : Nat) :
    d.walk most place names = if links ≤ most then .ok goal else .error .tooManyLinks := by
  induction reaches generalizing most with
  | here => rw [walk_nil, if_pos (Nat.zero_le _)]
  | step stepped plain _ ih => rw [walk_step stepped plain, ih]
  | link stepped isLink _ ih =>
    rw [walk_link stepped isLink]
    cases most with
    | zero => rfl
    | succ most => simp only [ih, Nat.add_le_add_iff_right]

/-- Names lead where they are followed to, if links do. -/
theorem exists_reaches_of_walkBy {follow : Place → List Char → List (List Char) → Except SystemFault Place}
    {most : Nat} {goal : Place}
    (onward : ∀ {place target more}, follow place target more = .ok goal →
      ∃ links, links + 1 ≤ most ∧ d.Reaches links (startFrom place target) (Path.names target ++ more) goal)
    {place : Place} {names : List (List Char)} (walked : d.walkBy follow place names = .ok goal) :
    ∃ links ≤ most, d.Reaches links place names goal := by
  induction names generalizing place with
  | nil =>
    cases walked
    exact ⟨0, Nat.zero_le _, .here⟩
  | cons name more ih =>
    rw [walkBy] at walked
    split at walked
    · cases walked
    next next stepped =>
    split at walked
    · next target isLink =>
      obtain ⟨links, few, reaches⟩ := onward walked
      exact ⟨links + 1, few, .link stepped isLink reaches⟩
    · next plain =>
      obtain ⟨links, few, reaches⟩ := ih walked
      exact ⟨links, few, .step stepped plain reaches⟩

theorem exists_reaches {most : Nat} {place goal : Place} {names : List (List Char)}
    (walked : d.walk most place names = .ok goal) : ∃ links ≤ most, d.Reaches links place names goal := by
  induction most generalizing place names with
  | zero => exact exists_reaches_of_walkBy (fun followed => by cases followed) walked
  | succ most ih =>
    refine exists_reaches_of_walkBy (fun followed => ?_) walked
    obtain ⟨links, few, reaches⟩ := ih followed
    exact ⟨links, Nat.add_le_add_right few 1, reaches⟩

theorem walk_eq_ok_iff {most : Nat} {place goal : Place} {names : List (List Char)} :
    d.walk most place names = .ok goal ↔ ∃ links ≤ most, d.Reaches links place names goal := by
  refine ⟨exists_reaches, ?_⟩
  rintro ⟨links, few, reaches⟩
  rw [reaches.walk_eq, if_pos few]

/-- Names lead to one place only. -/
theorem Reaches.unique {links links' : Nat} {place goal goal' : Place} {names : List (List Char)}
    (reaches : d.Reaches links place names goal) (reaches' : d.Reaches links' place names goal') : goal = goal' := by
  have one := reaches.walk_eq (max links links')
  rw [reaches'.walk_eq, if_pos (Nat.le_max_left ..), if_pos (Nat.le_max_right ..)] at one
  exact (Except.ok.inj one).symm

/-! ## Names in front of others -/

theorem Reaches.append {links links' : Nat} {place middle goal : Place} {front back : List (List Char)}
    (first : d.Reaches links place front middle) (second : d.Reaches links' middle back goal) :
    d.Reaches (links + links') place (front ++ back) goal := by
  induction first with
  | here => rwa [Nat.zero_add]
  | step stepped plain _ ih => exact .step stepped plain (ih second)
  | @link links place next goal name target more stepped isLink _ ih =>
    have behind := ih second
    rw [List.append_assoc] at behind
    rw [Nat.succ_add]
    exact .link stepped isLink behind

theorem Reaches.split {links : Nat} {place goal : Place} {names front back : List (List Char)}
    (reaches : d.Reaches links place names goal) (same : names = front ++ back) :
    ∃ links₁ links₂ middle, links = links₁ + links₂ ∧ d.Reaches links₁ place front middle ∧
      d.Reaches links₂ middle back goal := by
  induction reaches generalizing front with
  | here =>
    obtain ⟨rfl, rfl⟩ := List.append_eq_nil_iff.mp same.symm
    exact ⟨0, 0, _, rfl, .here, .here⟩
  | @step links _ _ _ _ _ stepped plain behind ih =>
    cases front with
    | nil =>
      subst same
      exact ⟨0, links, _, (Nat.zero_add links).symm, .here, .step stepped plain behind⟩
    | cons name front =>
      obtain ⟨rfl, rfl⟩ := List.cons.inj same
      obtain ⟨links₁, links₂, middle, sum, first, second⟩ := ih rfl
      exact ⟨links₁, links₂, middle, sum, .step stepped plain first, second⟩
  | @link links _ _ _ _ _ _ stepped isLink behind ih =>
    cases front with
    | nil =>
      subst same
      exact ⟨0, links + 1, _, (Nat.zero_add _).symm, .here, .link stepped isLink behind⟩
    | cons name front =>
      obtain ⟨rfl, rfl⟩ := List.cons.inj same
      obtain ⟨links₁, links₂, middle, sum, first, second⟩ := ih (List.append_assoc ..).symm
      exact ⟨links₁ + 1, links₂, middle, by omega, .link stepped isLink first, second⟩

end Disk

end DiagramStudio
