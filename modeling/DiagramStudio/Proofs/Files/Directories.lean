import DiagramStudio.Proofs.Files.Found

/-!
Making directories. All that is new afterwards are directories (`extended_makeDirectories`), at the other places all is
as it was (`keptAt_makeDirectories`), and they are there: making them once more does nothing (`makeDirectories_again`).
-/

namespace DiagramStudio

namespace Text

theorem not_sep_of_mem_pieces {sep : Char → Bool} {s piece : List Char} (member : piece ∈ pieces sep s) :
    ∀ c ∈ piece, sep c = false := by
  induction s generalizing piece with
  | nil =>
    cases List.mem_singleton.mp member
    exact nofun
  | cons c rest ih =>
    rw [pieces] at member
    split at member
    · rcases List.mem_cons.mp member with rfl | later
      · exact nofun
      · exact ih later
    · next other =>
      obtain ⟨first, more, cut⟩ := List.exists_cons_of_ne_nil (pieces_ne_nil sep rest)
      rw [cut] at member ih
      rcases List.mem_cons.mp member with rfl | later
      · intro c' inside
        rcases List.mem_cons.mp inside with rfl | inside
        · simpa using other
        · exact ih List.mem_cons_self c' inside
      · exact ih (List.mem_cons_of_mem _ later)

end Text

namespace Path

/-- A name that leads somewhere, as the steps of a path have it. -/
def IsStep (name : List Char) : Prop := name ≠ [] ∧ ∀ c ∈ name, c ≠ separator

theorem isStep_of_mem_steps {path name : List Char} (member : name ∈ steps path) : IsStep name := by
  obtain ⟨piece, leads⟩ := List.mem_filter.mp member
  refine ⟨?_, fun c inside => ?_⟩
  · rintro rfl
    cases leads
  · have other := Text.not_sep_of_mem_pieces piece c inside
    simpa using other

/-- The path of some steps ends as the last of them does. -/
theorem getLast?_ofSteps (absolute : Bool) (outer : List (List Char)) {name : List Char} (isStep : IsStep name) :
    (ofSteps absolute (outer ++ [name])).getLast? ≠ some separator := by
  have body : ∃ front, [separator].intercalate (outer ++ [name]) = front ++ name := by
    induction outer with
    | nil => exact ⟨[], by simp [List.intercalate]⟩
    | cons first more ih =>
      obtain ⟨front, joined⟩ := ih
      obtain ⟨second, others, same⟩ : ∃ second others, more ++ [name] = second :: others :=
        List.exists_cons_of_ne_nil (by simp)
      rw [same] at joined
      refine ⟨first ++ separator :: front, ?_⟩
      rw [List.cons_append, same]
      simp only [List.intercalate, List.intersperse_cons_cons, List.flatten_cons] at joined ⊢
      rw [joined]
      simp
  obtain ⟨front, joined⟩ := body
  obtain ⟨c, last⟩ : ∃ c, name.getLast? = some c := ⟨_, List.getLast?_eq_some_getLast isStep.1⟩
  have ends : (front ++ name).getLast? = some c := by rw [List.getLast?_append, last, Option.some_or]
  have whole : (ofSteps absolute (outer ++ [name])).getLast? = some c := by
    rw [ofSteps, joined]
    cases absolute with
    | false => exact ends
    | true =>
      simp only [if_true]
      rw [List.getLast?_cons, ends]
      rfl
  rw [whole]
  intro same
  exact isStep.2 c (List.mem_of_getLast? last) (Option.some.inj same)

end Path

namespace Disk

variable {d d' d'' : Disk}

/-- All that is new are things that were made, none of which is a link; what was there is as it was. -/
structure Extended (d d' : Disk) : Prop where
  grown : Grown d d'
  same {place : Place} {content : Content} (at_ : d.at? place = some content) : d'.at? place = some content

theorem Extended.refl (d : Disk) : Extended d d := ⟨.refl d, id⟩

theorem Extended.trans (first : Extended d d') (second : Extended d' d'') : Extended d d'' :=
  ⟨first.grown.trans second.grown, second.same ∘ first.same⟩

theorem LeadsTo.extended {path : List Char} {place : Place} {bytes : List UInt8} (leads : d.LeadsTo path place bytes)
    (extended : Extended d d') : d'.LeadsTo path place bytes := by
  have file := leads.2.2
  exact leads.kept extended.grown ((extended.same file).trans file.symm)

/-- What is made as a directory: its name in a directory, where nothing stood. -/
theorem makeDirectory_cases {path : List Char} (made : d.makeDirectory path = .ok d') :
    ∃ directory name trailing place, pathFault? path = none ∧
      d.targetFrom d.here path = .ok ⟨directory, some name, trailing⟩ ∧ d.child directory name = .ok place ∧
      d.at? place = none ∧ d' = d.add place (d.made .directory) := by
  rw [makeDirectory] at made
  split at made
  · cases made
  · cases made
  next directory name trailing target =>
  split at made
  · cases made
  next place child =>
  split at made
  · cases made
  next missing =>
  split at made
  · cases made
  cases made
  have nothing : d.at? place = none := by simpa using missing
  rw [Disk.target] at target
  split at target
  · cases target
  next sound =>
  exact ⟨directory, name, trailing, place, sound, target, child, nothing,
    by rw [put, numberAt?_eq_none nothing]⟩

theorem extended_makeDirectory {path : List Char} (made : d.makeDirectory path = .ok d') :
    Extended d d' := by
  obtain ⟨_, _, _, place, _, _, _, nothing, rfl⟩ := makeDirectory_cases made
  refine ⟨grown_add nothing nofun, fun {other content} at_ => ?_⟩
  rw [at?_add nothing, if_neg, at_]
  rintro rfl
  rw [nothing] at at_
  cases at_

/-- What is kept whenever a directory is made is kept by making one with those around it. -/
theorem makeSteps_keeps {P : Disk → Prop} (made : ∀ {d d' path}, P d → d.makeDirectory path = .ok d' → P d')
    (absolute : Bool) (steps : List (List Char)) (start : P d) : P (d.makeSteps absolute steps).2 := by
  have settled {d : Disk} (start : P d) (path : List Char) : P (d.settle path (d.makeDirectory path)).2 := by
    rw [settle.eq_def]
    split
    · next made_ => exact made start made_
    · split <;> exact start
  induction steps with
  | nil => exact start
  | cons name outer ih =>
    rw [makeSteps]
    split
    · split
      · next failed =>
        rw [failed] at ih
        exact ih
      · next around =>
        rw [around] at ih
        exact settled ih _
    · exact settled start _

theorem extended_makeDirectories (d : Disk) (path : List Char) : Extended d (d.makeDirectories path).2 :=
  makeSteps_keeps (fun extended made => extended.trans (extended_makeDirectory made)) _ _ (.refl d)

/-- What stands at a place is as it was, or a directory is new there. -/
def KeptAt (d d' : Disk) (place : Place) : Prop :=
  d'.at? place = d.at? place ∨ d.at? place = none ∧ d'.at? place = some .directory

theorem KeptAt.refl (d : Disk) (place : Place) : KeptAt d d place := .inl rfl

theorem KeptAt.trans {place : Place} (first : KeptAt d d' place) (second : KeptAt d' d'' place) :
    KeptAt d d'' place := by
  rcases first with same | ⟨nothing, new⟩
  · rwa [KeptAt, ← same]
  · rcases second with same' | ⟨nothing', _⟩
    · exact .inr ⟨nothing, same'.trans new⟩
    · rw [new] at nothing'
      cases nothing'

/-- What was there is as it was. -/
theorem KeptAt.same {place : Place} {content : Content} (kept : KeptAt d d' place) (at_ : d.at? place = some content) :
    d'.at? place = d.at? place := by
  rcases kept with same | ⟨nothing, _⟩
  · exact same
  · rw [at_] at nothing
    cases nothing

theorem keptAt_makeDirectory {path : List Char} (made : d.makeDirectory path = .ok d')
    (place : Place) : KeptAt d d' place := by
  obtain ⟨_, _, _, goal, _, _, _, nothing, rfl⟩ := makeDirectory_cases made
  rw [KeptAt, at?_add nothing]
  split
  · next here => exact .inr ⟨here ▸ nothing, rfl⟩
  · exact .inl rfl

theorem keptAt_makeDirectories (d : Disk) (path : List Char) (place : Place) :
    KeptAt d (d.makeDirectories path).2 place :=
  makeSteps_keeps (P := fun d' => KeptAt d d' place) (fun kept made => kept.trans (keptAt_makeDirectory made place)) _ _
    (.refl d place)

/-! ## Once more -/

theorem isDirectory_eq_true_iff {path : List Char} :
    d.isDirectory path = true ↔ ∃ place, d.locate path = .ok place ∧ d.isDirectoryAt place = true := by
  rw [isDirectory]
  cases d.locate path <;> simp

theorem isDirectory_grown (grown : Grown d d') {path : List Char} (directory : d.isDirectory path = true) :
    d'.isDirectory path = true := by
  obtain ⟨place, located, isDirectory⟩ := isDirectory_eq_true_iff.mp directory
  exact isDirectory_eq_true_iff.mpr ⟨place, locate_grown grown located, grown.isDirectoryAt isDirectory⟩

/-- A directory is there once it has been made. -/
theorem isDirectory_of_makeDirectory {path : List Char} (ends : path.getLast? ≠ some Path.separator)
    (made : d.makeDirectory path = .ok d') : d'.isDirectory path = true := by
  have grown := (extended_makeDirectory made).grown
  obtain ⟨directory, name, trailing, place, sound, target, child, nothing, rfl⟩ := makeDirectory_cases made
  obtain ⟨outer, gap, names, none, _, isName, walked⟩ := targetFrom_some target
  rw [none ends] at names
  have new : (d.add place (d.made .directory)).at? place = some .directory := by
    rw [at?_add nothing, if_pos rfl]
    rfl
  obtain ⟨links, few, reaches⟩ := exists_reaches walked
  have stepped := (step_eq_ok_iff isName).mpr ⟨grown.child child, by rw [new, Option.isSome_some]⟩
  have plain : ∀ target, (d.add place (d.made .directory)).at? place ≠ some (.link target) := by
    rw [new]
    exact nofun
  have goal := (grown.reaches reaches).append (.step stepped plain .here)
  refine isDirectory_eq_true_iff.mpr ⟨place, ?_, by rw [isDirectoryAt, new, beq_self_eq_true]⟩
  rw [locate, sound]
  simp only [start, grown.here, names]
  exact walk_eq_ok_iff.mpr ⟨links, few, goal⟩

/-- A directory that is there cannot be made. -/
theorem makeDirectory_of_isDirectory {path : List Char} (ends : path.getLast? ≠ some Path.separator)
    (directory : d.isDirectory path = true) : d.makeDirectory path = .error .exists_ := by
  obtain ⟨place, located, _⟩ := isDirectory_eq_true_iff.mp directory
  rw [locate] at located
  split at located
  · cases located
  next sound =>
  have some_ : path ≠ [] := by
    rintro rfl
    cases sound
  obtain ⟨name, last, full⟩ := Text.exists_getLast?_pieces (· == Path.separator) some_
    (fun c member => by
      rw [← Bool.not_eq_true, beq_iff_eq]
      rintro rfl
      exact ends member)
  obtain ⟨outer, names⟩ := List.getLast?_eq_some_iff.mp last
  have names : Path.names path = outer ++ [name] := names
  obtain ⟨links, few, reaches⟩ := exists_reaches located
  obtain ⟨links₁, links₂, middle, sum, first, second⟩ := reaches.split names
  have walked : d.walk linkMax (d.start path) outer = .ok middle :=
    walk_eq_ok_iff.mpr ⟨links₁, by omega, first⟩
  rw [makeDirectory, target, sound]
  simp only
  by_cases special : name = Path.here ∨ name = Path.above
  · -- The path leads to a directory by what it is, not by a name.
    have cut : (Path.names path).reverse.dropWhile (·.isEmpty) = name :: outer.reverse := by
      rw [names, List.reverse_append, List.reverse_singleton, List.singleton_append,
        List.dropWhile_cons_of_neg (by simpa using full)]
    have there : d.walk linkMax (startFrom d.here path) (name :: outer.reverse).reverse = .ok place := by
      rw [List.reverse_cons, List.reverse_reverse, ← names]
      exact located
    simp only [targetFrom, cut, if_pos special, there]
    rfl
  · rw [not_or] at special
    have isName : IsName name := ⟨by simp [Path.isEmptyStep, full, special.1], special.2⟩
    have inside : ∃ next, d.step middle name = .ok next := by
      cases second with
      | step stepped => exact ⟨_, stepped⟩
      | link stepped => exact ⟨_, stepped⟩
    obtain ⟨next, stepped⟩ := inside
    obtain ⟨child, there⟩ := (step_eq_ok_iff isName).mp stepped
    rw [targetFrom_eq names isName walked]
    simp only [child, there, if_true]

theorem settle_of_isDirectory {path : List Char} (directory : d.isDirectory path = true) (fault : SystemFault) :
    d.settle path (.error fault) = (.ok (), d) := if_pos directory

theorem isDirectory_of_settle {path : List Char} {made : Except SystemFault Disk}
    (there : ∀ d', made = .ok d' → d'.isDirectory path = true) (settled : d.settle path made = (.ok (), d')) :
    d'.isDirectory path = true := by
  rw [settle.eq_def] at settled
  split at settled
  · cases settled
    exact there _ rfl
  · split at settled
    · next directory =>
      cases settled
      exact directory
    · cases settled

/-- Making directories that are there does nothing. -/
theorem makeSteps_again {absolute : Bool} {steps : List (List Char)} (isStep : ∀ name ∈ steps, Path.IsStep name)
    (made : d.makeSteps absolute steps = (.ok (), d')) (grown : Grown d' d'') :
    d''.makeSteps absolute steps = (.ok (), d'') := by
  cases steps with
  | nil => rfl
  | cons name outer =>
    have ends : (Path.ofSteps absolute (name :: outer).reverse).getLast? ≠ some Path.separator := by
      rw [List.reverse_cons]
      exact Path.getLast?_ofSteps absolute _ (isStep name List.mem_cons_self)
    have directory : d'.isDirectory (Path.ofSteps absolute (name :: outer).reverse) = true := by
      rw [makeSteps] at made
      split at made
      · split at made
        · cases made
        · exact isDirectory_of_settle (fun _ made => isDirectory_of_makeDirectory ends made) made
      · exact isDirectory_of_settle (fun _ made => isDirectory_of_makeDirectory ends made) made
    have directory := isDirectory_grown grown directory
    rw [makeSteps, makeDirectory_of_isDirectory ends directory]
    exact settle_of_isDirectory directory _

theorem makeDirectories_again {path : List Char} (made : d.makeDirectories path = (.ok (), d'))
    (grown : Grown d' d'') : d''.makeDirectories path = (.ok (), d'') :=
  makeSteps_again (fun _ member => Path.isStep_of_mem_steps (List.mem_reverse.mp member)) made grown

end Disk

end DiagramStudio
