import DiagramStudio.Markup.Cleaning
import DiagramStudio.Proofs.Markup.Forest

/-!
Cleaning is filtering a forest. The one pass over the events, which counts the elements that stay and
those that go, gives what a definition by recursion gives: scripts go with all they hold, what is left
must be one drawing whose attributes can be read and whose references need no declaration, and its tags
are written anew (`cleanEvents_eq_ok_iff`).
-/

namespace DiagramStudio.Markup

/-! ## The filter -/

namespace Tag

/-- The attributes can be read, and none is there twice. -/
def HasAttributes (tag : Tag) : Prop := ∃ attributes, tag.attributes = .ok attributes

/-- The attributes that are written for those of a tag: without those that run programs, and at the root
    with the namespace of drawings. Of attributes that cannot be read none is written. -/
def writtenAttributes (isRoot : Bool) (tag : Tag) : List Attribute :=
  match tag.attributes with
  | .ok attributes => if isRoot then Attribute.safeAtRoot attributes else Attribute.safe attributes
  | .error _ => []

/-- The tag with the attributes that are written. -/
def rewritten (isRoot : Bool) (tag : Tag) : Tag :=
  .ofAttributes tag.name (tag.writtenAttributes isRoot)

end Tag

namespace Event

/-- Document types and instructions, which are not written. -/
def isDropped : Event → Bool
  | doctype _ | instruction _ => true
  | _ => false

/-- The event is not a reference that needs a declaration. -/
def isDeclared : Event → Bool
  | reference name => isSafeReference name
  | _ => true

/-- The event if it is written. -/
def kept? (e : Event) : Option Event :=
  if e.isDropped then none else some e

end Event

namespace Forest

/-- The forest without the elements that are scripts and what they hold. -/
def withoutScripts : Forest → Forest
  | empty => empty
  | element tag content rest =>
    if tag.isScript then rest.withoutScripts else element tag content.withoutScripts rest.withoutScripts
  | standalone tag rest => if tag.isScript then rest.withoutScripts else standalone tag rest.withoutScripts
  | leaf e isLeaf rest => leaf e isLeaf rest.withoutScripts

/-- The forest as it is written: tags with the attributes that are kept, document types and instructions
    left out. The elements in no other are roots if `isRoot` says so. -/
def rewritten (isRoot : Bool) : Forest → Forest
  | empty => empty
  | element tag content rest =>
    element (tag.rewritten isRoot) (content.rewritten false) (rest.rewritten isRoot)
  | standalone tag rest => standalone (tag.rewritten isRoot) (rest.rewritten isRoot)
  | leaf e isLeaf rest => if e.isDropped then rest.rewritten isRoot else leaf e isLeaf (rest.rewritten isRoot)

theorem events_rewritten_element (isRoot : Bool) (tag : Tag) (content rest : Forest) :
    ((element tag content rest).rewritten isRoot).events =
      .opening (tag.rewritten isRoot) ::
        ((content.rewritten false).events ++ .closing tag.name :: (rest.rewritten isRoot).events) := by
  rfl

theorem events_rewritten_leaf (isRoot : Bool) (e : Event) (isLeaf : e.isLeaf = true) (rest : Forest) :
    ((leaf e isLeaf rest).rewritten isRoot).events = e.kept?.toList ++ (rest.rewritten isRoot).events := by
  rw [rewritten, Event.kept?]
  split <;> rfl

/-- All attributes can be read, and no reference needs a declaration. -/
structure Sound (f : Forest) : Prop where
  attributes : ∀ tag ∈ f.tags, tag.HasAttributes
  references : ∀ name ∈ f.references, isSafeReference name = true

theorem sound_empty : Sound empty := ⟨nofun, nofun⟩

theorem sound_element (tag : Tag) (content rest : Forest) :
    (element tag content rest).Sound ↔ tag.HasAttributes ∧ content.Sound ∧ rest.Sound := by
  constructor
  · rintro ⟨attributes, references⟩
    simp only [tags, List.mem_cons, List.mem_append] at attributes
    simp only [Forest.references, List.mem_append] at references
    exact ⟨attributes tag (.inl rfl),
      ⟨fun t member => attributes t (.inr (.inl member)), fun n member => references n (.inl member)⟩,
      ⟨fun t member => attributes t (.inr (.inr member)), fun n member => references n (.inr member)⟩⟩
  · rintro ⟨own, inside, behind⟩
    constructor
    · intro t member
      simp only [tags, List.mem_cons, List.mem_append] at member
      rcases member with rfl | member | member
      · exact own
      · exact inside.attributes t member
      · exact behind.attributes t member
    · intro n member
      rcases List.mem_append.mp member with member | member
      · exact inside.references n member
      · exact behind.references n member

theorem sound_standalone (tag : Tag) (rest : Forest) :
    (standalone tag rest).Sound ↔ tag.HasAttributes ∧ rest.Sound := by
  constructor
  · rintro ⟨attributes, references⟩
    simp only [tags, List.mem_cons] at attributes
    exact ⟨attributes tag (.inl rfl), ⟨fun t member => attributes t (.inr member), references⟩⟩
  · rintro ⟨own, behind⟩
    refine ⟨?_, behind.references⟩
    intro t member
    rcases List.mem_cons.mp member with rfl | member
    · exact own
    · exact behind.attributes t member

theorem sound_leaf (e : Event) (isLeaf : e.isLeaf = true) (rest : Forest) :
    (leaf e isLeaf rest).Sound ↔ e.isDeclared = true ∧ rest.Sound := by
  cases e with
  | reference name =>
    constructor
    · rintro ⟨attributes, references⟩
      simp only [Forest.references, List.mem_cons] at references
      exact ⟨references name (.inl rfl), ⟨attributes, fun n member => references n (.inr member)⟩⟩
    · rintro ⟨own, behind⟩
      refine ⟨behind.attributes, ?_⟩
      intro n member
      rcases List.mem_cons.mp member with rfl | member
      · exact own
      · exact behind.references n member
  | _ =>
    constructor
    · rintro ⟨attributes, references⟩
      exact ⟨rfl, attributes, references⟩
    · rintro ⟨_, attributes, references⟩
      exact ⟨attributes, references⟩

end Forest

/-! ## One pass over the events of a forest -/

namespace Cleaning

/-- There is room for the elements of a row where `depth` elements are open around it: at the top only for
    one drawing, and only if the root has not been seen. -/
def Fits (depth : Nat) (rooted : Bool) : List Tag → Prop
  | [] => True
  | tag :: more => (depth = 0 → rooted = false ∧ tag.isDrawing = true) ∧ Fits depth true more

theorem fits_of_pos {depth : Nat} (inside : 0 < depth) (rooted : Bool) (tags : List Tag) :
    Fits depth rooted tags := by
  induction tags generalizing rooted with
  | nil => trivial
  | cons tag more ih => exact ⟨fun top => absurd top (Nat.pos_iff_ne_zero.mp inside), ih true⟩

/-- What becomes of the tag of an element that stays. -/
theorem element_eq_ok_iff (depth : Nat) (rooted : Bool) (tag tag' : Tag) :
    element ⟨depth, 0, rooted⟩ tag = .ok tag' ↔
      (depth = 0 → rooted = false ∧ tag.isDrawing = true) ∧ tag.HasAttributes ∧
        tag' = tag.rewritten (depth == 0) := by
  unfold element Tag.HasAttributes Tag.rewritten Tag.writtenAttributes
  cases depth with
  | zero =>
    cases rooted <;> cases tag.isDrawing <;> cases tag.attributes <;>
      simp [pure, Except.pure, throw, throwThe, MonadExceptOf.throw]
    exact ⟨Eq.symm, Eq.symm⟩
  | succ depth =>
    cases tag.attributes <;>
      simp [pure, Except.pure, throw, throwThe, MonadExceptOf.throw]
    exact ⟨Eq.symm, Eq.symm⟩

theorem run_cons_eq_ok_iff {p p' : Progress} {e : Event} {more written : List Event} :
    run p (e :: more) = .ok (p', written) ↔
      ∃ q first later, step p e = .ok (q, first) ∧ run q more = .ok (p', later) ∧
        written = first.toList ++ later := by
  simp only [run, bind, Except.bind, pure, Except.pure]
  constructor
  · intro ran
    split at ran
    · cases ran
    · next stepped =>
      split at ran
      · cases ran
      · next later =>
        cases ran
        exact ⟨_, _, _, stepped, later, rfl⟩
  · rintro ⟨q, first, later, stepped, ran, rfl⟩
    simp only [stepped, ran]

theorem run_append_eq_ok_iff {p p' : Progress} {front back written : List Event} :
    run p (front ++ back) = .ok (p', written) ↔
      ∃ q first later, run p front = .ok (q, first) ∧ run q back = .ok (p', later) ∧
        written = first ++ later := by
  induction front generalizing p written with
  | nil =>
    constructor
    · intro ran
      exact ⟨p, [], written, rfl, ran, rfl⟩
    · rintro ⟨q, first, later, ran, ran', rfl⟩
      cases ran
      exact ran'
  | cons e more ih =>
    simp only [List.cons_append, run_cons_eq_ok_iff, ih]
    constructor
    · rintro ⟨q, first, _, stepped, ⟨q', second, later, ran, ran', rfl⟩, rfl⟩
      exact ⟨q', _, later, ⟨q, first, second, stepped, ran, rfl⟩, ran', by rw [List.append_assoc]⟩
    · rintro ⟨q', _, later, ⟨q, first, second, stepped, ran, rfl⟩, ran', rfl⟩
      exact ⟨q, first, _, stepped, ⟨q', second, later, ran, ran', rfl⟩, by rw [List.append_assoc]⟩

/-- Inside a script nothing is looked at and nothing written, and the script is as deep behind a forest as
    in front of it. -/
theorem run_dropping (f : Forest) (depth dropping : Nat) (rooted : Bool) :
    run ⟨depth, dropping + 1, rooted⟩ f.events = .ok (⟨depth, dropping + 1, rooted⟩, []) := by
  induction f generalizing dropping with
  | empty => rfl
  | element tag content rest ihContent ihRest =>
    rw [Forest.events, run_cons_eq_ok_iff]
    refine ⟨⟨depth, dropping + 2, rooted⟩, none, [], rfl, ?_, rfl⟩
    rw [run_append_eq_ok_iff]
    refine ⟨_, _, [], ihContent (dropping + 1), ?_, rfl⟩
    rw [run_cons_eq_ok_iff]
    exact ⟨⟨depth, dropping + 1, rooted⟩, none, [], rfl, ihRest dropping, rfl⟩
  | standalone tag rest ih =>
    rw [Forest.events, run_cons_eq_ok_iff]
    exact ⟨⟨depth, dropping + 1, rooted⟩, none, [], rfl, ih dropping, rfl⟩
  | leaf e isLeaf rest ih =>
    rw [Forest.events, run_cons_eq_ok_iff]
    refine ⟨⟨depth, dropping + 1, rooted⟩, none, [], ?_, ih dropping, rfl⟩
    cases e <;> first | rfl | cases isLeaf

/-- An element that stays is written if it fits and its attributes can be read. -/
theorem map_element_eq_ok_iff (depth : Nat) (rooted : Bool) (tag : Tag) (behind q : Progress)
    (written : Tag → Event) (first : Option Event) :
    ((element ⟨depth, 0, rooted⟩ tag).map fun tag => (behind, some (written tag))) = .ok (q, first) ↔
      (depth = 0 → rooted = false ∧ tag.isDrawing = true) ∧ tag.HasAttributes ∧
        q = behind ∧ first = some (written (tag.rewritten (depth == 0))) := by
  constructor
  · intro stepped
    cases cleaned : element ⟨depth, 0, rooted⟩ tag with
    | error fault => rw [cleaned] at stepped; cases stepped
    | ok tag' =>
      rw [cleaned] at stepped
      cases stepped
      obtain ⟨fits, read, rfl⟩ := (element_eq_ok_iff depth rooted tag tag').mp cleaned
      exact ⟨fits, read, rfl, rfl⟩
  · rintro ⟨fits, read, rfl, rfl⟩
    rw [(element_eq_ok_iff depth rooted tag _).mpr ⟨fits, read, rfl⟩]
    rfl

theorem step_opening_eq_ok_iff {tag : Tag} (stays : tag.isScript = false) (depth : Nat) (rooted : Bool)
    (q : Progress) (first : Option Event) :
    step ⟨depth, 0, rooted⟩ (.opening tag) = .ok (q, first) ↔
      (depth = 0 → rooted = false ∧ tag.isDrawing = true) ∧ tag.HasAttributes ∧
        q = ⟨depth + 1, 0, true⟩ ∧ first = some (.opening (tag.rewritten (depth == 0))) := by
  rw [← map_element_eq_ok_iff depth rooted tag]
  simp only [step, Nat.lt_irrefl, if_false, stays, Bool.false_eq_true]
  cases element ⟨depth, 0, rooted⟩ tag <;> rfl

/-- An element without content stays on the same terms, and nothing is open behind it. -/
theorem step_standalone_eq_ok_iff {tag : Tag} (stays : tag.isScript = false) (depth : Nat) (rooted : Bool)
    (q : Progress) (first : Option Event) :
    step ⟨depth, 0, rooted⟩ (.standalone tag) = .ok (q, first) ↔
      (depth = 0 → rooted = false ∧ tag.isDrawing = true) ∧ tag.HasAttributes ∧
        q = ⟨depth, 0, true⟩ ∧ first = some (.standalone (tag.rewritten (depth == 0))) := by
  rw [← map_element_eq_ok_iff depth rooted tag]
  simp only [step, Nat.lt_irrefl, if_false, stays, Bool.false_eq_true]
  cases element ⟨depth, 0, rooted⟩ tag <;> rfl

/-- What is neither the beginning nor the end of an element moves no counter. -/
theorem step_leaf_eq_ok_iff {e : Event} (isLeaf : e.isLeaf = true) (depth : Nat) (rooted : Bool)
    (q : Progress) (first : Option Event) :
    step ⟨depth, 0, rooted⟩ e = .ok (q, first) ↔
      e.isDeclared = true ∧ q = ⟨depth, 0, rooted⟩ ∧ first = e.kept? := by
  cases e with
  | reference name =>
    by_cases safe : isSafeReference name
    · have passed : step ⟨depth, 0, rooted⟩ (.reference name) =
          .ok (⟨depth, 0, rooted⟩, some (.reference name)) := by simp [step, safe]
      rw [passed]
      constructor
      · intro stepped
        cases stepped
        exact ⟨safe, rfl, rfl⟩
      · rintro ⟨_, rfl, rfl⟩
        rfl
    · constructor
      · intro stepped
        simp [step, safe] at stepped
      · rintro ⟨safe', _⟩
        exact absurd safe' safe
  | opening tag => cases isLeaf
  | closing name => cases isLeaf
  | standalone tag => cases isLeaf
  | _ =>
    constructor
    · intro stepped
      cases stepped
      exact ⟨rfl, rfl, rfl⟩
    · rintro ⟨_, rfl, rfl⟩
      rfl

/-- Nothing of a script stays, and cleaning goes on behind it as it came to it. -/
theorem run_script {tag : Tag} (isScript : tag.isScript = true) (content : Forest) (depth : Nat)
    (rooted : Bool) (p' : Progress) (more written : List Event) :
    run ⟨depth, 0, rooted⟩ (.opening tag :: (content.events ++ .closing tag.name :: more)) = .ok (p', written) ↔
      run ⟨depth, 0, rooted⟩ more = .ok (p', written) := by
  have opened : step ⟨depth, 0, rooted⟩ (.opening tag) = .ok (⟨depth, 1, rooted⟩, none) := by
    simp [step, isScript]
  have closed : step ⟨depth, 1, rooted⟩ (.closing tag.name) = .ok (⟨depth, 0, rooted⟩, none) := rfl
  have inside := run_dropping content depth 0 rooted
  rw [run_cons_eq_ok_iff]
  constructor
  · rintro ⟨q, first, later, opened', ran, rfl⟩
    cases opened.symm.trans opened'
    obtain ⟨q', first', later', inside', behind, rfl⟩ := run_append_eq_ok_iff.mp ran
    cases inside.symm.trans inside'
    obtain ⟨q'', first'', later'', closed', ran', rfl⟩ := run_cons_eq_ok_iff.mp behind
    cases closed.symm.trans closed'
    exact ran'
  · intro ran
    have behind : run ⟨depth, 1, rooted⟩ (.closing tag.name :: more) = .ok (p', written) :=
      run_cons_eq_ok_iff.mpr ⟨_, none, written, closed, ran, rfl⟩
    exact ⟨_, none, written, opened, run_append_eq_ok_iff.mpr ⟨_, [], written, inside, behind, rfl⟩, rfl⟩

/-- Cleaning is run on the events of a forest just where what is left of it without scripts fits and is
    sound, and writes just that. -/
theorem run_events_eq_ok_iff (f : Forest) (depth : Nat) (rooted : Bool) (p' : Progress)
    (written : List Event) :
    run ⟨depth, 0, rooted⟩ f.events = .ok (p', written) ↔
      Fits depth rooted f.withoutScripts.topTags ∧ f.withoutScripts.Sound ∧
        p' = ⟨depth, 0, rooted || !f.withoutScripts.topTags.isEmpty⟩ ∧
        written = (f.withoutScripts.rewritten (depth == 0)).events := by
  induction f generalizing depth rooted p' written with
  | empty =>
    constructor
    · intro ran
      cases ran
      exact ⟨trivial, Forest.sound_empty, by simp [Forest.withoutScripts, Forest.topTags], rfl⟩
    · rintro ⟨_, _, rfl, rfl⟩
      simp [Forest.withoutScripts, Forest.topTags, Forest.rewritten, Forest.events, run]
  | element tag content rest ihContent ihRest =>
    rw [Forest.events, Forest.withoutScripts]
    by_cases isScript : tag.isScript
    · rw [run_script isScript, if_pos isScript]
      exact ihRest depth rooted p' written
    · have stays : tag.isScript = false := Bool.eq_false_iff.mpr isScript
      have closed : step ⟨depth + 1, 0, true⟩ (.closing tag.name) =
          .ok (⟨depth, 0, true⟩, some (.closing tag.name)) := by simp [step]
      have inner : (depth + 1 == 0) = false := rfl
      rw [if_neg isScript, run_cons_eq_ok_iff, Forest.sound_element]
      constructor
      · rintro ⟨q, first, later, opened, ran, rfl⟩
        obtain ⟨fits, read, rfl, rfl⟩ := (step_opening_eq_ok_iff stays depth rooted q first).mp opened
        obtain ⟨q', inner, later', inside, behind, rfl⟩ := run_append_eq_ok_iff.mp ran
        obtain ⟨_, soundContent, rfl, rfl⟩ := (ihContent (depth + 1) true q' inner).mp inside
        obtain ⟨q'', first, outer, closed', ran', rfl⟩ := run_cons_eq_ok_iff.mp behind
        cases closed.symm.trans closed'
        obtain ⟨fitsRest, soundRest, rfl, rfl⟩ := (ihRest depth true p' outer).mp ran'
        refine ⟨⟨fits, fitsRest⟩, ⟨read, soundContent, soundRest⟩, by simp [Forest.topTags], ?_⟩
        rw [inner, Forest.events_rewritten_element]
        rfl
      · rintro ⟨⟨fits, fitsRest⟩, ⟨read, soundContent, soundRest⟩, rfl, rfl⟩
        have opened := (step_opening_eq_ok_iff stays depth rooted _ _).mpr ⟨fits, read, rfl, rfl⟩
        have inside := (ihContent (depth + 1) true _ _).mpr
          ⟨fits_of_pos (Nat.succ_pos depth) _ _, soundContent, rfl, rfl⟩
        have ran := (ihRest depth true _ _).mpr ⟨fitsRest, soundRest, rfl, rfl⟩
        have behind := run_cons_eq_ok_iff.mpr ⟨_, _, _, closed, ran, rfl⟩
        rw [Bool.true_or, inner] at inside
        rw [Bool.true_or] at behind
        have seen : (rooted || !(Forest.element tag content.withoutScripts rest.withoutScripts).topTags.isEmpty) =
            true := by simp [Forest.topTags]
        rw [Forest.events_rewritten_element, seen]
        exact ⟨_, _, _, opened, run_append_eq_ok_iff.mpr ⟨_, _, _, inside, behind, rfl⟩, rfl⟩
  | standalone tag rest ih =>
    rw [Forest.events, Forest.withoutScripts, run_cons_eq_ok_iff]
    by_cases isScript : tag.isScript
    · have passed : step ⟨depth, 0, rooted⟩ (.standalone tag) = .ok (⟨depth, 0, rooted⟩, none) := by
        simp [step, isScript]
      rw [if_pos isScript, ← ih]
      constructor
      · rintro ⟨q, first, later, passed', ran, rfl⟩
        cases passed.symm.trans passed'
        exact ran
      · intro ran
        exact ⟨_, none, written, passed, ran, rfl⟩
    · have stays : tag.isScript = false := Bool.eq_false_iff.mpr isScript
      rw [if_neg isScript, Forest.sound_standalone]
      constructor
      · rintro ⟨q, first, later, passed, ran, rfl⟩
        obtain ⟨fits, read, rfl, rfl⟩ := (step_standalone_eq_ok_iff stays depth rooted q first).mp passed
        obtain ⟨fitsRest, sound, rfl, rfl⟩ := (ih depth true p' later).mp ran
        exact ⟨⟨fits, fitsRest⟩, ⟨read, sound⟩, by simp [Forest.topTags], rfl⟩
      · rintro ⟨⟨fits, fitsRest⟩, ⟨read, sound⟩, rfl, rfl⟩
        have passed := (step_standalone_eq_ok_iff stays depth rooted _ _).mpr ⟨fits, read, rfl, rfl⟩
        have ran := (ih depth true _ _).mpr ⟨fitsRest, sound, rfl, rfl⟩
        refine ⟨_, _, _, passed, ?_, rfl⟩
        simpa [Forest.topTags] using ran
  | leaf e isLeaf rest ih =>
    rw [Forest.events, Forest.withoutScripts, run_cons_eq_ok_iff, Forest.sound_leaf, Forest.events_rewritten_leaf]
    constructor
    · rintro ⟨q, first, later, passed, ran, rfl⟩
      obtain ⟨declared, rfl, rfl⟩ := (step_leaf_eq_ok_iff isLeaf depth rooted q first).mp passed
      obtain ⟨fits, sound, rfl, rfl⟩ := (ih depth rooted p' later).mp ran
      exact ⟨fits, ⟨declared, sound⟩, rfl, rfl⟩
    · rintro ⟨fits, ⟨declared, sound⟩, rfl, rfl⟩
      have passed := (step_leaf_eq_ok_iff isLeaf depth rooted _ _).mpr ⟨declared, rfl, rfl⟩
      exact ⟨_, _, _, passed, (ih depth rooted _ _).mpr ⟨fits, sound, rfl, rfl⟩, rfl⟩

/-- As many elements are counted as are open, whether they stay or go. -/
theorem step_counts {p p' : Progress} {e : Event} {first : Option Event} {open_ rest : List (List Char)}
    (stepped : step p e = .ok (p', first)) (matched : openBehind? open_ [e] = some rest)
    (counted : p.depth + p.dropping = open_.length) : p'.depth + p'.dropping = rest.length := by
  obtain ⟨depth, dropping, rooted⟩ := p
  have leaf (isLeaf : e.isLeaf = true) : rest = open_ := by
    rw [openBehind?_leaf isLeaf] at matched
    cases matched
    rfl
  cases dropping with
  | zero =>
    cases e with
    | opening tag =>
      cases matched
      by_cases isScript : tag.isScript
      · simp only [step, Nat.lt_irrefl, if_false, isScript, if_true] at stepped
        cases stepped
        simpa using counted
      · obtain ⟨_, _, rfl, _⟩ := (step_opening_eq_ok_iff (Bool.eq_false_iff.mpr isScript) _ _ _ _).mp stepped
        simpa using counted
    | closing name =>
      obtain ⟨outer, rfl, closed⟩ := openBehind?_closing_some matched
      cases closed
      cases stepped
      simp only [List.length_cons] at counted ⊢
      omega
    | standalone tag =>
      cases matched
      by_cases isScript : tag.isScript
      · simp only [step, Nat.lt_irrefl, if_false, isScript, if_true] at stepped
        cases stepped
        exact counted
      · obtain ⟨_, _, rfl, _⟩ := (step_standalone_eq_ok_iff (Bool.eq_false_iff.mpr isScript) _ _ _ _).mp stepped
        exact counted
    | _ =>
      obtain ⟨_, rfl, _⟩ := (step_leaf_eq_ok_iff rfl _ _ _ _).mp stepped
      rw [leaf rfl]
      exact counted
  | succ dropping =>
    cases e with
    | opening tag =>
      cases matched
      cases stepped
      simp only [List.length_cons] at counted ⊢
      omega
    | closing name =>
      obtain ⟨outer, rfl, closed⟩ := openBehind?_closing_some matched
      cases closed
      cases stepped
      simp only [List.length_cons] at counted ⊢
      omega
    | standalone tag =>
      cases matched
      cases stepped
      exact counted
    | _ =>
      cases stepped
      rw [leaf rfl]
      exact counted

theorem run_counts {p p' : Progress} {events written : List Event} {open_ rest : List (List Char)}
    (ran : run p events = .ok (p', written)) (matched : openBehind? open_ events = some rest)
    (counted : p.depth + p.dropping = open_.length) : p'.depth + p'.dropping = rest.length := by
  induction events generalizing p written open_ with
  | nil =>
    cases ran
    cases matched
    exact counted
  | cons e more ih =>
    obtain ⟨q, first, later, stepped, ran', rfl⟩ := run_cons_eq_ok_iff.mp ran
    obtain ⟨inner, opened, matched'⟩ := openBehind?_cons_some matched
    exact ih ran' matched' (step_counts stepped opened counted)

/-- A row of tags fits at the top and is not empty just where it is that of one drawing. -/
theorem fits_top_iff (tags : List Tag) :
    (Fits 0 false tags ∧ tags.isEmpty = false) ↔ ∃ root, tags = [root] ∧ root.isDrawing = true := by
  constructor
  · rintro ⟨fits, some_⟩
    match tags, fits, some_ with
    | [root], ⟨first, _⟩, _ => exact ⟨root, rfl, (first rfl).2⟩
    | _ :: _ :: _, ⟨_, second, _⟩, _ => cases (second rfl).1
  · rintro ⟨root, rfl, isDrawing⟩
    exact ⟨⟨fun _ => ⟨rfl, isDrawing⟩, trivial⟩, rfl⟩

end Cleaning

/-! ## The whole document -/

/-- What a forest must be to be cleaned, and to what: without scripts it is one drawing, which is sound. -/
def Forest.CleansTo (f : Forest) (written : List Event) : Prop :=
  (∃ root, f.withoutScripts.topTags = [root] ∧ root.isDrawing = true) ∧ f.withoutScripts.Sound ∧
    written = (f.withoutScripts.rewritten true).events

/-- A document is cleaned where reading met no fault and cleaning came to the end of all elements, past
    the root. -/
theorem cleanEvents_eq_ok_iff_run (s : List Char) (written : List Event) :
    cleanEvents s = .ok written ↔
      (read s).fault = none ∧ Cleaning.run Cleaning.start (read s).events = .ok (⟨0, 0, true⟩, written) := by
  simp only [cleanEvents, bind, Except.bind]
  cases ran : Cleaning.run Cleaning.start (read s).events with
  | error fault => exact ⟨nofun, nofun⟩
  | ok behind =>
    obtain ⟨⟨depth, dropping, rooted⟩, events⟩ := behind
    cases (read s).fault with
    | some fault => exact ⟨nofun, nofun⟩
    | none =>
      simp only [throw, throwThe, MonadExceptOf.throw, pure, Except.pure]
      by_cases closed : 0 < depth ∨ 0 < dropping
      · rw [if_pos closed]
        refine ⟨nofun, ?_⟩
        rintro ⟨_, same⟩
        cases same
        simp at closed
      · obtain ⟨rfl, rfl⟩ : depth = 0 ∧ dropping = 0 := by omega
        rw [if_neg closed]
        cases rooted with
        | false => exact ⟨nofun, nofun⟩
        | true => simp

theorem cleanEvents_eq_ok_iff (s : List Char) (written : List Event) :
    cleanEvents s = .ok written ↔
      (read s).fault = none ∧ ∃ f : Forest, f.events = (read s).events ∧ f.CleansTo written := by
  rw [cleanEvents_eq_ok_iff_run]
  refine and_congr_right fun none_ => ?_
  constructor
  · intro ran
    -- No element is counted at the end, so none is open there.
    obtain ⟨rest, matched⟩ := Option.isSome_iff_exists.mp (openBehind?_nest _ [] _)
    have counts := Cleaning.run_counts ran matched rfl
    have closed : rest = [] := List.eq_nil_of_length_eq_zero counts.symm
    rw [closed] at matched
    obtain ⟨f, same⟩ := (exists_forest_iff _).mpr matched
    have ran' : Cleaning.run Cleaning.start f.events = .ok (⟨0, 0, true⟩, written) := same ▸ ran
    obtain ⟨fits, sound, seen, rfl⟩ := (Cleaning.run_events_eq_ok_iff f 0 false _ _).mp ran'
    have some_ : f.withoutScripts.topTags.isEmpty = false := by simpa using seen
    exact ⟨f, same, (Cleaning.fits_top_iff _).mp ⟨fits, some_⟩, sound, rfl⟩
  · rintro ⟨f, same, top, sound, rfl⟩
    obtain ⟨fits, some_⟩ := (Cleaning.fits_top_iff _).mpr top
    rw [← same]
    refine (Cleaning.run_events_eq_ok_iff f 0 false _ _).mpr ⟨fits, sound, ?_, rfl⟩
    rw [some_]
    rfl

theorem clean_eq_ok_iff_cleanEvents (s out : List Char) :
    clean s = .ok out ↔ ∃ written, cleanEvents s = .ok written ∧ out = render written := by
  unfold clean
  cases cleanEvents s with
  | error fault => exact ⟨nofun, nofun⟩
  | ok written =>
    constructor
    · intro same
      cases same
      exact ⟨written, rfl, rfl⟩
    · rintro ⟨_, same, rfl⟩
      cases same
      rfl

/-- Cleaning is the filter: there is a cleaned document just where the text is read without a fault, all
    elements are closed, and the forest of the events can be cleaned; and it is the text of what the
    forest is cleaned to. -/
theorem clean_eq_ok_iff (s out : List Char) :
    clean s = .ok out ↔
      (read s).fault = none ∧ ∃ f : Forest, f.events = (read s).events ∧
        (∃ root, f.withoutScripts.topTags = [root] ∧ root.isDrawing = true) ∧
        (∀ tag ∈ f.withoutScripts.tags, ∃ attributes, tag.attributes = .ok attributes) ∧
        (∀ name ∈ f.withoutScripts.references, isSafeReference name = true) ∧
        out = render (f.withoutScripts.rewritten true).events := by
  rw [clean_eq_ok_iff_cleanEvents]
  constructor
  · rintro ⟨written, cleaned, rfl⟩
    obtain ⟨none_, f, same, top, sound, rfl⟩ := (cleanEvents_eq_ok_iff s written).mp cleaned
    exact ⟨none_, f, same, top, sound.attributes, sound.references, rfl⟩
  · rintro ⟨none_, f, same, top, attributes, references, rfl⟩
    exact ⟨_, (cleanEvents_eq_ok_iff s _).mpr ⟨none_, f, same, top, ⟨attributes, references⟩, rfl⟩, rfl⟩

end DiagramStudio.Markup
