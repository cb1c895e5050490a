import DiagramStudio.Markup.Reading

/-!
Documents as forests. A row of events in which every element is closed again is that of exactly one
forest (`exists_forest_iff`, `events_injective`), and every element closes under the name under which it
was opened, since the reader lets nothing else through.
-/

namespace DiagramStudio.Markup

/-- The event neither opens nor closes an element. -/
def Event.isLeaf : Event → Bool
  | .opening _ | .closing _ | .standalone _ => false
  | _ => true

/-- What stands in a row at one depth of a document. An element is followed by the forest that it holds
    and by the forest behind it. -/
inductive Forest where
  | empty
  | element (tag : Tag) (content rest : Forest)
  | standalone (tag : Tag) (rest : Forest)
  | leaf (e : Event) (isLeaf : e.isLeaf = true) (rest : Forest)

namespace Forest

/-- The events by which a forest is written. -/
def events : Forest → List Event
  | empty => []
  | element tag content rest => .opening tag :: (content.events ++ .closing tag.name :: rest.events)
  | standalone tag rest => .standalone tag :: rest.events
  | leaf e _ rest => e :: rest.events

/-- The tags of all elements, at whatever depth. -/
def tags : Forest → List Tag
  | empty => []
  | element tag content rest => tag :: (content.tags ++ rest.tags)
  | standalone tag rest => tag :: rest.tags
  | leaf _ _ rest => rest.tags

/-- The tags of the elements that are in no other. -/
def topTags : Forest → List Tag
  | empty => []
  | element tag _ rest => tag :: rest.topTags
  | standalone tag rest => tag :: rest.topTags
  | leaf _ _ rest => rest.topTags

/-- The names in the references of the text, at whatever depth. -/
def references : Forest → List (List Char)
  | empty => []
  | element _ content rest => content.references ++ rest.references
  | standalone _ rest => rest.references
  | leaf (.reference name) _ rest => name :: rest.references
  | leaf _ _ rest => rest.references

theorem mem_tags_of_mem_topTags {f : Forest} {tag : Tag} (member : tag ∈ f.topTags) : tag ∈ f.tags := by
  induction f with
  | empty => cases member
  | element tag' content rest _ ihRest =>
    rcases List.mem_cons.mp member with rfl | member
    · exact List.mem_cons_self
    · exact List.mem_cons_of_mem _ (List.mem_append_right _ (ihRest member))
  | standalone tag' rest ih =>
    rcases List.mem_cons.mp member with rfl | member
    · exact List.mem_cons_self
    · exact List.mem_cons_of_mem _ (ih member)
  | leaf e isLeaf rest ih => exact ih member

end Forest

/-- The elements that are open behind a row of events, the last first, if they were `open_` in front of
    it. There is no answer where an element is closed under another name or is not open. -/
def openBehind? (open_ : List (List Char)) : List Event → Option (List (List Char))
  | [] => some open_
  | .opening tag :: more => openBehind? (tag.name :: open_) more
  | .closing name :: more =>
    match open_ with
    | [] => none
    | expected :: outer => if name = expected then openBehind? outer more else none
  | _ :: more => openBehind? open_ more

/-! ## Elements that are open -/

theorem openBehind?_leaf {e : Event} (isLeaf : e.isLeaf = true) (open_ : List (List Char)) (more : List Event) :
    openBehind? open_ (e :: more) = openBehind? open_ more := by
  cases e <;> first | rfl | cases isLeaf

theorem openBehind?_closing_some {open_ rest : List (List Char)} {name : List Char} {more : List Event}
    (closes : openBehind? open_ (.closing name :: more) = some rest) :
    ∃ outer, open_ = name :: outer ∧ openBehind? outer more = some rest := by
  cases open_ with
  | nil => cases closes
  | cons expected outer =>
    simp only [openBehind?] at closes
    split at closes
    · next same => exact ⟨outer, by rw [same], closes⟩
    · cases closes

theorem openBehind?_cons_some {open_ rest : List (List Char)} {e : Event} {more : List Event}
    (matched : openBehind? open_ (e :: more) = some rest) :
    ∃ inner, openBehind? open_ [e] = some inner ∧ openBehind? inner more = some rest := by
  cases e with
  | opening tag => exact ⟨tag.name :: open_, rfl, matched⟩
  | closing name =>
    obtain ⟨outer, rfl, later⟩ := openBehind?_closing_some matched
    exact ⟨outer, by simp [openBehind?], later⟩
  | _ => exact ⟨open_, rfl, matched⟩

/-- Behind a forest the same elements are open as in front of it. -/
theorem openBehind?_events (f : Forest) (open_ : List (List Char)) (more : List Event) :
    openBehind? open_ (f.events ++ more) = openBehind? open_ more := by
  induction f generalizing open_ more with
  | empty => rfl
  | element tag content rest ihContent ihRest =>
    have closing : openBehind? (tag.name :: open_) (.closing tag.name :: (rest.events ++ more)) =
        openBehind? open_ (rest.events ++ more) := by simp [openBehind?]
    calc openBehind? open_ ((Forest.element tag content rest).events ++ more)
        = openBehind? (tag.name :: open_) (content.events ++ .closing tag.name :: (rest.events ++ more)) := by
          simp [Forest.events, openBehind?]
      _ = openBehind? open_ (rest.events ++ more) := by rw [ihContent, closing]
      _ = openBehind? open_ more := ihRest open_ more
  | standalone tag rest ih => exact ih open_ more
  | leaf e isLeaf rest ih =>
    rw [Forest.events, List.cons_append, openBehind?_leaf isLeaf]
    exact ih open_ more

theorem nest_leaf {e : Event} (isLeaf : e.isLeaf = true) (fault : Option ReadFault) (open_ : List (List Char))
    (more : List Event) : nest fault open_ (e :: more) = (nest fault open_ more).cons e := by
  cases e <;> first | rfl | cases isLeaf

/-- Whatever events are kept when tags are matched, the closing tags among them match. -/
theorem openBehind?_nest (fault : Option ReadFault) (open_ : List (List Char)) (events : List Event) :
    (openBehind? open_ (nest fault open_ events).events).isSome := by
  induction events generalizing open_ with
  | nil => rfl
  | cons e more ih =>
    cases e with
    | opening tag => exact ih (tag.name :: open_)
    | closing name =>
      cases open_ with
      | nil => rfl
      | cons expected outer =>
        by_cases same : name = expected
        · simpa [nest, same, Reading.cons, openBehind?] using ih outer
        · simp [nest, same, openBehind?]
    | _ => exact ih open_

/-- Where matching tags meets no fault, no event is lost. -/
theorem events_nest {fault : Option ReadFault} {open_ : List (List Char)} {events : List Event}
    (none_ : (nest fault open_ events).fault = none) :
    fault = none ∧ (nest fault open_ events).events = events := by
  induction events generalizing open_ with
  | nil => exact ⟨none_, rfl⟩
  | cons e more ih =>
    cases e with
    | opening tag =>
      obtain ⟨without, same⟩ := ih none_
      exact ⟨without, congrArg (Event.opening tag :: ·) same⟩
    | closing name =>
      cases open_ with
      | nil => cases none_
      | cons expected outer =>
        by_cases same : name = expected
        · simp only [nest, same, if_true, Reading.cons] at none_ ⊢
          obtain ⟨without, later⟩ := ih none_
          exact ⟨without, congrArg (Event.closing expected :: ·) later⟩
        · simp [nest, same] at none_
    | standalone tag =>
      obtain ⟨without, same⟩ := ih none_
      exact ⟨without, congrArg (Event.standalone tag :: ·) same⟩
    | _ =>
      rw [nest_leaf rfl] at none_ ⊢
      obtain ⟨without, same⟩ := ih none_
      exact ⟨without, congrArg (_ :: ·) same⟩

/-- Where reading meets no fault, all events were read and every closing tag among them matches. -/
theorem nest_of_openBehind? {open_ rest : List (List Char)} {events : List Event}
    (matched : openBehind? open_ events = some rest) : nest none open_ events = ⟨events, none⟩ := by
  induction events generalizing open_ with
  | nil => rfl
  | cons e more ih =>
    cases e with
    | closing name =>
      obtain ⟨outer, rfl, later⟩ := openBehind?_closing_some matched
      simp [nest, ih later, Reading.cons]
    | opening tag => rw [nest, ih matched]; rfl
    | _ => rw [nest, ih matched] <;> first | rfl | nofun

/-! ## Rows of events as forests -/

/-- A row of events begins with a forest, behind which the innermost open element is closed, if one is
    open, and later all others are. -/
def BeginsWithForest (open_ : List (List Char)) (events : List Event) : Prop :=
  ∃ (f : Forest) (more : List Event), events = f.events ++ more ∧
    ((open_ = [] ∧ more = []) ∨ ∃ name outer after, open_ = name :: outer ∧ more = .closing name :: after ∧
      openBehind? outer after = some [])

theorem beginsWithForest : ∀ (n : Nat) (events : List Event) (open_ : List (List Char)), events.length ≤ n →
    openBehind? open_ events = some [] → BeginsWithForest open_ events := by
  intro n
  induction n with
  | zero =>
    intro events open_ short closes
    have none_ : events = [] := List.eq_nil_of_length_eq_zero (Nat.le_zero.mp short)
    subst none_
    cases closes
    exact ⟨.empty, [], rfl, .inl ⟨rfl, rfl⟩⟩
  | succ n ih =>
    intro events open_ short closes
    cases events with
    | nil =>
      cases closes
      exact ⟨.empty, [], rfl, .inl ⟨rfl, rfl⟩⟩
    | cons e more =>
      have shorter : more.length ≤ n := Nat.le_of_succ_le_succ short
      have leaf (isLeaf : e.isLeaf = true) : BeginsWithForest open_ (e :: more) := by
        rw [openBehind?_leaf isLeaf] at closes
        obtain ⟨f, after, split, ends⟩ := ih more open_ shorter closes
        exact ⟨.leaf e isLeaf f, after, by rw [split]; rfl, ends⟩
      cases e with
      | opening tag =>
        -- First what the element holds, then, behind its closing tag, what follows it.
        obtain ⟨content, behind, split, ends⟩ := ih more (tag.name :: open_) shorter closes
        obtain ⟨none_, _⟩ | ⟨name, outer, after, around, closing, later⟩ := ends
        · cases none_
        · obtain ⟨rfl, rfl⟩ := List.cons.inj around
          have long : after.length ≤ n := by
            have := congrArg List.length split
            rw [closing, List.length_append, List.length_cons] at this
            omega
          obtain ⟨rest, behind', split', ends'⟩ := ih after open_ long later
          refine ⟨.element tag content rest, behind', ?_, ends'⟩
          rw [split, closing, split']
          simp [Forest.events]
      | closing name =>
        obtain ⟨outer, rfl, later⟩ := openBehind?_closing_some closes
        exact ⟨.empty, .closing name :: more, rfl, .inr ⟨name, outer, more, rfl, rfl, later⟩⟩
      | standalone tag =>
        obtain ⟨f, after, split, ends⟩ := ih more open_ shorter closes
        exact ⟨.standalone tag f, after, by rw [split]; rfl, ends⟩
      | _ => exact leaf rfl

/-- A row of events is that of a forest just where every element is closed in the end. -/
theorem exists_forest_iff (events : List Event) :
    (∃ f : Forest, f.events = events) ↔ openBehind? [] events = some [] := by
  constructor
  · rintro ⟨f, rfl⟩
    have same := openBehind?_events f [] []
    rwa [List.append_nil] at same
  · intro closes
    obtain ⟨f, more, split, ⟨_, none_⟩ | ⟨name, outer, after, around, _⟩⟩ :=
      beginsWithForest events.length events [] (Nat.le_refl _) closes
    · rw [none_, List.append_nil] at split
      exact ⟨f, split.symm⟩
    · cases around

/-! ## One forest for a row of events -/

/-- What may follow the events of a forest without being part of them: nothing, or a closing tag. -/
def EndsForest : List Event → Prop
  | [] => True
  | .closing _ :: _ => True
  | _ => False

theorem eq_empty_of_endsForest {f : Forest} {more more' : List Event} (ends : EndsForest more')
    (same : f.events ++ more = more') : f = .empty := by
  subst same
  cases f with
  | empty => rfl
  | leaf e isLeaf rest => cases e <;> first | exact False.elim ends | cases isLeaf
  | _ => exact False.elim ends

theorem events_append_injective {f g : Forest} {more more' : List Event} (ends : EndsForest more)
    (ends' : EndsForest more') (same : f.events ++ more = g.events ++ more') : f = g ∧ more = more' := by
  induction f generalizing g more more' with
  | empty =>
    have none_ : g = .empty := eq_empty_of_endsForest ends same.symm
    subst none_
    exact ⟨rfl, same⟩
  | element tag content rest ihContent ihRest =>
    cases g with
    | element tag' content' rest' =>
      simp only [Forest.events, List.cons_append, List.append_assoc, List.cons.injEq, Event.opening.injEq] at same
      obtain ⟨rfl, inside⟩ := same
      have closing (more : List Event) : EndsForest (.closing tag.name :: more) := trivial
      obtain ⟨rfl, behind⟩ := ihContent (closing _) (closing _) inside
      obtain ⟨rfl, rfl⟩ := ihRest ends ends' (List.cons.inj behind).2
      exact ⟨rfl, rfl⟩
    | empty => cases eq_empty_of_endsForest ends' same
    | leaf e isLeaf rest' =>
      obtain ⟨rfl, _⟩ := List.cons.inj same
      cases isLeaf
    | standalone => simp [Forest.events] at same
  | standalone tag rest ih =>
    cases g with
    | standalone tag' rest' =>
      simp only [Forest.events, List.cons_append, List.cons.injEq, Event.standalone.injEq] at same
      obtain ⟨rfl, behind⟩ := same
      obtain ⟨rfl, rfl⟩ := ih ends ends' behind
      exact ⟨rfl, rfl⟩
    | empty => cases eq_empty_of_endsForest ends' same
    | leaf e isLeaf rest' =>
      obtain ⟨rfl, _⟩ := List.cons.inj same
      cases isLeaf
    | element => simp [Forest.events] at same
  | leaf e isLeaf rest ih =>
    cases g with
    | leaf e' isLeaf' rest' =>
      obtain ⟨rfl, behind⟩ := List.cons.inj same
      obtain ⟨rfl, rfl⟩ := ih ends ends' behind
      exact ⟨rfl, rfl⟩
    | empty => cases eq_empty_of_endsForest ends' same
    | _ =>
      obtain ⟨rfl, _⟩ := List.cons.inj same
      cases isLeaf

/-- There is only one forest of a row of events. -/
theorem events_injective {f g : Forest} (same : f.events = g.events) : f = g := by
  have nothing : EndsForest [] := trivial
  have behind : f.events ++ [] = g.events ++ [] := by rw [same]
  exact (events_append_injective nothing nothing behind).1

end DiagramStudio.Markup
