import DiagramStudio.Proofs.Markup.Characters
import DiagramStudio.Proofs.Markup.Reread

/-!
What stands in no element. Text that was divided by marks which are not written is one text when it is read again, and
a byte-order mark in front of it is lost. Neither makes a difference to whether there is nothing but white space outside
of all elements (`isBlankOutside_scan`), so this can be told of a document before it is written.
-/

namespace DiagramStudio.Markup

/-- The event stands for no character but white space. -/
def Event.isBlank : Event → Bool
  | .text body | .characterData body => body.all isSpace
  | .reference _ => false
  | _ => true

/-- The events of a row that neither begin or end an element nor are in one, if `depth` elements are open in front
    of the row. -/
def outer (depth : Nat) : List Event → List Event
  | [] => []
  | .opening _ :: more => outer (depth + 1) more
  | .closing _ :: more => outer (depth - 1) more
  | .standalone _ :: more => outer depth more
  | e :: more => if depth = 0 then e :: outer depth more else outer depth more

/-- Outside of all elements there is only white space, and marks that stand for no character. -/
def IsBlankOutside (depth : Nat) (events : List Event) : Prop := ∀ e ∈ outer depth events, e.isBlank = true

theorem isBlankOutside_leaf {e : Event} (isLeaf : e.isLeaf = true) (depth : Nat) (more : List Event) :
    IsBlankOutside depth (e :: more) ↔ (depth = 0 → e.isBlank = true) ∧ IsBlankOutside depth more := by
  have split : outer depth (e :: more) = if depth = 0 then e :: outer depth more else outer depth more := by
    cases e <;> first | rfl | cases isLeaf
  unfold IsBlankOutside
  rw [split]
  by_cases top : depth = 0 <;> simp [top]

/-- Behind the same event the same makes a difference. -/
theorem isBlankOutside_cons_congr {more more' : List Event}
    (same : ∀ depth, IsBlankOutside depth more ↔ IsBlankOutside depth more') (e : Event) (depth : Nat) :
    IsBlankOutside depth (e :: more) ↔ IsBlankOutside depth (e :: more') := by
  cases e with
  | opening tag => exact same (depth + 1)
  | closing name => exact same (depth - 1)
  | standalone tag => exact same depth
  | _ => rw [isBlankOutside_leaf rfl, isBlankOutside_leaf rfl, same]

/-! ## Text read again -/

theorem scan_append_text {body : List Char} (text : body.all isText = true) (rest : List Char) :
    scan (body ++ rest) = ⟨body.foldr withText (scan rest).events, (scan rest).fault⟩ := by
  induction body with
  | nil => rfl
  | cons c more ih =>
    obtain ⟨first, later⟩ : isText c = true ∧ more.all isText = true := by simpa using text
    rw [List.cons_append, scan_cons_text first, ih later]
    rfl

theorem isBlankOutside_withText (depth : Nat) (c : Char) (events : List Event) :
    IsBlankOutside depth (withText c events) ↔ (depth = 0 → isSpace c = true) ∧ IsBlankOutside depth events := by
  unfold withText
  split
  · rw [isBlankOutside_leaf rfl, isBlankOutside_leaf rfl]
    simp only [Event.isBlank, List.all_cons, Bool.and_eq_true]
    rw [imp_and, and_assoc]
  · rw [isBlankOutside_leaf rfl]
    simp [Event.isBlank]

/-- Text in front counts as one event or as part of one. -/
theorem isBlankOutside_foldr_withText (depth : Nat) (body : List Char) (events : List Event) :
    IsBlankOutside depth (body.foldr withText events) ↔ IsBlankOutside depth (.text body :: events) := by
  rw [isBlankOutside_leaf rfl]
  induction body with
  | nil => simp [Event.isBlank]
  | cons c more ih =>
    rw [List.foldr_cons, isBlankOutside_withText, ih]
    simp only [Event.isBlank, List.all_cons, Bool.and_eq_true]
    rw [imp_and, and_assoc]

theorem isBlankOutside_scan {events : List Event} (texts : ∀ body, .text body ∈ events → body.all isText = true)
    (marks : ∀ e ∈ events, e.isText = false → e.ReadsBack) (depth : Nat) :
    IsBlankOutside depth (scan (render events)).events ↔ IsBlankOutside depth events := by
  induction events generalizing depth with
  | nil =>
    rw [render_nil, scan]
  | cons e more ih =>
    obtain ⟨mark, marks⟩ := List.forall_mem_cons.mp marks
    have later := ih (fun body member => texts body (.tail _ member)) marks
    rw [render_cons]
    cases isText : e.isText with
    | false =>
      rw [mark isText (render more)]
      exact isBlankOutside_cons_congr later e depth
    | true =>
      cases e with
      | text body =>
        rw [show (Event.text body).render = body from rfl, scan_append_text (texts body (.head _)),
          isBlankOutside_foldr_withText]
        exact isBlankOutside_cons_congr later (.text body) depth
      | _ => cases isText

/-! ## A mark in front -/

/-- The events without a byte-order mark in front. -/
def unmarked : List Event → List Event
  | .text body :: more => .text (Text.stripMark body) :: more
  | events => events

theorem stripMark_render {e : Event} (mark : e.isText = false) (rest : List Char) :
    Text.stripMark (e.render ++ rest) = e.render ++ rest := by
  have other {c : Char} (plain : c ≠ Text.byteOrderMark) (s : List Char) : Text.stripMark (c :: s) = c :: s :=
    if_neg plain
  cases e with
  | text body => cases mark
  | reference name => exact other (c := '&') (by decide) _
  | _ => exact other (c := '<') (by decide) _

/-- Of texts that are not empty the first loses the mark. -/
theorem render_unmarked {events : List Event} (full : ∀ body, .text body ∈ events → body ≠ []) :
    render (unmarked events) = Text.stripMark (render events) := by
  cases events with
  | nil => rfl
  | cons e more =>
    cases isText : e.isText with
    | false =>
      rw [render_cons, stripMark_render isText, ← render_cons]
      cases e with
      | text body => cases isText
      | _ => rfl
    | true =>
      cases e with
      | text body =>
        obtain ⟨c, rest, rfl⟩ := List.exists_cons_of_ne_nil (full body (.head _))
        rw [unmarked, render_cons, render_cons]
        show Text.stripMark (c :: rest) ++ render more = Text.stripMark (c :: (rest ++ render more))
        rw [Text.stripMark, Text.stripMark]
        split <;> rfl
      | _ => cases isText

theorem all_stripMark {p : Char → Bool} {s : List Char} (all : s.all p = true) : (Text.stripMark s).all p = true := by
  cases s with
  | nil => rfl
  | cons c rest =>
    rw [Text.stripMark]
    split
    · exact (Bool.and_eq_true_iff.mp all).2
    · exact all

/-- What stands outside of the elements of a document is read again as it was written, but for a mark in front. -/
theorem isBlankOutside_read {events : List Event} (full : ∀ body, .text body ∈ events → body ≠ [])
    (texts : ∀ body, .text body ∈ events → body.all isText = true)
    (marks : ∀ e ∈ events, e.isText = false → e.ReadsBack) (none_ : (read (render events)).fault = none) :
    IsBlankOutside 0 (read (render events)).events ↔ IsBlankOutside 0 (unmarked events) := by
  obtain ⟨_, same⟩ := events_nest none_
  rw [read, same, ← render_unmarked full]
  cases events with
  | nil => exact isBlankOutside_scan texts marks 0
  | cons e more =>
    cases e with
    | text body =>
      refine isBlankOutside_scan (fun body' member => ?_) (fun e member => ?_) 0
      · rcases List.mem_cons.mp member with same | member
        · cases same
          exact all_stripMark (texts body (.head _))
        · exact texts body' (.tail _ member)
      · rcases List.mem_cons.mp member with rfl | member
        · exact fun isMark => Bool.noConfusion isMark
        · exact marks e (.tail _ member)
    | _ => exact isBlankOutside_scan texts marks 0

/-- No text that is read is empty. -/
theorem ne_nil_of_mem_scan {s body : List Char} (member : .text body ∈ (scan s).events) : body ≠ [] := by
  have first {c : Char} {rest after : List Char} (read : next c rest = .ok (.text body, after)) : body ≠ [] := by
    by_cases text : isText c = true
    · rw [next_text text] at read
      cases read
      nofun
    · exact Bool.noConfusion (isText_of_next (Bool.eq_false_iff.mpr text) read)
  induction s using scan.induct with
  | case1 =>
    rw [scan] at member
    cases member
  | case2 c rest fault failed =>
    rw [scan_cons_error failed] at member
    cases member
  | case3 c rest e after read ih =>
    rw [scan_cons_ok read] at member
    rcases List.mem_cons.mp member with rfl | member
    · exact first read
    · exact ih member

end DiagramStudio.Markup
