import DiagramStudio.Proofs.Share.Token
import DiagramStudio.Share.Link

/-!
Links. A token is put behind what stands in front of the first mark of an address, and it is found there again,
however many marks the address has (`token?_make`): the first mark of the link is the one that was put there. So a
link that is shared again is the link to the new state alone (`make_make`).
-/

namespace DiagramStudio.Link

open SharedState (IsPlain mark)

theorem not_mem_base (address : List Char) : mark ∉ base address := fun member => by
  have other := List.all_eq_true.mp List.all_takeWhile mark member
  simp at other

/-- Behind what a link keeps of an address there is nothing, or the first mark. -/
theorem exists_behind_base (address : List Char) :
    ∃ old, (old = [] ∨ old.head? = some mark) ∧ address = base address ++ old := by
  refine ⟨address.dropWhile (· != mark), ?_, List.takeWhile_append_dropWhile.symm⟩
  have first := List.head?_dropWhile_not (· != mark) address
  cases behind : address.dropWhile (· != mark) with
  | nil => exact .inl rfl
  | cons c more =>
    rw [behind] at first
    exact .inr (congrArg some (by simpa using first))

/-- A link keeps of its address what the address keeps. -/
theorem base_make (address token : List Char) : base (make address token) = base address := by
  have others : ∀ c ∈ base address, (c != mark) = true := fun c => List.all_eq_true.mp List.all_takeWhile c
  rw [make, base, List.takeWhile_append_of_pos others, List.takeWhile_cons_of_neg (by simp), List.append_nil]

theorem make_make (address first second : List Char) : make (make address first) second = make address second := by
  rw [make, base_make, make]

/-- The token in a link is found there, whatever the address in front of it is. -/
theorem token?_make (address : List Char) {token : List Char} (plain : IsPlain token) (some_ : token ≠ []) :
    token? (make address token) = some token := by
  rw [token?, make, Text.cut?_append (not_mem_base address)]
  simp only [plain.isTrimmed.trim_eq, List.isEmpty_iff, some_, if_false]

/-- A link that was made with no token carries none. -/
theorem token?_make_nil (address : List Char) : token? (make address []) = none := by
  rw [token?, make, Text.cut?_append (not_mem_base address)]
  rfl

/-- A token alone is its own link. -/
theorem token?_self {token : List Char} (plain : IsPlain token) (some_ : token ≠ []) : token? token = some token := by
  have noMark : mark ∉ token := fun member => (plain mark member).2 rfl
  rw [token?, Text.cut?_eq_none noMark]
  simp only [plain.isTrimmed.trim_eq, List.isEmpty_iff, some_, if_false]

/-- The link to a state carries its token, and the token is read as the state, whatever the address is: the token is
    put behind a mark, and that behind all that the address has in front of its own first mark. Where the address is
    a link already, the token it carried makes no difference. -/
theorem carries_state (address : List Char) (state : SharedState) :
    token? (make address state.encode) = some state.encode ∧ SharedState.decode? state.encode = some state ∧
    (∀ first second, make (make address first) second = make address second) ∧
    ∃ front old, address = front ++ old ∧ mark ∉ front ∧ (old = [] ∨ old.head? = some mark) ∧
      ∀ token, make address token = front ++ mark :: token := by
  obtain ⟨old, marked, whole⟩ := exists_behind_base address
  refine ⟨?_, SharedState.decode?_encode state, make_make address, ?_⟩
  · exact token?_make address (SharedState.isPlain_encode state) (SharedState.encode_ne_nil state)
  · exact ⟨base address, old, whole, not_mem_base address, marked, fun _ => rfl⟩

end DiagramStudio.Link
