import DiagramStudio.Json.Reading
import DiagramStudio.Proofs.Text.Utf8

/-!
What is written as JSON reads back: a string with whatever characters its text has, and an object whose
members are strings, followed by anything.
-/

namespace DiagramStudio

open Text (Utf8.encode)

namespace Quoted

/-! ## Bytes that stand for themselves -/

/-- A byte that neither ends a string, nor begins an escape, nor is a control character. -/
def IsPlain (b : UInt8) : Prop := 0x20 ≤ b.toNat ∧ b.toNat ≠ 0x22 ∧ b.toNat ≠ 0x5C

theorem IsPlain.ne_quote {b : UInt8} (plain : IsPlain b) : b ≠ 0x22 := fun same => plain.2.1 (by rw [same]; rfl)

theorem IsPlain.ne_backslash {b : UInt8} (plain : IsPlain b) : b ≠ 0x5C := fun same => plain.2.2 (by rw [same]; rfl)

/-- The bytes of a character that needs no escape. -/
theorem isPlain_of_mem_utf8EncodeChar {c : Char} (control : 0x20 ≤ c.toNat) (quote : c.toNat ≠ 0x22)
    (backslash : c.toNat ≠ 0x5C) {b : UInt8} (member : b ∈ String.utf8EncodeChar c) : IsPlain b := by
  have number : c.val.toNat = c.toNat := rfl
  have valid := c.valid
  simp only [UInt32.isValidChar, Nat.isValidChar, number] at valid
  simp only [String.utf8EncodeChar, number] at member
  generalize c.toNat = v at *
  -- Beyond one byte all bytes of a sequence lie above ASCII.
  have above {n : Nat} (high : 0x80 ≤ n) (byte : n < 256) : IsPlain (UInt8.ofNat n) := by
    rw [IsPlain, Text.Utf8.toNat_ofNat byte]
    omega
  split at member
  · next small =>
    rw [List.mem_singleton] at member
    subst member
    rw [IsPlain, Text.Utf8.toNat_ofNat (by omega)]
    exact ⟨control, quote, backslash⟩
  · split at member
    · simp only [List.mem_cons, List.not_mem_nil, or_false] at member
      rcases member with rfl | rfl <;> exact above (by omega) (by omega)
    · split at member
      · simp only [List.mem_cons, List.not_mem_nil, or_false] at member
        rcases member with rfl | rfl | rfl <;> exact above (by omega) (by omega)
      · simp only [List.mem_cons, List.not_mem_nil, or_false] at member
        rcases member with rfl | rfl | rfl | rfl <;> exact above (by omega) (by omega)

theorem quoted?_plain {b : UInt8} (plain : IsPlain b) (s : List UInt8) :
    Json.quoted? (b :: s) = (Json.quoted? s).map fun (raw, after) => (b :: raw, after) := by
  have control : ¬ b < 0x20 := by
    have := plain.1
    rw [UInt8.lt_iff_toNat_lt]
    exact Nat.not_lt.mpr this
  rw [Json.quoted?.eq_def]
  simp [plain.ne_quote, plain.ne_backslash, control]

theorem unescape?_plain {b : UInt8} (plain : IsPlain b) (s : List UInt8) :
    unescape? (b :: s) = (unescape? s).map (b :: ·) := by
  rw [unescape?.eq_def]
  simp [plain.ne_backslash]

theorem quoted?_plains {bytes : List UInt8} (plain : ∀ b ∈ bytes, IsPlain b) (s : List UInt8) :
    Json.quoted? (bytes ++ s) = (Json.quoted? s).map fun (raw, after) => (bytes ++ raw, after) := by
  induction bytes with
  | nil => simp
  | cons b more ih =>
    have later := ih fun d member => plain d (List.mem_cons_of_mem b member)
    rw [List.cons_append, quoted?_plain (plain b List.mem_cons_self), later, Option.map_map]
    rfl

theorem unescape?_plains {bytes : List UInt8} (plain : ∀ b ∈ bytes, IsPlain b) (s : List UInt8) :
    unescape? (bytes ++ s) = (unescape? s).map (bytes ++ ·) := by
  induction bytes with
  | nil => simp
  | cons b more ih =>
    have later := ih fun d member => plain d (List.mem_cons_of_mem b member)
    rw [List.cons_append, unescape?_plain (plain b List.mem_cons_self), later, Option.map_map]
    rfl

/-! ## Escapes -/

private theorem hexValue?_hexDigit_all : ∀ n < 16, hexValue? (hexDigit n) = some n := by decide

theorem hex4?_control {n : Nat} (control : n < 0x20) :
    hex4? (byte '0') (byte '0') (hexDigit (n / 16)) (hexDigit (n % 16)) = some n := by
  have high := hexValue?_hexDigit_all (n / 16) (by omega)
  have low := hexValue?_hexDigit_all (n % 16) (by omega)
  have zero : hexValue? (byte '0') = some 0 := by decide
  simp only [hex4?, zero, high, low, bind, Option.bind, pure, Option.some.injEq]
  omega

/-- An escape by one letter, of which there are these. -/
theorem quoted?_letter {b : UInt8} (known : (escapeOf? b).isSome) (s : List UInt8) :
    Json.quoted? (0x5C :: b :: s) = (Json.quoted? s).map fun (raw, after) => (0x5C :: b :: raw, after) := by
  have notHex : b ≠ 0x75 := by
    rintro rfl
    exact absurd known (by decide)
  rw [Json.quoted?.eq_def]
  simp [notHex, known]

theorem unescape?_letter {b : UInt8} {c : Char} (known : escapeOf? b = some c) (s : List UInt8) :
    unescape? (0x5C :: b :: s) = (unescape? s).map (String.utf8EncodeChar c ++ ·) := by
  have notHex : b ≠ 0x75 := by
    rintro rfl
    cases known
  rw [unescape?.eq_def]
  simp [notHex, known]

theorem quoted?_hex {a b c d : UInt8} {n : Nat} (digits : hex4? a b c d = some n) (s : List UInt8) :
    Json.quoted? (0x5C :: 0x75 :: a :: b :: c :: d :: s) =
      (Json.quoted? s).map fun (raw, after) => (0x5C :: 0x75 :: a :: b :: c :: d :: raw, after) := by
  rw [Json.quoted?.eq_def]
  simp [digits]

theorem unescape?_hex {a b c d : UInt8} {n : Nat} (digits : hex4? a b c d = some n) (small : n < 0xD800)
    (s : List UInt8) : unescape? (0x5C :: 0x75 :: a :: b :: c :: d :: s) =
      (unescape? s).map (String.utf8EncodeChar (Char.ofNat n) ++ ·) := by
  have notTrailing : isTrailing n = false := by simp [isTrailing]; omega
  have notLeading : isLeading n = false := by simp [isLeading]; omega
  rw [unescape?.eq_def]
  simp [digits, notTrailing, notLeading]

/-- What is said of the written form of one character: it is passed over as a whole, and it stands for
    the character. -/
def Spells (written : List UInt8) (c : Char) : Prop :=
  ∀ s, Json.quoted? (written ++ s) = ((Json.quoted? s).map fun (raw, after) => (written ++ raw, after)) ∧
    unescape? (written ++ s) = (unescape? s).map (String.utf8EncodeChar c ++ ·)

theorem spells_letter {b : UInt8} {c : Char} (known : escapeOf? b = some c) : Spells [0x5C, b] c :=
  fun s => ⟨quoted?_letter (by rw [known]; rfl) s, unescape?_letter known s⟩

theorem spells_control {c : Char} (control : c.toNat < 0x20) :
    Spells [0x5C, 0x75, byte '0', byte '0', hexDigit (c.toNat / 16), hexDigit (c.toNat % 16)] c := by
  have digits := hex4?_control control
  intro s
  refine ⟨quoted?_hex digits s, ?_⟩
  have back := unescape?_hex digits (by omega) s
  rw [Char.ofNat_toNat] at back
  exact back

theorem spells_escape (c : Char) : Spells (escape c) c := by
  unfold escape
  split
  · next same => subst same; exact spells_letter (by decide)
  split
  · next same => subst same; exact spells_letter (by decide)
  split
  · next same => subst same; exact spells_letter (by decide)
  split
  · next same => subst same; exact spells_letter (by decide)
  split
  · next same => subst same; exact spells_letter (by decide)
  split
  · next same => subst same; exact spells_letter (by decide)
  split
  · next same => subst same; exact spells_letter (by decide)
  split
  · next control => exact spells_control control
  · next quote backslash _ _ _ _ _ control =>
    have plain : ∀ b ∈ String.utf8EncodeChar c, IsPlain b := fun b =>
      isPlain_of_mem_utf8EncodeChar (Nat.not_lt.mp control)
        (fun same => quote (Char.toNat_inj.mp same)) (fun same => backslash (Char.toNat_inj.mp same))
    exact fun s => ⟨quoted?_plains plain s, unescape?_plains plain s⟩

/-! ## Whole strings -/

/-- Behind its opening quote the string reads as itself, up to its closing quote. -/
def Closes (q : Quoted) : Prop := ∀ rest, Json.quoted? (q.raw ++ byte '"' :: rest) = some (q.raw, rest)

theorem closes_ofText (s : String) : (ofText s).Closes := by
  intro rest
  unfold ofText
  induction s.toList with
  | nil => rfl
  | cons c more ih =>
    simp only at ih ⊢
    rw [List.flatMap_cons, List.append_assoc, (spells_escape c _).1, ih]
    rfl

theorem text?_ofText (s : String) : (ofText s).text? = some s := by
  have bytes : unescape? (s.toList.flatMap escape) = some (Utf8.encode s.toList) := by
    induction s.toList with
    | nil => rfl
    | cons c more ih =>
      rw [List.flatMap_cons, (spells_escape c _).2, ih]
      rfl
  simp [text?, ofText, bytes, Text.Utf8.decode?_encode]

end Quoted

namespace Json

@[simp] theorem text?_ofText (s : String) : (ofText s).text? = some s := Quoted.text?_ofText s

/-! ## Objects of strings -/

theorem document?_string {q : Quoted} (closes : q.Closes) (fuel : Nat) (rest : List UInt8) :
    document? (fuel + 1) (q.render ++ rest) = some (.string q, rest) := by
  have front : skipSpace (q.render ++ rest) = 0x22 :: (q.raw ++ byte '"' :: rest) := by
    simp [Quoted.render, skipSpace, isSpace, byte]
  rw [document?, front]
  simp [closes rest]

/-- What a member is whose key has been read. -/
theorem members?_key {key : Quoted} (closes : key.Closes) (fuel : Nat) (s : List UInt8) :
    members? (fuel + 1) (key.render ++ byte ':' :: s) =
      match document? fuel s with
      | none => none
      | some (value, rest) =>
        match skipSpace rest with
        | 0x7D :: after => some ([(key, value)], after)
        | 0x2C :: more => (members? fuel more).map fun (found, after) => ((key, value) :: found, after)
        | _ => none := by
  have front : skipSpace (key.render ++ byte ':' :: s) = 0x22 :: (key.raw ++ byte '"' :: byte ':' :: s) := by
    simp [Quoted.render, skipSpace, isSpace, byte]
  have colon : skipSpace (byte ':' :: s) = 0x3A :: s := by simp [skipSpace, isSpace, byte]
  rw [members?, front]
  simp only [closes (byte ':' :: s)]
  rw [colon]
  rfl

/-- An object of strings reads back member by member. Each member takes one unit of fuel for itself, and
    the value of the last one more. -/
theorem members?_strings {members : List (Quoted × Quoted)} (some_ : members ≠ [])
    (closes : ∀ m ∈ members, m.1.Closes ∧ m.2.Closes) {fuel : Nat} (enough : members.length < fuel)
    (rest : List UInt8) :
    members? fuel (renderMembers (members.map fun m => (m.1, .string m.2)) ++ rest) =
      some (members.map fun m => (m.1, .string m.2), rest) := by
  induction members generalizing fuel with
  | nil => exact absurd rfl some_
  | cons m more ih =>
    obtain ⟨key, value⟩ := m
    obtain ⟨closesKey, closesValue⟩ := closes (key, value) List.mem_cons_self
    obtain ⟨fuel, rfl⟩ : ∃ n, fuel = n + 2 := ⟨fuel - 2, by simp at enough; omega⟩
    cases more with
    | nil =>
      have written : renderMembers [(key, .string value)] ++ rest =
          key.render ++ byte ':' :: (value.render ++ byte '\x7d' :: rest) := by
        simp [renderMembers, render]
      have brace : skipSpace (byte '\x7d' :: rest) = 0x7D :: rest := by simp [skipSpace, isSpace, byte]
      rw [List.map_cons, List.map_nil, written, members?_key closesKey, document?_string closesValue]
      simp only [brace]
    | cons second others =>
      have fewer : (second :: others).length < fuel + 1 := by
        simp only [List.length_cons] at enough ⊢
        omega
      have later := ih (by simp) (fun m member => closes m (List.mem_cons_of_mem _ member)) fewer
      generalize tail : (second :: others).map (fun m => (m.1, string m.2)) = strings at later ⊢
      have written : renderMembers ((key, .string value) :: strings) ++ rest =
          key.render ++ byte ':' :: (value.render ++ byte ',' :: (renderMembers strings ++ rest)) := by
        rw [← tail, List.map_cons, renderMembers.eq_3 _ _ _ (by simp)]
        simp [render]
      have comma (s : List UInt8) : skipSpace (byte ',' :: s) = 0x2C :: s := by simp [skipSpace, isSpace, byte]
      rw [List.map_cons, tail, written, members?_key closesKey, document?_string closesValue]
      simp only [comma, later, Option.map_some]

theorem length_lt_renderMembers (members : List (Quoted × Json)) :
    members.length < (renderMembers members).length := by
  induction members with
  | nil => simp [renderMembers]
  | cons m more ih =>
    cases more with
    | nil =>
      simp only [renderMembers, Quoted.render, List.length_cons, List.length_append]
      omega
    | cons second others =>
      rw [renderMembers.eq_3 _ _ _ (by simp)]
      simp only [List.length_cons, List.length_append] at ih ⊢
      omega

/-- An object of strings with at least one member reads back. -/
theorem read?_strings {members : List (Quoted × Quoted)} (some_ : members ≠ [])
    (closes : ∀ m ∈ members, m.1.Closes ∧ m.2.Closes) :
    read? (Json.object (members.map fun m => (m.1, .string m.2))).render =
      some (.object (members.map fun m => (m.1, .string m.2))) := by
  have enough : members.length <
      2 * (Json.object (members.map fun m => (m.1, .string m.2))).render.length + 1 := by
    have long := length_lt_renderMembers (members.map fun m => (m.1, .string m.2))
    rw [List.length_map] at long
    simp only [render, List.length_cons]
    omega
  have whole := members?_strings some_ closes enough []
  rw [List.append_nil] at whole
  generalize tail : members.map (fun m => (m.1, string m.2)) = strings at whole ⊢
  have front : skipSpace (byte '\x7b' :: renderMembers strings) = 0x7B :: renderMembers strings := by
    simp [skipSpace, isSpace, byte]
  -- What follows the opening brace is a quote, so the object is not empty.
  have quote : ∃ s, skipSpace (renderMembers strings) = 0x22 :: s := by
    obtain ⟨m, more, rfl⟩ := List.exists_cons_of_ne_nil some_
    subst tail
    cases more <;> simp [renderMembers, Quoted.render, skipSpace, isSpace, byte]
  obtain ⟨s, quote⟩ := quote
  rw [render] at whole
  rw [read?, render, document?, front]
  simp only [quote, whole, Option.map_some]
  rfl

end Json

end DiagramStudio
