import DiagramStudio.Proofs.Json.Written

/-!
The strings of JSON: what may stand between two quotes (`IsRaw`), and which text it stands for (`Reads`).
The reader takes exactly the first (`quoted?_eq_some_iff`), and of these exactly those have a text that stand
for one (`text?_eq_some_iff`): bytes that are not UTF-8 and halves of pairs of escapes stand for none.
-/

namespace DiagramStudio

open Text

namespace Quoted

/-- What may stand between quotes: bytes that stand for themselves, and escapes. -/
inductive IsRaw : List UInt8 → Prop where
  | nil : IsRaw []
  | plain {b : UInt8} {s : List UInt8} (plain : IsPlain b) (rest : IsRaw s) : IsRaw (b :: s)
  | letter {b : UInt8} {s : List UInt8} (known : (escapeOf? b).isSome) (rest : IsRaw s) : IsRaw (0x5C :: b :: s)
  | hex {a b c d : UInt8} {s : List UInt8} (digits : (hex4? a b c d).isSome) (rest : IsRaw s) :
    IsRaw (0x5C :: 0x75 :: a :: b :: c :: d :: s)

/-- The text that what stands between quotes spells: characters as they are, escapes by a letter or by four
    digits, and pairs of escapes for the characters that four digits do not reach. -/
inductive Reads : List UInt8 → List Char → Prop where
  | nil : Reads [] []
  | plain {c : Char} {s : List UInt8} {text : List Char} (control : 0x20 ≤ c.toNat) (quote : c ≠ '"')
    (backslash : c ≠ '\\') (rest : Reads s text) : Reads (String.utf8EncodeChar c ++ s) (c :: text)
  | letter {b : UInt8} {c : Char} {s : List UInt8} {text : List Char} (known : escapeOf? b = some c)
    (rest : Reads s text) : Reads (0x5C :: b :: s) (c :: text)
  | hex {a b c d : UInt8} {n : Nat} {s : List UInt8} {text : List Char} (digits : hex4? a b c d = some n)
    (whole : isLeading n = false ∧ isTrailing n = false) (rest : Reads s text) :
    Reads (0x5C :: 0x75 :: a :: b :: c :: d :: s) (Char.ofNat n :: text)
  | pair {a b c d a' b' c' d' : UInt8} {n m : Nat} {s : List UInt8} {text : List Char}
    (digits : hex4? a b c d = some n) (leading : isLeading n = true) (digits' : hex4? a' b' c' d' = some m)
    (trailing : isTrailing m = true) (rest : Reads s text) :
    Reads (0x5C :: 0x75 :: a :: b :: c :: d :: 0x5C :: 0x75 :: a' :: b' :: c' :: d' :: s)
      (Char.ofNat (0x10000 + (n - 0xD800) * 0x400 + (m - 0xDC00)) :: text)

/-! ## Between quotes -/

theorem isPlain_of_not {b : UInt8} (quote : b ≠ 0x22) (kept : ¬(b < 0x20 || b == 0x5C) = true) : IsPlain b := by
  simp only [Bool.or_eq_true, decide_eq_true_eq, beq_iff_eq, not_or, UInt8.not_lt, UInt8.le_iff_toNat_le] at kept
  exact ⟨kept.1, fun same => quote (UInt8.toNat_inj.mp same), fun same => kept.2 (UInt8.toNat_inj.mp same)⟩

/-- A string is read up to the first quote behind what may stand between quotes. -/
theorem quoted?_eq_some_iff {s raw rest : List UInt8} :
    Json.quoted? s = some (raw, rest) ↔ IsRaw raw ∧ s = raw ++ 0x22 :: rest := by
  constructor
  · intro closed
    fun_induction Json.quoted? s generalizing raw with
    | case1 => cases closed
    | case2 s =>
      cases closed
      exact ⟨.nil, rfl⟩
    | case3 a b c d s digits ih =>
      obtain ⟨⟨inner, after⟩, read, same⟩ := Option.map_eq_some_iff.mp closed
      cases same
      obtain ⟨isRaw, rfl⟩ := ih read
      exact ⟨.hex digits isRaw, rfl⟩
    | case4 => cases closed
    | case5 b s _ known ih =>
      obtain ⟨⟨inner, after⟩, read, same⟩ := Option.map_eq_some_iff.mp closed
      cases same
      obtain ⟨isRaw, rfl⟩ := ih read
      exact ⟨.letter known isRaw, rfl⟩
    | case6 => cases closed
    | case7 => cases closed
    | case8 b s quote _ _ kept ih =>
      obtain ⟨⟨inner, after⟩, read, same⟩ := Option.map_eq_some_iff.mp closed
      cases same
      obtain ⟨isRaw, rfl⟩ := ih read
      exact ⟨.plain (isPlain_of_not quote kept) isRaw, rfl⟩
  · rintro ⟨isRaw, rfl⟩
    induction isRaw with
    | nil => rfl
    | plain plain _ ih => simp [quoted?_plain plain, ih]
    | letter known _ ih => simp [quoted?_letter known, ih]
    | hex digits _ ih =>
      obtain ⟨n, digits⟩ := Option.isSome_iff_exists.mp digits
      simp [quoted?_hex digits, ih]

/-! ## The text of a string -/

/-- An escape of one character. -/
theorem unescape?_whole {a b c d : UInt8} {n : Nat} (digits : hex4? a b c d = some n)
    (whole : isLeading n = false ∧ isTrailing n = false) (s : List UInt8) :
    unescape? (0x5C :: 0x75 :: a :: b :: c :: d :: s) =
      (unescape? s).map (String.utf8EncodeChar (Char.ofNat n) ++ ·) := by
  rw [unescape?.eq_def]
  simp [digits, whole.1, whole.2]

/-- Two escapes of one character. -/
theorem unescape?_pair {a b c d a' b' c' d' : UInt8} {n m : Nat} (digits : hex4? a b c d = some n)
    (leading : isLeading n = true) (digits' : hex4? a' b' c' d' = some m) (trailing : isTrailing m = true)
    (s : List UInt8) :
    unescape? (0x5C :: 0x75 :: a :: b :: c :: d :: 0x5C :: 0x75 :: a' :: b' :: c' :: d' :: s) =
      (unescape? s).map
        (String.utf8EncodeChar (Char.ofNat (0x10000 + (n - 0xD800) * 0x400 + (m - 0xDC00))) ++ ·) := by
  have notTrailing : isTrailing n = false := by
    simp only [isLeading, isTrailing, Bool.and_eq_true, decide_eq_true_eq, Bool.and_eq_false_iff,
      decide_eq_false_iff_not] at leading ⊢
    omega
  rw [unescape?.eq_def]
  simp [digits, leading, notTrailing, digits', trailing]

theorem unescape?_of_reads {raw : List UInt8} {text : List Char} (reads : Reads raw text) :
    unescape? raw = some (Utf8.encode text) := by
  induction reads with
  | nil => rfl
  | plain control quote backslash _ ih =>
    have plain := fun b => isPlain_of_mem_utf8EncodeChar control (fun same => quote (Char.toNat_inj.mp same))
      (fun same => backslash (Char.toNat_inj.mp same)) (b := b)
    rw [unescape?_plains plain, ih, Utf8.encode_cons, Option.map_some]
  | letter known _ ih => rw [unescape?_letter known, ih, Utf8.encode_cons, Option.map_some]
  | hex digits whole _ ih => rw [unescape?_whole digits whole, ih, Utf8.encode_cons, Option.map_some]
  | pair digits leading digits' trailing _ ih =>
    rw [unescape?_pair digits leading digits' trailing, ih, Utf8.encode_cons, Option.map_some]

/-- What an escape by digits amounts to, where it amounts to something: one character, or with the escape behind
    it another one. -/
theorem unescape?_hex_cases {a b c d : UInt8} {s bytes : List UInt8}
    (found : unescape? (0x5C :: 0x75 :: a :: b :: c :: d :: s) = some bytes) :
    ∃ n, hex4? a b c d = some n ∧
      ((isLeading n = false ∧ isTrailing n = false) ∨
        isLeading n = true ∧ ∃ a' b' c' d' m s', s = 0x5C :: 0x75 :: a' :: b' :: c' :: d' :: s' ∧
          hex4? a' b' c' d' = some m ∧ isTrailing m = true) := by
  rw [unescape?.eq_def] at found
  simp only at found
  split at found
  · cases found
  next n digits =>
  refine ⟨n, digits, ?_⟩
  by_cases trailing : isTrailing n = true
  · rw [if_pos trailing] at found
    cases found
  rw [if_neg trailing] at found
  by_cases leading : isLeading n = true
  · rw [if_pos leading] at found
    refine .inr ⟨leading, ?_⟩
    split at found
    · next a' b' c' d' s' =>
      split at found
      · cases found
      next m digits' =>
      by_cases second : isTrailing m = true
      · exact ⟨a', b', c', d', m, s', rfl, digits', second⟩
      · rw [if_neg second] at found
        cases found
    · cases found
  · exact .inl ⟨Bool.not_eq_true _ ▸ leading, Bool.not_eq_true _ ▸ trailing⟩

theorem IsRaw.of_hex {a b c d : UInt8} {s : List UInt8} (isRaw : IsRaw (0x5C :: 0x75 :: a :: b :: c :: d :: s)) :
    IsRaw s := by
  cases isRaw with
  | plain plain => exact absurd rfl plain.ne_backslash
  | letter known => exact absurd known (by decide)
  | hex _ rest => exact rest

/-- The ways in which what stands between quotes begins, where it has a text: with a byte that stands for
    itself, or with what is written for a character. -/
theorem IsRaw.unescape?_cases {raw bytes : List UInt8} (isRaw : IsRaw raw) (found : unescape? raw = some bytes) :
    (raw = [] ∧ bytes = []) ∨
    (∃ b s more, raw = b :: s ∧ IsPlain b ∧ IsRaw s ∧ unescape? s = some more ∧ bytes = b :: more) ∨
    (∃ written c s more, raw = written ++ s ∧ IsRaw s ∧ unescape? s = some more ∧
      bytes = String.utf8EncodeChar c ++ more ∧ ∀ text, Reads s text → Reads (written ++ s) (c :: text)) := by
  cases isRaw with
  | nil => exact .inl ⟨rfl, by cases found; rfl⟩
  | @plain b s plain rest =>
    rw [unescape?_plain plain] at found
    obtain ⟨more, behind, rfl⟩ := Option.map_eq_some_iff.mp found
    exact .inr (.inl ⟨b, s, more, rfl, plain, rest, behind, rfl⟩)
  | @letter b s known rest =>
    obtain ⟨c, known⟩ := Option.isSome_iff_exists.mp known
    rw [unescape?_letter known] at found
    obtain ⟨more, behind, rfl⟩ := Option.map_eq_some_iff.mp found
    exact .inr (.inr ⟨[0x5C, b], c, s, more, rfl, rest, behind, rfl, fun _ => .letter known⟩)
  | @hex a b c d s _ rest =>
    obtain ⟨n, digits, whole | ⟨leading, a', b', c', d', m, s', rfl, digits', trailing⟩⟩ := unescape?_hex_cases found
    · rw [unescape?_whole digits whole] at found
      obtain ⟨more, behind, rfl⟩ := Option.map_eq_some_iff.mp found
      exact .inr (.inr ⟨[0x5C, 0x75, a, b, c, d], _, s, more, rfl, rest, behind, rfl, fun _ => .hex digits whole⟩)
    · rw [unescape?_pair digits leading digits' trailing] at found
      obtain ⟨more, behind, rfl⟩ := Option.map_eq_some_iff.mp found
      exact .inr (.inr ⟨[0x5C, 0x75, a, b, c, d, 0x5C, 0x75, a', b', c', d'], _, s', more, rfl, rest.of_hex, behind,
        rfl, fun _ => .pair digits leading digits' trailing⟩)

/-- Bytes that no character begins with stand there as themselves. -/
theorem IsRaw.exists_of_tails {tails raw behind : List UInt8} (isRaw : IsRaw raw)
    (tail : ∀ b ∈ tails, Utf8.isTail b = true) (found : unescape? raw = some (tails ++ behind)) :
    ∃ s, raw = tails ++ s ∧ IsRaw s ∧ unescape? s = some behind := by
  induction tails generalizing raw with
  | nil => exact ⟨raw, rfl, isRaw, found⟩
  | cons b more ih =>
    obtain ⟨first, others⟩ := List.forall_mem_cons.mp tail
    rcases isRaw.unescape?_cases found with ⟨_, none⟩ | ⟨b', s, after, rfl, _, rest, read, same⟩ |
      ⟨written, c, s, after, rfl, rest, read, same, _⟩
    · cases none
    · obtain ⟨rfl, rfl⟩ := List.cons.inj same
      obtain ⟨s, rfl, inner, read⟩ := ih rest others read
      exact ⟨s, rfl, inner, read⟩
    · obtain ⟨a, sequence, bytes, notTail, _⟩ := Utf8.exists_utf8EncodeChar c
      rw [bytes] at same
      obtain ⟨rfl, _⟩ := List.cons.inj same
      rw [first] at notTail
      cases notTail

/-- A character whose bytes stand for themselves needs no escape. -/
theorem needs_no_escape {c : Char} {a : UInt8} {more : List UInt8} (bytes : String.utf8EncodeChar c = a :: more)
    (plain : IsPlain a) : 0x20 ≤ c.toNat ∧ c ≠ '"' ∧ c ≠ '\\' := by
  refine ⟨?_, ?_, ?_⟩
  · refine Nat.not_lt.mp fun control => ?_
    have number : c.val.toNat = c.toNat := rfl
    simp only [String.utf8EncodeChar, number] at bytes
    rw [if_pos (by omega)] at bytes
    obtain ⟨rfl, _⟩ := List.cons.inj bytes
    have low := plain.1
    rw [Utf8.toNat_ofNat (by omega)] at low
    omega
  · rintro rfl
    have first : String.utf8EncodeChar '"' = [0x22] := by decide
    rw [first] at bytes
    cases bytes
    exact plain.ne_quote rfl
  · rintro rfl
    have first : String.utf8EncodeChar '\\' = [0x5C] := by decide
    rw [first] at bytes
    cases bytes
    exact plain.ne_backslash rfl

theorem IsRaw.reads {text : List Char} {raw : List UInt8} (isRaw : IsRaw raw)
    (found : unescape? raw = some (Utf8.encode text)) : Reads raw text := by
  induction text generalizing raw with
  | nil =>
    rcases isRaw.unescape?_cases found with ⟨rfl, _⟩ | ⟨_, _, _, _, _, _, _, same⟩ | ⟨_, c, _, _, _, _, _, same, _⟩
    · exact .nil
    · cases same
    · obtain ⟨a, more, bytes, _⟩ := Utf8.exists_utf8EncodeChar c
      rw [bytes] at same
      cases same
  | cons c text ih =>
    obtain ⟨a, sequence, bytes, _, tails⟩ := Utf8.exists_utf8EncodeChar c
    rw [Utf8.encode_cons] at found
    rcases isRaw.unescape?_cases found with ⟨_, none⟩ | ⟨b, s, after, rfl, plain, rest, read, same⟩ |
      ⟨written, c', s, after, rfl, rest, read, same, extends_⟩
    · rw [bytes] at none
      cases none
    · rw [bytes] at same
      obtain ⟨rfl, rfl⟩ := List.cons.inj same
      obtain ⟨s, rfl, inner, read⟩ := rest.exists_of_tails tails read
      obtain ⟨control, quote, backslash⟩ := needs_no_escape bytes plain
      have first := Reads.plain control quote backslash (ih inner read)
      rwa [bytes] at first
    · obtain ⟨rfl, rfl⟩ := Utf8.utf8EncodeChar_append_inj same
      exact extends_ _ (ih rest read)

/-- A string has a text exactly if it spells it. -/
theorem text?_eq_some_iff {q : Quoted} (isRaw : IsRaw q.raw) {s : String} :
    q.text? = some s ↔ Reads q.raw s.toList := by
  unfold text?
  rw [Option.map_eq_some_iff]
  constructor
  · rintro ⟨text, read, rfl⟩
    obtain ⟨bytes, found, decoded⟩ := Option.bind_eq_some_iff.mp read
    rw [Utf8.decode?_eq_some_iff] at decoded
    subst decoded
    rw [String.toList_ofList]
    exact isRaw.reads found
  · intro reads
    refine ⟨s.toList, ?_, String.ofList_toList⟩
    rw [unescape?_of_reads reads, Option.bind_some, Utf8.decode?_encode]

end Quoted

end DiagramStudio
