import DiagramStudio.Text.Utf8

/-!
Every text can be read back from its bytes: the bytes of one character make up one well-formed
sequence, of which reading gives that character, whatever follows it. And only the bytes of a text can be
read (`decode?_eq_some_iff`): a well-formed sequence is that of the character it is read as.
-/

namespace DiagramStudio.Text.Utf8

theorem toNat_ofNat {n : Nat} (byte : n < 256) : (UInt8.ofNat n).toNat = n := by
  simp only [UInt8.toNat_ofNat']
  exact Nat.mod_eq_of_lt byte

theorem ofNat_lt {n : Nat} {b : UInt8} (byte : n < 256) : UInt8.ofNat n < b ↔ n < b.toNat := by
  rw [UInt8.lt_iff_toNat_lt, toNat_ofNat byte]

theorem ofNat_le {n : Nat} {b : UInt8} (byte : n < 256) : UInt8.ofNat n ≤ b ↔ n ≤ b.toNat := by
  rw [UInt8.le_iff_toNat_le, toNat_ofNat byte]

theorem le_ofNat {n : Nat} {b : UInt8} (byte : n < 256) : b ≤ UInt8.ofNat n ↔ b.toNat ≤ n := by
  rw [UInt8.le_iff_toNat_le, toNat_ofNat byte]

theorem ofNat_eq {n : Nat} {b : UInt8} (byte : n < 256) : UInt8.ofNat n = b ↔ n = b.toNat := by
  rw [← UInt8.toNat_inj, toNat_ofNat byte]

/-- The length of a sequence as a function of the number of its first byte. -/
theorem width_ofNat {n : Nat} (byte : n < 256) :
    width (UInt8.ofNat n) =
      if n < 0x80 then 1 else if n < 0xC2 then 0 else if n < 0xE0 then 2
      else if n < 0xF0 then 3 else if n < 0xF5 then 4 else 0 := by
  simp only [width, ofNat_lt byte]
  rfl

theorem isTail_ofNat {n : Nat} (low : 0x80 ≤ n) (high : n ≤ 0xBF) : isTail (UInt8.ofNat n) = true := by
  have byte : n < 256 := by omega
  simp only [isTail, Bool.and_eq_true, decide_eq_true_eq, le_ofNat byte, ofNat_le byte]
  exact ⟨low, high⟩

/-- Which second bytes there are, as a condition on numbers. -/
theorem mayFollow_ofNat {m n : Nat} (first : m < 256) (low : 0x80 ≤ n) (high : n ≤ 0xBF)
    (notOverlong : m = 0xE0 → 0xA0 ≤ n) (notSurrogate : m = 0xED → n ≤ 0x9F)
    (notOverlong' : m = 0xF0 → 0x90 ≤ n) (notBeyond : m = 0xF4 → n ≤ 0x8F) :
    mayFollow (UInt8.ofNat m) (UInt8.ofNat n) = true := by
  have byte : n < 256 := by omega
  simp only [mayFollow, beq_iff_eq, ofNat_eq first]
  split
  · next same =>
    simp only [Bool.and_eq_true, decide_eq_true_eq, le_ofNat byte, ofNat_le byte]
    exact ⟨notOverlong same, high⟩
  · split
    · next same =>
      simp only [Bool.and_eq_true, decide_eq_true_eq, le_ofNat byte, ofNat_le byte]
      exact ⟨low, notSurrogate same⟩
    · split
      · next same =>
        simp only [Bool.and_eq_true, decide_eq_true_eq, le_ofNat byte, ofNat_le byte]
        exact ⟨notOverlong' same, high⟩
      · split
        · next same =>
          simp only [Bool.and_eq_true, decide_eq_true_eq, le_ofNat byte, ofNat_le byte]
          exact ⟨low, notBeyond same⟩
        · exact isTail_ofNat low high

theorem push_ofNat {n k : Nat} (low : k < 64) : push n (UInt8.ofNat (k + 0x80)) = n * 64 + k := by
  rw [push, toNat_ofNat (by omega)]
  omega

/-- One sequence is read off at the front of what the bytes of one character begin. -/
theorem scan_utf8EncodeChar (c : Char) (rest : List UInt8) :
    ∃ a more, String.utf8EncodeChar c = a :: more ∧ scan a (more ++ rest) = (some c, rest) := by
  have number : c.val.toNat = c.toNat := rfl
  have valid := c.valid
  simp only [UInt32.isValidChar, Nat.isValidChar, number] at valid
  have back : Char.ofNat c.toNat = c := Char.ofNat_toNat c
  simp only [String.utf8EncodeChar, number]
  generalize c.toNat = v at *
  split
  · next small =>
    refine ⟨_, _, rfl, ?_⟩
    have length : width (UInt8.ofNat v) = 1 := by rw [width_ofNat (by omega), if_pos (by omega)]
    simp only [scan, length, toNat_ofNat (show v < 256 by omega), back, List.nil_append]
  · split
    · next notOne two =>
      refine ⟨_, _, rfl, ?_⟩
      have length : width (UInt8.ofNat (v / 64 % 0x20 + 0xc0)) = 2 := by
        rw [width_ofNat (by omega)]
        repeat rw [if_neg (by omega)]
        rw [if_pos (by omega)]
      have follows := mayFollow_ofNat (m := v / 64 % 0x20 + 0xc0) (n := v % 0x40 + 0x80) (by omega)
        (by omega) (by omega) (by omega) (by omega) (by omega) (by omega)
      have joined : (v / 64 % 0x20 + 0xc0) % 32 * 64 + v % 64 = v := by omega
      simp only [scan, length, List.cons_append, List.nil_append, follows, if_true,
        push_ofNat (show v % 0x40 < 64 by omega), toNat_ofNat (show v / 64 % 0x20 + 0xc0 < 256 by omega),
        joined, back]
    · split
      · next notTwo three =>
        refine ⟨_, _, rfl, ?_⟩
        have length : width (UInt8.ofNat (v / 4096 % 0x10 + 0xe0)) = 3 := by
          rw [width_ofNat (by omega)]
          repeat rw [if_neg (by omega)]
          rw [if_pos (by omega)]
        have follows := mayFollow_ofNat (m := v / 4096 % 0x10 + 0xe0) (n := v / 64 % 0x40 + 0x80)
          (by omega) (by omega) (by omega) (by omega) (by omega) (by omega) (by omega)
        have tail := isTail_ofNat (n := v % 0x40 + 0x80) (by omega) (by omega)
        have joined : ((v / 4096 % 0x10 + 0xe0) % 16 * 64 + v / 64 % 64) * 64 + v % 64 = v := by omega
        simp only [scan, length, List.cons_append, List.nil_append, follows, tail, if_true,
          push_ofNat (show v % 0x40 < 64 by omega), push_ofNat (show v / 64 % 0x40 < 64 by omega),
          toNat_ofNat (show v / 4096 % 0x10 + 0xe0 < 256 by omega), joined, back]
      · next notThree =>
        refine ⟨_, _, rfl, ?_⟩
        have length : width (UInt8.ofNat (v / 262144 % 0x08 + 0xf0)) = 4 := by
          rw [width_ofNat (by omega)]
          repeat rw [if_neg (by omega)]
          rw [if_pos (by omega)]
        have follows := mayFollow_ofNat (m := v / 262144 % 0x08 + 0xf0) (n := v / 4096 % 0x40 + 0x80)
          (by omega) (by omega) (by omega) (by omega) (by omega) (by omega) (by omega)
        have tail := isTail_ofNat (n := v / 64 % 0x40 + 0x80) (by omega) (by omega)
        have tail' := isTail_ofNat (n := v % 0x40 + 0x80) (by omega) (by omega)
        have joined : (((v / 262144 % 0x08 + 0xf0) % 8 * 64 + v / 4096 % 64) * 64 + v / 64 % 64) * 64
            + v % 64 = v := by omega
        simp only [scan, length, List.cons_append, List.nil_append, follows, tail, tail', if_true,
          push_ofNat (show v % 0x40 < 64 by omega), push_ofNat (show v / 64 % 0x40 < 64 by omega),
          push_ofNat (show v / 4096 % 0x40 < 64 by omega),
          toNat_ofNat (show v / 262144 % 0x08 + 0xf0 < 256 by omega), joined, back]

theorem encode_cons (c : Char) (s : List Char) : encode (c :: s) = String.utf8EncodeChar c ++ encode s :=
  List.flatMap_cons

/-- The bytes of a character tell it, whatever follows them. -/
theorem utf8EncodeChar_append_inj {c d : Char} {s t : List UInt8}
    (same : String.utf8EncodeChar c ++ s = String.utf8EncodeChar d ++ t) : c = d ∧ s = t := by
  obtain ⟨a, more, bytes, scanned⟩ := scan_utf8EncodeChar c s
  obtain ⟨b, others, bytes', scanned'⟩ := scan_utf8EncodeChar d t
  rw [bytes, bytes', List.cons_append, List.cons_append, List.cons.injEq] at same
  obtain ⟨rfl, same⟩ := same
  rw [same, scanned'] at scanned
  cases scanned
  exact ⟨rfl, rfl⟩

theorem decode?_encode (s : List Char) : decode? (encode s) = some s := by
  induction s with
  | nil => simp [encode, decode?]
  | cons c rest ih =>
    obtain ⟨a, more, bytes, scanned⟩ := scan_utf8EncodeChar c (encode rest)
    have front : encode (c :: rest) = a :: (more ++ encode rest) := by
      rw [encode, List.flatMap_cons, bytes]
      rfl
    rw [front, decode?, scanned]
    simp [ih]

/-! ## Well-formed bytes -/

theorem width_eq (a : UInt8) :
    width a = if a.toNat < 0x80 then 1 else if a.toNat < 0xC2 then 0 else if a.toNat < 0xE0 then 2
      else if a.toNat < 0xF0 then 3 else if a.toNat < 0xF5 then 4 else 0 := by
  rw [← width_ofNat a.toNat_lt, UInt8.ofNat_toNat]

theorem isTail_iff {b : UInt8} : isTail b = true ↔ 0x80 ≤ b.toNat ∧ b.toNat ≤ 0xBF := by
  simp only [isTail, Bool.and_eq_true, decide_eq_true_eq, UInt8.le_iff_toNat_le]
  rfl

/-- The bytes of a character: the first opens a sequence, the others do not. -/
theorem exists_utf8EncodeChar (c : Char) :
    ∃ a more, String.utf8EncodeChar c = a :: more ∧ isTail a = false ∧ ∀ b ∈ more, isTail b = true := by
  have number : c.val.toNat = c.toNat := rfl
  have valid := c.valid
  simp only [UInt32.isValidChar, Nat.isValidChar, number] at valid
  simp only [String.utf8EncodeChar, number]
  generalize c.toNat = v at *
  have opens {n : Nat} (byte : n < 256) (outside : n < 0x80 ∨ 0xBF < n) : isTail (UInt8.ofNat n) = false := by
    rw [← Bool.not_eq_true, isTail_iff, toNat_ofNat byte]
    omega
  have tail (n : Nat) : isTail (UInt8.ofNat (n % 0x40 + 0x80)) = true := isTail_ofNat (by omega) (by omega)
  split
  · exact ⟨_, _, rfl, opens (by omega) (by omega), by simp only [List.not_mem_nil, false_implies, implies_true]⟩
  · split
    · refine ⟨_, _, rfl, opens (by omega) (by omega), ?_⟩
      simp only [List.forall_mem_cons, List.not_mem_nil, false_implies, implies_true, tail, and_self]
    · split
      · refine ⟨_, _, rfl, opens (by omega) (by omega), ?_⟩
        simp only [List.forall_mem_cons, List.not_mem_nil, false_implies, implies_true, tail, and_self]
      · refine ⟨_, _, rfl, opens (by omega) (by omega), ?_⟩
        simp only [List.forall_mem_cons, List.not_mem_nil, false_implies, implies_true, tail, and_self]

/-- A second byte is a tail, and neither too small for its first nor too large. -/
theorem mayFollow_bounds {a b : UInt8} (follows : mayFollow a b = true) :
    (0x80 ≤ b.toNat ∧ b.toNat ≤ 0xBF) ∧ (a.toNat = 0xE0 → 0xA0 ≤ b.toNat) ∧ (a.toNat = 0xED → b.toNat ≤ 0x9F) ∧
      (a.toNat = 0xF0 → 0x90 ≤ b.toNat) ∧ (a.toNat = 0xF4 → b.toNat ≤ 0x8F) := by
  simp only [mayFollow, isTail, beq_iff_eq, ← UInt8.toNat_inj, UInt8.reduceToNat] at follows
  split at follows
  · simp only [Bool.and_eq_true, decide_eq_true_eq, UInt8.le_iff_toNat_le, UInt8.reduceToNat] at follows
    omega
  · split at follows
    · simp only [Bool.and_eq_true, decide_eq_true_eq, UInt8.le_iff_toNat_le, UInt8.reduceToNat] at follows
      omega
    · split at follows
      · simp only [Bool.and_eq_true, decide_eq_true_eq, UInt8.le_iff_toNat_le, UInt8.reduceToNat] at follows
        omega
      · split at follows <;>
          (simp only [Bool.and_eq_true, decide_eq_true_eq, UInt8.le_iff_toNat_le, UInt8.reduceToNat] at follows
           omega)

theorem toNat_ofNat_of_isValidChar {n : Nat} (valid : n.isValidChar) : (Char.ofNat n).toNat = n := by
  rw [Char.ofNat, dif_pos valid]
  rfl

/-- A character of known number is written as a sequence of these bytes. -/
theorem utf8EncodeChar_ofNat {n : Nat} (valid : n.isValidChar) :
    String.utf8EncodeChar (Char.ofNat n) =
      if n ≤ 0x7f then [UInt8.ofNat n]
      else if n ≤ 0x7ff then [UInt8.ofNat (n / 64 % 0x20 + 0xc0), UInt8.ofNat (n % 0x40 + 0x80)]
      else if n ≤ 0xffff then
        [UInt8.ofNat (n / 4096 % 0x10 + 0xe0), UInt8.ofNat (n / 64 % 0x40 + 0x80), UInt8.ofNat (n % 0x40 + 0x80)]
      else [UInt8.ofNat (n / 262144 % 0x08 + 0xf0), UInt8.ofNat (n / 4096 % 0x40 + 0x80),
        UInt8.ofNat (n / 64 % 0x40 + 0x80), UInt8.ofNat (n % 0x40 + 0x80)] := by
  have number : (Char.ofNat n).val.toNat = n := toNat_ofNat_of_isValidChar valid
  simp only [String.utf8EncodeChar, number]

theorem utf8EncodeChar_two {a b : UInt8} (first : 0xC2 ≤ a.toNat ∧ a.toNat < 0xE0)
    (tail : 0x80 ≤ b.toNat ∧ b.toNat ≤ 0xBF) :
    String.utf8EncodeChar (Char.ofNat (push (a.toNat % 32) b)) = [a, b] := by
  unfold push
  generalize number : a.toNat % 32 * 64 + b.toNat % 64 = n
  have front : UInt8.ofNat (n / 64 % 0x20 + 0xc0) = a := (ofNat_eq (by omega)).mpr (by omega)
  have last : UInt8.ofNat (n % 0x40 + 0x80) = b := (ofNat_eq (by omega)).mpr (by omega)
  rw [utf8EncodeChar_ofNat (by rw [Nat.isValidChar]; omega), if_neg (by omega), if_pos (by omega), front, last]

theorem utf8EncodeChar_three {a b c : UInt8} (first : 0xE0 ≤ a.toNat ∧ a.toNat < 0xF0)
    (second : 0x80 ≤ b.toNat ∧ b.toNat ≤ 0xBF) (tail : 0x80 ≤ c.toNat ∧ c.toNat ≤ 0xBF)
    (notOverlong : a.toNat = 0xE0 → 0xA0 ≤ b.toNat) (notSurrogate : a.toNat = 0xED → b.toNat ≤ 0x9F) :
    String.utf8EncodeChar (Char.ofNat (push (push (a.toNat % 16) b) c)) = [a, b, c] := by
  unfold push
  generalize number : (a.toNat % 16 * 64 + b.toNat % 64) * 64 + c.toNat % 64 = n
  have front : UInt8.ofNat (n / 4096 % 0x10 + 0xe0) = a := (ofNat_eq (by omega)).mpr (by omega)
  have middle : UInt8.ofNat (n / 64 % 0x40 + 0x80) = b := (ofNat_eq (by omega)).mpr (by omega)
  have last : UInt8.ofNat (n % 0x40 + 0x80) = c := (ofNat_eq (by omega)).mpr (by omega)
  rw [utf8EncodeChar_ofNat (by rw [Nat.isValidChar]; omega), if_neg (by omega), if_neg (by omega),
    if_pos (by omega), front, middle, last]

theorem utf8EncodeChar_four {a b c d : UInt8} (first : 0xF0 ≤ a.toNat ∧ a.toNat < 0xF5)
    (second : 0x80 ≤ b.toNat ∧ b.toNat ≤ 0xBF) (third : 0x80 ≤ c.toNat ∧ c.toNat ≤ 0xBF)
    (tail : 0x80 ≤ d.toNat ∧ d.toNat ≤ 0xBF) (notOverlong : a.toNat = 0xF0 → 0x90 ≤ b.toNat)
    (notBeyond : a.toNat = 0xF4 → b.toNat ≤ 0x8F) :
    String.utf8EncodeChar (Char.ofNat (push (push (push (a.toNat % 8) b) c) d)) = [a, b, c, d] := by
  unfold push
  generalize number : ((a.toNat % 8 * 64 + b.toNat % 64) * 64 + c.toNat % 64) * 64 + d.toNat % 64 = n
  have front : UInt8.ofNat (n / 262144 % 0x08 + 0xf0) = a := (ofNat_eq (by omega)).mpr (by omega)
  have middle : UInt8.ofNat (n / 4096 % 0x40 + 0x80) = b := (ofNat_eq (by omega)).mpr (by omega)
  have middle' : UInt8.ofNat (n / 64 % 0x40 + 0x80) = c := (ofNat_eq (by omega)).mpr (by omega)
  have last : UInt8.ofNat (n % 0x40 + 0x80) = d := (ofNat_eq (by omega)).mpr (by omega)
  rw [utf8EncodeChar_ofNat (by rw [Nat.isValidChar]; omega), if_neg (by omega), if_neg (by omega),
    if_neg (by omega), front, middle, middle', last]

/-- The first sequence of some bytes, where it is well-formed, is made of the bytes of its character. -/
theorem eq_append_of_scan {a : UInt8} {rest behind : List UInt8} {c : Char} (scanned : scan a rest = (some c, behind)) :
    a :: rest = String.utf8EncodeChar c ++ behind := by
  have byte := a.toNat_lt
  unfold scan at scanned
  rw [width_eq] at scanned
  by_cases one : a.toNat < 0x80
  · rw [if_pos one] at scanned
    cases scanned
    rw [utf8EncodeChar_ofNat (by rw [Nat.isValidChar]; omega), if_pos (by omega), UInt8.ofNat_toNat]
    rfl
  rw [if_neg one] at scanned
  by_cases opens : a.toNat < 0xC2
  · rw [if_pos opens] at scanned
    cases scanned
  rw [if_neg opens] at scanned
  by_cases two : a.toNat < 0xE0
  · rw [if_pos two] at scanned
    simp only at scanned
    split at scanned
    · split at scanned
      · next follows =>
        cases scanned
        obtain ⟨tail, _⟩ := mayFollow_bounds follows
        rw [utf8EncodeChar_two (by omega) tail]
        rfl
      · cases scanned
    · cases scanned
  rw [if_neg two] at scanned
  by_cases three : a.toNat < 0xF0
  · rw [if_pos three] at scanned
    simp only at scanned
    split at scanned
    · split at scanned
      · next follows =>
        split at scanned
        · split at scanned
          · next tail =>
            cases scanned
            obtain ⟨second, notOverlong, notSurrogate, _⟩ := mayFollow_bounds follows
            rw [utf8EncodeChar_three (by omega) second (isTail_iff.mp tail) notOverlong notSurrogate]
            rfl
          · cases scanned
        · cases scanned
      · cases scanned
    · cases scanned
  rw [if_neg three] at scanned
  by_cases four : a.toNat < 0xF5
  · rw [if_pos four] at scanned
    simp only at scanned
    split at scanned
    · split at scanned
      · next follows =>
        split at scanned
        · split at scanned
          · next third =>
            split at scanned
            · split at scanned
              · next tail =>
                cases scanned
                obtain ⟨second, _, _, notOverlong, notBeyond⟩ := mayFollow_bounds follows
                rw [utf8EncodeChar_four (by omega) second (isTail_iff.mp third) (isTail_iff.mp tail) notOverlong
                  notBeyond]
                rfl
              · cases scanned
            · cases scanned
          · cases scanned
        · cases scanned
      · cases scanned
    · cases scanned
  rw [if_neg four] at scanned
  cases scanned

/-- Bytes spell a text exactly if they are those that it is written with. -/
theorem decode?_eq_some_iff {bytes : List UInt8} {s : List Char} : decode? bytes = some s ↔ bytes = encode s := by
  constructor
  · intro decoded
    induction bytes using decode?.induct generalizing s with
    | case1 =>
      rw [decode?] at decoded
      cases decoded
      rfl
    | case2 a rest c scanned ih =>
      rw [decode?, scanned] at decoded
      obtain ⟨t, tail, rfl⟩ := Option.map_eq_some_iff.mp decoded
      have front := eq_append_of_scan (show scan a rest = (some c, (scan a rest).2) by rw [← scanned])
      rw [front, ih tail]
      rfl
    | case3 a rest scanned =>
      rw [decode?, scanned] at decoded
      cases decoded
  · rintro rfl
    exact decode?_encode s

end DiagramStudio.Text.Utf8
