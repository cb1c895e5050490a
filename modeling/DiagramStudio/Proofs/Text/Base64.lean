import DiagramStudio.Proofs.Text.Utf8
import DiagramStudio.Text.Base64

/-!
Base 64 loses nothing: the groups of six bits hold the bytes, and every group has a character of its
own. The characters of the alphabet of links are letters, digits and two signs, and nothing else can be
read than what bytes are written with (`decode?_eq_some_iff`); what such a text begins with can only be read
as what the bytes begin with (`prefix_of_decode?`). The alphabet of embedded data fills up
with a character that stands for no bits, so what it writes is read back too (`decode?_encode_standard`).
-/

namespace DiagramStudio.Text.Base64

/-- Regrouping bits by six and by eight again gives the bytes back. -/
theorem ofSextets?_sextets (bytes : List UInt8) : ofSextets? (sextets bytes) = some bytes := by
  induction bytes using sextets.induct with
  | case1 => rfl
  | case2 a =>
    have low := a.toNat_lt
    have first : a.toNat / 4 * 4 + a.toNat % 4 * 16 / 16 = a.toNat := by omega
    have zero : a.toNat % 4 * 16 % 16 = 0 := by omega
    simp only [sextets, ofSextets?, zero, if_true, first, UInt8.ofNat_toNat]
  | case3 a b =>
    have lowA := a.toNat_lt
    have lowB := b.toNat_lt
    have first : a.toNat / 4 * 4 + (a.toNat % 4 * 16 + b.toNat / 16) / 16 = a.toNat := by omega
    have second : (a.toNat % 4 * 16 + b.toNat / 16) % 16 * 16 + b.toNat % 16 * 4 / 4 = b.toNat := by omega
    have zero : b.toNat % 16 * 4 % 4 = 0 := by omega
    simp only [sextets, ofSextets?, zero, if_true, first, second, UInt8.ofNat_toNat]
  | case4 a b c rest ih =>
    have lowA := a.toNat_lt
    have lowB := b.toNat_lt
    have lowC := c.toNat_lt
    have first : a.toNat / 4 * 4 + (a.toNat % 4 * 16 + b.toNat / 16) / 16 = a.toNat := by omega
    have second : (a.toNat % 4 * 16 + b.toNat / 16) % 16 * 16 + (b.toNat % 16 * 4 + c.toNat / 64) / 4
        = b.toNat := by omega
    have third : (b.toNat % 16 * 4 + c.toNat / 64) % 4 * 64 + c.toNat % 64 = c.toNat := by omega
    simp only [sextets, ofSextets?, ih, Option.map_some, first, second, third, UInt8.ofNat_toNat]

theorem sextets_lt {bytes : List UInt8} {n : Nat} (member : n ∈ sextets bytes) : n < 64 := by
  induction bytes using sextets.induct with
  | case1 => simp [sextets] at member
  | case2 a =>
    have low := a.toNat_lt
    simp only [sextets, List.mem_cons, List.not_mem_nil, or_false] at member
    omega
  | case3 a b =>
    have lowA := a.toNat_lt
    have lowB := b.toNat_lt
    simp only [sextets, List.mem_cons, List.not_mem_nil, or_false] at member
    omega
  | case4 a b c rest ih =>
    have lowA := a.toNat_lt
    have lowB := b.toNat_lt
    have lowC := c.toNat_lt
    simp only [sextets, List.mem_cons] at member
    rcases member with first | second | third | fourth | later
    · omega
    · omega
    · omega
    · omega
    · exact ih later

theorem sextets_ne_nil {bytes : List UInt8} (some : bytes ≠ []) : sextets bytes ≠ [] := by
  cases bytes using sextets.induct <;> simp_all [sextets]

/-! ## Characters for groups -/

/-- Every group of six bits has a character of its own. -/
def Distinct (alphabet : Base64) : Prop := ∀ n < 64, alphabet.value? (alphabet.symbol n) = some n

theorem mapM_value?_symbol {alphabet : Base64} (distinct : alphabet.Distinct) {groups : List Nat}
    (small : ∀ n ∈ groups, n < 64) : (groups.map alphabet.symbol).mapM alphabet.value? = some groups := by
  induction groups with
  | nil => rfl
  | cons n more ih =>
    have head := distinct n (small n List.mem_cons_self)
    have tail := ih fun m member => small m (List.mem_cons_of_mem n member)
    simp [head, tail]

/-! ## The alphabet of links -/

theorem distinct_urlSafe : urlSafe.Distinct := by
  unfold Distinct
  decide

/-- A letter, a digit, a hyphen or an underscore. -/
def isUrlSafe (c : Char) : Bool := c.isAlphanum || c == '-' || c == '_'

theorem isUrlSafe_iff {c : Char} : isUrlSafe c = true ↔
    ('A' ≤ c ∧ c ≤ 'Z') ∨ ('a' ≤ c ∧ c ≤ 'z') ∨ ('0' ≤ c ∧ c ≤ '9') ∨ c = '-' ∨ c = '_' := by
  have upper : c.isUpper = true ↔ 'A' ≤ c ∧ c ≤ 'Z' := decide_eq_true_iff
  have lower : c.isLower = true ↔ 'a' ≤ c ∧ c ≤ 'z' :=
    Bool.and_eq_true_iff.trans (and_congr decide_eq_true_iff decide_eq_true_iff)
  have digit : c.isDigit = true ↔ '0' ≤ c ∧ c ≤ '9' :=
    Bool.and_eq_true_iff.trans (and_congr decide_eq_true_iff decide_eq_true_iff)
  have classes : isUrlSafe c = (c.isUpper || c.isLower || c.isDigit || c == '-' || c == '_') := rfl
  rw [classes]
  simp only [Bool.or_eq_true, beq_iff_eq, upper, lower, digit, or_assoc]

private theorem isUrlSafe_symbol_all : ∀ n < 64, isUrlSafe (urlSafe.symbol n) = true := by
  decide

theorem encode_urlSafe (bytes : List UInt8) : urlSafe.encode bytes = (sextets bytes).map urlSafe.symbol := by
  simp [encode, fill, urlSafe]

theorem isUrlSafe_of_mem_encode {bytes : List UInt8} {c : Char} (member : c ∈ urlSafe.encode bytes) :
    isUrlSafe c = true := by
  rw [encode_urlSafe, List.mem_map] at member
  obtain ⟨n, inside, rfl⟩ := member
  exact isUrlSafe_symbol_all n (sextets_lt inside)

theorem decode?_encode (bytes : List UInt8) : urlSafe.decode? (urlSafe.encode bytes) = some bytes := by
  have small : ∀ n ∈ sextets bytes, n < 64 := fun n => sextets_lt
  have values := mapM_value?_symbol distinct_urlSafe small
  rw [encode_urlSafe, decode?]
  simp only [body, fill, show urlSafe.padding = none from rfl, List.append_nil, if_true, values,
    Option.bind_some, ofSextets?_sextets]

/-! ## What can be read -/

/-- A character stands for the six bits that it is written for. -/
theorem symbol_of_value? {c : Char} {n : Nat} (value : urlSafe.value? c = some n) :
    n < 64 ∧ urlSafe.symbol n = c := by
  have bounds {low high : Char} (inside : low ≤ c ∧ c ≤ high) : low.toNat ≤ c.toNat ∧ c.toNat ≤ high.toNat :=
    ⟨UInt32.le_iff_toNat_le.mp inside.1, UInt32.le_iff_toNat_le.mp inside.2⟩
  have upperA : 'A'.toNat = 65 := rfl
  have upperZ : 'Z'.toNat = 90 := rfl
  have lowerA : 'a'.toNat = 97 := rfl
  have lowerZ : 'z'.toNat = 122 := rfl
  have zero : '0'.toNat = 48 := rfl
  have nine : '9'.toNat = 57 := rfl
  unfold value? at value
  split at value
  · next upper =>
    obtain ⟨low, high⟩ := bounds upper
    cases value
    rw [symbol, if_pos (by omega), Nat.add_sub_of_le low, Char.ofNat_toNat]
    exact ⟨by omega, rfl⟩
  split at value
  · next lower =>
    obtain ⟨low, high⟩ := bounds lower
    cases value
    rw [symbol, if_neg (by omega), if_pos (by omega), Nat.add_sub_cancel, Nat.add_sub_of_le low, Char.ofNat_toNat]
    exact ⟨by omega, rfl⟩
  split at value
  · next digit =>
    obtain ⟨low, high⟩ := bounds digit
    cases value
    rw [symbol, if_neg (by omega), if_neg (by omega), if_pos (by omega), Nat.add_sub_cancel,
      Nat.add_sub_of_le low, Char.ofNat_toNat]
    exact ⟨by omega, rfl⟩
  split at value
  · next hyphen => cases value; exact ⟨by decide, hyphen.symm⟩
  split at value
  · next underscore => cases value; exact ⟨by decide, underscore.symm⟩
  · cases value

theorem map_symbol_of_mapM_value? {s : List Char} {groups : List Nat} (values : s.mapM urlSafe.value? = some groups) :
    (∀ n ∈ groups, n < 64) ∧ groups.map urlSafe.symbol = s := by
  induction s generalizing groups with
  | nil => cases values; simp
  | cons c more ih =>
    simp only [List.mapM_cons, bind, Option.bind_eq_some_iff, pure, Option.some.injEq] at values
    obtain ⟨n, value, others, later, rfl⟩ := values
    obtain ⟨small, symbol⟩ := symbol_of_value? value
    obtain ⟨small', symbols⟩ := ih later
    exact ⟨List.forall_mem_cons.mpr ⟨small, small'⟩, by rw [List.map_cons, symbol, symbols]⟩

/-- Groups of six bits from which bytes can be made are those that these bytes are cut into. -/
theorem sextets_of_ofSextets? {groups : List Nat} {bytes : List UInt8} (small : ∀ n ∈ groups, n < 64)
    (made : ofSextets? groups = some bytes) : sextets bytes = groups := by
  induction groups using ofSextets?.induct generalizing bytes with
  | case1 => cases made; rfl
  | case2 p => cases made
  | case3 p q zero =>
    simp only [List.forall_mem_cons] at small
    obtain ⟨p64, q64, _⟩ := small
    rw [ofSextets?, if_pos zero] at made
    cases made
    have first : (UInt8.ofNat (p * 4 + q / 16)).toNat = p * 4 + q / 16 := Utf8.toNat_ofNat (by omega)
    simp only [sextets, first, List.cons.injEq, and_true]
    omega
  | case4 p q odd => rw [ofSextets?, if_neg odd] at made; cases made
  | case5 p q r zero =>
    simp only [List.forall_mem_cons] at small
    obtain ⟨p64, q64, r64, _⟩ := small
    rw [ofSextets?, if_pos zero] at made
    cases made
    have first : (UInt8.ofNat (p * 4 + q / 16)).toNat = p * 4 + q / 16 := Utf8.toNat_ofNat (by omega)
    have second : (UInt8.ofNat (q % 16 * 16 + r / 4)).toNat = q % 16 * 16 + r / 4 :=
      Utf8.toNat_ofNat (by omega)
    simp only [sextets, first, second, List.cons.injEq, and_true]
    omega
  | case6 p q r odd => rw [ofSextets?, if_neg odd] at made; cases made
  | case7 p q r s rest ih =>
    simp only [List.forall_mem_cons] at small
    obtain ⟨p64, q64, r64, s64, others⟩ := small
    rw [ofSextets?] at made
    obtain ⟨more, later, rfl⟩ := Option.map_eq_some_iff.mp made
    have first : (UInt8.ofNat (p * 4 + q / 16)).toNat = p * 4 + q / 16 := Utf8.toNat_ofNat (by omega)
    have second : (UInt8.ofNat (q % 16 * 16 + r / 4)).toNat = q % 16 * 16 + r / 4 :=
      Utf8.toNat_ofNat (by omega)
    have third : (UInt8.ofNat (r % 4 * 64 + s)).toNat = r % 4 * 64 + s := Utf8.toNat_ofNat (by omega)
    simp only [sextets, first, second, third, ih others later, List.cons.injEq, and_true]
    omega

/-- Characters can be read exactly if they are those that some bytes are written with. -/
theorem decode?_eq_some_iff {s : List Char} {bytes : List UInt8} :
    urlSafe.decode? s = some bytes ↔ s = urlSafe.encode bytes := by
  constructor
  · intro decoded
    have alone : (s.mapM urlSafe.value?).bind ofSextets? = some bytes := by
      simpa [decode?, body, fill, urlSafe] using decoded
    obtain ⟨groups, values, made⟩ := Option.bind_eq_some_iff.mp alone
    obtain ⟨small, symbols⟩ := map_symbol_of_mapM_value? values
    rw [encode_urlSafe, sextets_of_ofSextets? small made, symbols]
  · rintro rfl
    exact decode?_encode bytes

/-! ## What a text begins with -/

/-- The first byte is in the first two groups, and nothing but its bits are in their front. -/
theorem exists_sextets_cons (a : UInt8) (more : List UInt8) :
    ∃ g groups, sextets (a :: more) = a.toNat / 4 :: g :: groups ∧ g / 16 = a.toNat % 4 := by
  have byte (b : UInt8) : (a.toNat % 4 * 16 + b.toNat / 16) / 16 = a.toNat % 4 := by
    have low := b.toNat_lt
    omega
  match more with
  | [] => exact ⟨_, _, rfl, by omega⟩
  | [b] => exact ⟨_, _, rfl, byte b⟩
  | b :: _ :: _ => exact ⟨_, _, rfl, byte b⟩

theorem exists_sextets_cons_cons (a b : UInt8) (more : List UInt8) :
    ∃ g groups, sextets (a :: b :: more) = a.toNat / 4 :: (a.toNat % 4 * 16 + b.toNat / 16) :: g :: groups ∧
      g / 4 = b.toNat % 16 := by
  match more with
  | [] => exact ⟨_, _, rfl, by omega⟩
  | c :: _ =>
    have low := c.toNat_lt
    exact ⟨_, _, rfl, by omega⟩

/-- Groups of six bits that the groups of some bytes begin with hold nothing but what the bytes begin with. -/
theorem prefix_of_sextets {cut bytes : List UInt8} (front : sextets cut <+: sextets bytes) : cut <+: bytes := by
  induction cut using sextets.induct generalizing bytes with
  | case1 => exact List.nil_prefix
  | case2 a =>
    match bytes with
    | [] => simp [sextets] at front
    | a' :: more =>
      obtain ⟨g, groups, written, bits⟩ := exists_sextets_cons a' more
      simp only [written, sextets, List.cons_prefix_cons] at front
      obtain rfl : a = a' := UInt8.toNat_inj.mp (by omega)
      exact List.prefix_append [a] more
  | case3 a b =>
    match bytes with
    | [] => simp [sextets] at front
    | [_] => simp [sextets] at front
    | a' :: b' :: more =>
      have low := b.toNat_lt
      have low' := b'.toNat_lt
      obtain ⟨g, groups, written, bits⟩ := exists_sextets_cons_cons a' b' more
      simp only [written, sextets, List.cons_prefix_cons] at front
      obtain rfl : a = a' := UInt8.toNat_inj.mp (by omega)
      obtain rfl : b = b' := UInt8.toNat_inj.mp (by omega)
      exact List.prefix_append [a, b] more
  | case4 a b c rest ih =>
    match bytes with
    | [] => simp [sextets] at front
    | [_] => simp [sextets] at front
    | [_, _] => simp [sextets] at front
    | a' :: b' :: c' :: rest' =>
      have low := b.toNat_lt
      have low' := b'.toNat_lt
      have high := c.toNat_lt
      have high' := c'.toNat_lt
      simp only [sextets, List.cons_prefix_cons] at front
      obtain rfl : a = a' := UInt8.toNat_inj.mp (by omega)
      obtain rfl : b = b' := UInt8.toNat_inj.mp (by omega)
      obtain rfl : c = c' := UInt8.toNat_inj.mp (by omega)
      obtain ⟨behind, rfl⟩ := ih front.2.2.2.2
      exact ⟨behind, rfl⟩

/-- Of what some bytes are written with no front can be read but as what the bytes begin with. -/
theorem prefix_of_decode? {bytes cut : List UInt8} {s : List Char} (front : s <+: urlSafe.encode bytes)
    (decoded : urlSafe.decode? s = some cut) : cut <+: bytes := by
  rw [decode?_eq_some_iff.mp decoded, encode_urlSafe, encode_urlSafe] at front
  obtain ⟨behind, whole⟩ := front
  obtain ⟨groups, more, split_, same, _⟩ := List.map_eq_append_iff.mp whole.symm
  have small : ∀ n ∈ groups, n < 64 := fun n member => sextets_lt (split_ ▸ List.mem_append_left more member)
  have values := mapM_value?_symbol distinct_urlSafe small
  rw [same, mapM_value?_symbol distinct_urlSafe fun n => sextets_lt] at values
  exact prefix_of_sextets ⟨more, by rw [Option.some.inj values, split_]⟩

/-! ## The alphabet of embedded data -/

theorem distinct_standard : standard.Distinct := by
  unfold Distinct
  decide

/-- The characters of the alphabet of embedded data, with that which fills up the last group. -/
def isStandard (c : Char) : Bool := c.isAlphanum || c == '+' || c == '/' || c == '='

private theorem isStandard_symbol_all :
    ∀ n < 64, isStandard (standard.symbol n) = true ∧ standard.symbol n ≠ '=' := by
  decide

theorem isStandard_of_mem_encode {bytes : List UInt8} {c : Char} (member : c ∈ standard.encode bytes) :
    isStandard c = true := by
  rcases List.mem_append.mp member with inside | filling
  · obtain ⟨n, among, rfl⟩ := List.mem_map.mp inside
    exact (isStandard_symbol_all n (sextets_lt among)).1
  · rw [List.eq_of_mem_replicate filling]
    rfl

/-- The characters in front of those that fill up are those of the groups. -/
theorem body_encode_standard (bytes : List UInt8) :
    standard.body (standard.encode bytes) = (sextets bytes).map standard.symbol := by
  have inside : ∀ c ∈ (sextets bytes).map standard.symbol, (c != '=') = true := by
    intro c member
    obtain ⟨n, among, rfl⟩ := List.mem_map.mp member
    simpa using (isStandard_symbol_all n (sextets_lt among)).2
  have filled (count : Nat) : (List.replicate count '=').takeWhile (· != '=') = [] := by
    cases count <;> rfl
  have written : standard.body (standard.encode bytes) = (standard.encode bytes).takeWhile (· != '=') := rfl
  rw [written, encode, List.takeWhile_append_of_pos inside]
  exact (congrArg (_ ++ ·) (filled _)).trans (List.append_nil _)

theorem decode?_encode_standard (bytes : List UInt8) : standard.decode? (standard.encode bytes) = some bytes := by
  have values := mapM_value?_symbol distinct_standard fun n (member : n ∈ sextets bytes) => sextets_lt member
  simp only [decode?, body_encode_standard, values, Option.bind_some, ofSextets?_sextets]
  exact if_pos rfl

end DiagramStudio.Text.Base64
