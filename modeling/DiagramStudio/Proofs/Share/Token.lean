import DiagramStudio.Proofs.Json.Written
import DiagramStudio.Proofs.Text.Base64
import DiagramStudio.Proofs.Text.White
import DiagramStudio.Share.State

/-!
Tokens: a token is made of link-safe characters, and reading it gives back the state it was made
of (`decode?_encode`), whatever characters its texts have. The mark of links in front of it and white
space around both make no difference (`decode?_surrounded`).
-/

namespace DiagramStudio.SharedState

/-- A state as members of an object, each a string. -/
def members (s : SharedState) : List (Quoted × Quoted) :=
  [("c", s.source), ("t", s.title), ("m", s.mode.name)].map fun m => (.ofText m.1, .ofText m.2)

theorem toJson_eq (s : SharedState) : s.toJson = .object (s.members.map fun m => (m.1, .string m.2)) := rfl

theorem read?_toJson (s : SharedState) : Json.read? s.toJson.render = some s.toJson := by
  rw [toJson_eq]
  apply Json.read?_strings
  · simp [members]
  · intro m member
    obtain ⟨texts, _, rfl⟩ := List.mem_map.mp member
    exact ⟨Quoted.closes_ofText _, Quoted.closes_ofText _⟩

theorem named?_ofMembers (entries : List (String × Json)) :
    named? (entries.map fun m => (Quoted.ofText m.1, m.2)) = some entries := by
  unfold named?
  induction entries with
  | nil => rfl
  | cons e more ih => simp [Quoted.text?_ofText, ih]

theorem ofJson?_toJson (s : SharedState) : ofJson? s.toJson = some s := by
  have mode : ViewMode.ofJson? s.mode.toJson = some s.mode := by
    simp only [ViewMode.toJson, Json.ofText, ViewMode.ofJson?, Quoted.text?_ofText, Option.bind_some,
      ViewMode.ofName?_name]
  rw [toJson, Json.ofMembers, ofJson?, named?_ofMembers]
  simp [unique?, title?, mode?, mode]

/-! ## The text of a token -/

theorem isUrlSafe_of_mem_encode {s : SharedState} {c : Char} (member : c ∈ s.encode) :
    Text.Base64.isUrlSafe c = true :=
  Text.Base64.isUrlSafe_of_mem_encode member

theorem encode_ne_nil (s : SharedState) : s.encode ≠ [] := by
  have bytes : s.toJson.render ≠ [] := by simp [toJson, Json.ofMembers, Json.render]
  have groups := Text.Base64.sextets_ne_nil bytes
  simp [encode, Text.Base64.encode, groups]

/-- Link-safe characters are ASCII. -/
theorem toNat_lt_of_isUrlSafe {c : Char} (safe : Text.Base64.isUrlSafe c = true) : c.toNat < 0x7F := by
  have below {high : Char} (most : c ≤ high) (ascii : high.toNat < 0x7F) : c.toNat < 0x7F :=
    Nat.lt_of_le_of_lt (UInt32.le_iff_toNat_le.mp most) ascii
  rcases Text.Base64.isUrlSafe_iff.mp safe with upper | lower | digit | rfl | rfl
  · exact below upper.2 (by decide)
  · exact below lower.2 (by decide)
  · exact below digit.2 (by decide)
  · decide
  · decide

private theorem notWhite_all : ∀ n < 0x7F, Text.Base64.isUrlSafe (Char.ofNat n) = true →
    Text.isWhite (Char.ofNat n) = false ∧ Char.ofNat n ≠ mark := by
  decide +kernel

/-- No link-safe character is white space or introduces a token. -/
theorem notWhite_of_isUrlSafe {c : Char} (safe : Text.Base64.isUrlSafe c = true) :
    Text.isWhite c = false ∧ c ≠ mark := by
  have all := notWhite_all c.toNat (toNat_lt_of_isUrlSafe safe)
  rw [Char.ofNat_toNat] at all
  exact all safe

/-- In a text of other characters than white space and marks nothing is taken for what surrounds a token. -/
def IsPlain (s : List Char) : Prop := ∀ c ∈ s, Text.isWhite c = false ∧ c ≠ mark

theorem IsPlain.isTrimmed {s : List Char} (plain : IsPlain s) : Text.IsTrimmed s :=
  ⟨fun c member => (plain c (List.mem_of_mem_head? member)).1,
    fun c member => (plain c (List.mem_of_mem_getLast? member)).1⟩

/-- A marked text is trimmed as well: the mark is not white space. -/
theorem IsPlain.isTrimmed_mark {s : List Char} (plain : IsPlain s) : Text.IsTrimmed (mark :: s) := by
  have notWhite : Text.isWhite mark = false := by decide
  refine ⟨?_, ?_⟩
  · intro c member
    cases member
    exact notWhite
  · intro c member
    rcases List.mem_cons.mp (List.mem_of_mem_getLast? member) with rfl | inside
    · exact notWhite
    · exact (plain c inside).1

section
variable {s before after : List Char} (plain : IsPlain s) (front : Text.isBlank before) (back : Text.isBlank after)
include plain front back

theorem token_surrounded : token (before ++ s ++ after) = s := by
  rw [token, Text.trim_surrounded plain.isTrimmed front back]
  cases s with
  | nil => rfl
  | cons c more => exact if_neg (plain c List.mem_cons_self).2

theorem token_mark_surrounded : token (before ++ mark :: s ++ after) = s := by
  rw [token, Text.trim_surrounded plain.isTrimmed_mark front back]
  exact if_pos rfl

end

theorem isPlain_encode (s : SharedState) : IsPlain s.encode :=
  fun _ member => notWhite_of_isUrlSafe (isUrlSafe_of_mem_encode member)

theorem token_encode (s : SharedState) : token s.encode = s.encode := by
  have blank : Text.isBlank [] = true := rfl
  have alone := token_surrounded (isPlain_encode s) blank blank
  rwa [List.nil_append, List.append_nil] at alone

/-- Reading a token gives the state back. -/
theorem decode?_encode (s : SharedState) : decode? s.encode = some s := by
  have some_ : s.encode.isEmpty = false := by simpa using encode_ne_nil s
  have bytes : Text.Base64.urlSafe.decode? s.encode = some s.toJson.render := Text.Base64.decode?_encode _
  simp [decode?, token_encode, some_, bytes, read?_toJson, ofJson?_toJson]

/-- What is read depends on the token in a text alone. -/
theorem decode?_congr {s t : List Char} (same : token s = token t) : decode? s = decode? t := by
  rw [decode?, decode?, same]

/-- A token stands in a link as it is, and it is found there again: made of letters, digits, hyphens and
    underscores only, it is read as the state it was made of, with a mark in front of it or without, and
    whatever white space surrounds it. -/
theorem decode?_surrounded (s : SharedState) {before after : List Char} (front : Text.isBlank before)
    (back : Text.isBlank after) :
    s.encode ≠ [] ∧
    (∀ c ∈ s.encode, ('A' ≤ c ∧ c ≤ 'Z') ∨ ('a' ≤ c ∧ c ≤ 'z') ∨ ('0' ≤ c ∧ c ≤ '9') ∨ c = '-' ∨ c = '_') ∧
    decode? (before ++ s.encode ++ after) = some s ∧
    decode? (before ++ mark :: s.encode ++ after) = some s := by
  have plain := isPlain_encode s
  refine ⟨encode_ne_nil s, fun c member => Text.Base64.isUrlSafe_iff.mp (isUrlSafe_of_mem_encode member), ?_, ?_⟩
  · have same : token (before ++ s.encode ++ after) = token s.encode := by
      rw [token_surrounded plain front back, token_encode]
    rw [decode?_congr same, decode?_encode]
  · have same : token (before ++ mark :: s.encode ++ after) = token s.encode := by
      rw [token_mark_surrounded plain front back, token_encode]
    rw [decode?_congr same, decode?_encode]

/-- Escapes of every kind, a character of each width and an empty title, between blanks of several kinds. -/
theorem decode?_surrounded_escapes :
    let s : SharedState := ⟨"\"\\\x00\x08\x1f\x7f\r\n/é終🚀", "", .viewer⟩
    let before := ['\n', '\u00a0', '\u2028']
    let after := ['\t', '\u3000']
    Text.isBlank before = true ∧ Text.isBlank after = true ∧
    decode? (before ++ s.encode ++ after) = some s ∧ decode? (before ++ mark :: s.encode ++ after) = some s :=
  ⟨by decide, by decide, (decode?_surrounded _ (by decide) (by decide)).2.2⟩

end DiagramStudio.SharedState
