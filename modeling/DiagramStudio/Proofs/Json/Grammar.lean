import DiagramStudio.Proofs.Json.Strings

/-!
The grammar of RFC 8259, as what bytes make up which document, and the reader against it: bytes are read as a
document exactly if they are a text of it (`read?_eq_some_iff`). The grammar speaks of whole stretches of bytes
that stand behind one another; the reader goes from the front, with fuel. Of numbers it takes as much as it can,
so that what follows one must not go on with it (`Stops`).
-/

namespace DiagramStudio.Json

open Quoted (IsRaw)

/-- White space, or nothing. -/
def IsGap (s : List UInt8) : Prop := ∀ b ∈ s, isSpace b = true

/-- Digits, at least one. -/
def IsDigits (s : List UInt8) : Prop := s ≠ [] ∧ ∀ b ∈ s, isDigit b = true

/-- Digits that begin with a zero only if that is all. -/
def IsWhole (s : List UInt8) : Prop := IsDigits s ∧ (s.head? = some 0x30 → s = [0x30])

/-- A point and digits, or nothing. -/
def IsFraction (s : List UInt8) : Prop := s = [] ∨ ∃ digits, IsDigits digits ∧ s = 0x2E :: digits

/-- An `e`, a sign or none, and digits; or nothing. -/
def IsExponent (s : List UInt8) : Prop :=
  s = [] ∨ ∃ letter sign digits, (letter = byte 'e' ∨ letter = byte 'E') ∧
    (sign = [] ∨ sign = [byte '+'] ∨ sign = [byte '-']) ∧ IsDigits digits ∧ s = letter :: (sign ++ digits)

def IsNumber (s : List UInt8) : Prop :=
  ∃ sign whole fraction exponent, (sign = [] ∨ sign = [0x2D]) ∧ IsWhole whole ∧ IsFraction fraction ∧
    IsExponent exponent ∧ s = sign ++ whole ++ fraction ++ exponent

mutual

/-- The bytes that spell a document, without white space around them. -/
inductive IsDocument : List UInt8 → Json → Prop where
  | word {spelling : List UInt8} {document : Json} (known : (spelling, document) ∈ words) :
    IsDocument spelling document
  | number {literal : List UInt8} (isNumber : IsNumber literal) : IsDocument literal (.number literal)
  | string {raw : List UInt8} (isRaw : IsRaw raw) : IsDocument (0x22 :: (raw ++ [0x22])) (.string ⟨raw⟩)
  | emptyArray {gap : List UInt8} (isGap : IsGap gap) : IsDocument (0x5B :: (gap ++ [0x5D])) (.array [])
  | array {s : List UInt8} {items : List Json} (inside : IsItems s items) :
    IsDocument (0x5B :: (s ++ [0x5D])) (.array items)
  | emptyObject {gap : List UInt8} (isGap : IsGap gap) : IsDocument (0x7B :: (gap ++ [0x7D])) (.object [])
  | object {s : List UInt8} {members : List (Quoted × Json)} (inside : IsMembers s members) :
    IsDocument (0x7B :: (s ++ [0x7D])) (.object members)

/-- A document with white space around it. -/
inductive IsText : List UInt8 → Json → Prop where
  | intro {front s back : List UInt8} {document : Json} (before : IsGap front) (spells : IsDocument s document)
    (behind : IsGap back) : IsText (front ++ s ++ back) document

/-- One or more texts, with commas between them. -/
inductive IsItems : List UInt8 → List Json → Prop where
  | last {s : List UInt8} {item : Json} (text : IsText s item) : IsItems s [item]
  | more {s t : List UInt8} {item : Json} {items : List Json} (text : IsText s item) (others : IsItems t items) :
    IsItems (s ++ 0x2C :: t) (item :: items)

/-- A string, a colon and a text. -/
inductive IsMember : List UInt8 → Quoted × Json → Prop where
  | intro {front raw gap s : List UInt8} {value : Json} (before : IsGap front) (isRaw : IsRaw raw)
    (between : IsGap gap) (text : IsText s value) :
    IsMember (front ++ 0x22 :: (raw ++ 0x22 :: (gap ++ 0x3A :: s))) (⟨raw⟩, value)

/-- One or more members, with commas between them. -/
inductive IsMembers : List UInt8 → List (Quoted × Json) → Prop where
  | last {s : List UInt8} {member : Quoted × Json} (isMember : IsMember s member) : IsMembers s [member]
  | more {s t : List UInt8} {member : Quoted × Json} {members : List (Quoted × Json)} (isMember : IsMember s member)
    (others : IsMembers t members) : IsMembers (s ++ 0x2C :: t) (member :: members)

end

/-! ## White space -/

theorem skipSpace_append {gap : List UInt8} (isGap : IsGap gap) (s : List UInt8) :
    skipSpace (gap ++ s) = skipSpace s := by
  rw [skipSpace, List.dropWhile_append_of_pos isGap, skipSpace]

theorem skipSpace_append_cons {gap : List UInt8} (isGap : IsGap gap) {b : UInt8} (ink : isSpace b = false)
    (s : List UInt8) : skipSpace (gap ++ b :: s) = b :: s := by
  rw [skipSpace_append isGap, skipSpace, List.dropWhile_cons_of_neg (by rw [ink]; exact Bool.false_ne_true)]

/-- What skipping leaves out is white space. -/
theorem exists_gap (s : List UInt8) : ∃ gap, IsGap gap ∧ s = gap ++ skipSpace s :=
  ⟨s.takeWhile isSpace, fun _ => List.all_eq_true.mp List.all_takeWhile _, List.takeWhile_append_dropWhile.symm⟩

theorem skipSpace_eq_nil_iff {s : List UInt8} : skipSpace s = [] ↔ IsGap s := by
  constructor
  · intro none
    obtain ⟨gap, isGap, same⟩ := exists_gap s
    rw [none, List.append_nil] at same
    exact same ▸ isGap
  · intro isGap
    have skipped := skipSpace_append isGap []
    rwa [List.append_nil] at skipped

/-! ## Numbers -/

/-- No digit comes first. -/
def NoDigit (s : List UInt8) : Prop := ∀ b ∈ s.head?, isDigit b = false

/-- Nothing comes first that goes on with a number. -/
def Stops (s : List UInt8) : Prop := ∀ b ∈ s.head?, isDigit b = false ∧ b ≠ 0x2E ∧ b ≠ byte 'e' ∧ b ≠ byte 'E'

theorem Stops.noDigit {s : List UInt8} (stops : Stops s) : NoDigit s := fun b first => (stops b first).1

theorem stops_cons {b : UInt8} {s : List UInt8}
    (stops : isDigit b = false ∧ b ≠ 0x2E ∧ b ≠ byte 'e' ∧ b ≠ byte 'E') : Stops (b :: s) := by
  intro c first
  cases first
  exact stops

theorem IsGap.stops {gap : List UInt8} (isGap : IsGap gap) {s : List UInt8} (stops : Stops s) : Stops (gap ++ s) := by
  cases gap with
  | nil => exact stops
  | cons b more =>
    have space := isGap b List.mem_cons_self
    simp only [isSpace, Bool.or_eq_true, beq_iff_eq] at space
    rcases space with ((rfl | rfl) | rfl) | rfl <;> exact stops_cons (by decide)

theorem digits?_eq_some_iff {s digits rest : List UInt8} :
    digits? s = some (digits, rest) ↔ IsDigits digits ∧ s = digits ++ rest ∧ NoDigit rest := by
  constructor
  · intro read
    rw [digits?] at read
    split at read
    · cases read
    next some_ =>
    cases read
    refine ⟨⟨fun none => some_ (by rw [none]; rfl), fun _ => List.all_eq_true.mp List.all_takeWhile _⟩,
      List.takeWhile_append_dropWhile.symm, ?_⟩
    intro b first
    have noDigit := List.head?_dropWhile_not isDigit s
    rw [Option.mem_def.mp first] at noDigit
    exact noDigit
  · rintro ⟨⟨some_, digit⟩, rfl, noDigit⟩
    have none : rest.takeWhile isDigit = [] := by
      cases rest with
      | nil => rfl
      | cons b more => exact List.takeWhile_cons_of_neg (by rw [noDigit b rfl]; exact Bool.false_ne_true)
    have all : rest.dropWhile isDigit = rest := by
      cases rest with
      | nil => rfl
      | cons b more => exact List.dropWhile_cons_of_neg (by rw [noDigit b rfl]; exact Bool.false_ne_true)
    rw [digits?, List.takeWhile_append_of_pos digit, List.dropWhile_append_of_pos digit, none, all, List.append_nil,
      if_neg (by simpa using some_)]

theorem isWhole_of_whole? {s whole rest : List UInt8} (read : whole? s = some (whole, rest)) :
    IsWhole whole ∧ s = whole ++ rest := by
  have zero : IsWhole [0x30] := by
    refine ⟨⟨List.cons_ne_nil _ _, fun b member => ?_⟩, fun _ => rfl⟩
    rw [List.mem_singleton.mp member]
    rfl
  rw [whole?.eq_def] at read
  split at read
  · split at read
    · split at read
      · cases read
      · cases read
        exact ⟨zero, rfl⟩
    · cases read
      exact ⟨zero, rfl⟩
  · next notZero =>
    obtain ⟨digits, rfl, _⟩ := digits?_eq_some_iff.mp read
    refine ⟨⟨digits, fun first => ?_⟩, rfl⟩
    cases whole with
    | nil => cases first
    | cons b more =>
      cases first
      exact absurd rfl (notZero (more ++ rest))

theorem whole?_append {whole rest : List UInt8} (isWhole : IsWhole whole) (noDigit : NoDigit rest) :
    whole? (whole ++ rest) = some (whole, rest) := by
  obtain ⟨digits, zero⟩ := isWhole
  rw [whole?.eq_def]
  split
  · next more first =>
    have alone : whole = [0x30] := zero (by
      cases whole with
      | nil => exact absurd rfl digits.1
      | cons b others =>
        cases first
        rfl)
    subst alone
    obtain ⟨_, rfl⟩ := List.cons.inj first
    cases rest with
    | nil => rfl
    | cons d more => simp only [List.append_eq, List.nil_append, noDigit d rfl, Bool.false_eq_true, if_false]
  · exact digits?_eq_some_iff.mpr ⟨digits, rfl, noDigit⟩

theorem isFraction_of_fraction? {s fraction rest : List UInt8} (read : fraction? s = some (fraction, rest)) :
    IsFraction fraction ∧ s = fraction ++ rest := by
  rw [fraction?.eq_def] at read
  split at read
  · obtain ⟨⟨digits, after⟩, found, same⟩ := Option.map_eq_some_iff.mp read
    cases same
    obtain ⟨isDigits, rfl, _⟩ := digits?_eq_some_iff.mp found
    exact ⟨.inr ⟨digits, isDigits, rfl⟩, rfl⟩
  · cases read
    exact ⟨.inl rfl, rfl⟩

theorem fraction?_append {fraction rest : List UInt8} (isFraction : IsFraction fraction) (noDigit : NoDigit rest)
    (noPoint : ∀ b ∈ rest.head?, b ≠ 0x2E) : fraction? (fraction ++ rest) = some (fraction, rest) := by
  rcases isFraction with rfl | ⟨digits, isDigits, rfl⟩
  · rw [List.nil_append, fraction?.eq_def]
    split
    · exact absurd rfl (noPoint 0x2E rfl)
    · rfl
  · rw [List.cons_append, fraction?, digits?_eq_some_iff.mpr ⟨isDigits, rfl, noDigit⟩]
    rfl

theorem isExponent_of_exponent? {s exponent rest : List UInt8} (read : exponent? s = some (exponent, rest)) :
    IsExponent exponent ∧ s = exponent ++ rest := by
  rw [exponent?.eq_def] at read
  split at read
  · next letter more =>
    split at read
    · next isLetter =>
      simp only [Bool.or_eq_true, beq_iff_eq] at isLetter
      split at read
      · next sign more' =>
        split at read
        · next isSign =>
          simp only [Bool.or_eq_true, beq_iff_eq] at isSign
          obtain ⟨⟨digits, after⟩, found, same⟩ := Option.map_eq_some_iff.mp read
          cases same
          obtain ⟨isDigits, rfl, _⟩ := digits?_eq_some_iff.mp found
          refine ⟨.inr ⟨letter, [sign], digits, isLetter, .inr ?_, isDigits, rfl⟩, rfl⟩
          exact isSign.imp (congrArg (List.cons · [])) (congrArg (List.cons · []))
        · obtain ⟨⟨digits, after⟩, found, same⟩ := Option.map_eq_some_iff.mp read
          cases same
          obtain ⟨isDigits, split_, _⟩ := digits?_eq_some_iff.mp found
          rw [split_]
          exact ⟨.inr ⟨letter, [], digits, isLetter, .inl rfl, isDigits, rfl⟩, rfl⟩
      · cases read
    · cases read
      exact ⟨.inl rfl, rfl⟩
  · cases read
    exact ⟨.inl rfl, rfl⟩

theorem exponent?_append {exponent rest : List UInt8} (isExponent : IsExponent exponent) (stops : Stops rest) :
    exponent? (exponent ++ rest) = some (exponent, rest) := by
  rcases isExponent with rfl | ⟨letter, sign, digits, isLetter, isSign, isDigits, rfl⟩
  · cases rest with
    | nil => rfl
    | cons b more =>
      obtain ⟨_, _, small, large⟩ := stops b rfl
      simp [exponent?, small, large]
  · have found := digits?_eq_some_iff.mpr ⟨isDigits, rfl, stops.noDigit⟩
    have isLetter : (letter == byte 'e' || letter == byte 'E') = true := by
      simpa using isLetter
    obtain ⟨some_, digit⟩ := isDigits
    obtain ⟨d, others, rfl⟩ := List.exists_cons_of_ne_nil some_
    rcases isSign with rfl | rfl | rfl
    · have noSign : (d == byte '+' || d == byte '-') = false := by
        have first := digit d List.mem_cons_self
        rw [Bool.or_eq_false_iff, beq_eq_false_iff_ne, beq_eq_false_iff_ne]
        constructor <;> rintro rfl <;> exact absurd first (by decide)
      rw [List.cons_append] at found
      simp [exponent?, isLetter, noSign, found]
    · rw [List.cons_append] at found
      simp [exponent?, isLetter, found]
    · rw [List.cons_append] at found
      simp [exponent?, isLetter, found]

theorem isNumber_of_number? {s literal rest : List UInt8} (read : number? s = some (literal, rest)) :
    IsNumber literal ∧ s = literal ++ rest := by
  have sign : ((minus s).1 = [] ∨ (minus s).1 = [0x2D]) ∧ s = (minus s).1 ++ (minus s).2 := by
    rw [minus.eq_def]
    split
    · exact ⟨.inr rfl, rfl⟩
    · exact ⟨.inl rfl, rfl⟩
  obtain ⟨isSign, split_⟩ := sign
  simp only [number?, bind, Option.bind_eq_some_iff, pure, Option.some.injEq] at read
  obtain ⟨⟨whole, afterWhole⟩, readWhole, ⟨fraction, afterFraction⟩, readFraction, ⟨exponent, afterExponent⟩,
    readExponent, same⟩ := read
  cases same
  obtain ⟨isWhole, eqWhole⟩ := isWhole_of_whole? readWhole
  obtain ⟨isFraction, eqFraction⟩ := isFraction_of_fraction? readFraction
  obtain ⟨isExponent, eqExponent⟩ := isExponent_of_exponent? readExponent
  refine ⟨⟨_, whole, fraction, exponent, isSign, isWhole, isFraction, isExponent, rfl⟩, ?_⟩
  simp only at eqWhole eqFraction eqExponent
  rw [eqWhole, eqFraction, eqExponent] at split_
  simpa only [List.append_assoc] using split_

theorem number?_append {literal rest : List UInt8} (isNumber : IsNumber literal) (stops : Stops rest) :
    number? (literal ++ rest) = some (literal, rest) := by
  obtain ⟨sign, whole, fraction, exponent, isSign, isWhole, isFraction, isExponent, rfl⟩ := isNumber
  -- An exponent begins with its letter, so it goes on neither with a whole part nor with a fraction.
  have pointless : ∀ b ∈ (exponent ++ rest).head?, isDigit b = false ∧ b ≠ 0x2E := by
    rcases isExponent with rfl | ⟨letter, _, _, rfl | rfl, _, _, rfl⟩
    · exact fun b first => ⟨(stops b first).1, (stops b first).2.1⟩
    · rintro b ⟨⟩
      decide
    · rintro b ⟨⟩
      decide
  have noDigit : NoDigit (fraction ++ (exponent ++ rest)) := by
    rcases isFraction with rfl | ⟨_, _, rfl⟩
    · exact fun b first => (pointless b first).1
    · rintro b ⟨⟩
      decide
  have signed : minus (sign ++ (whole ++ (fraction ++ (exponent ++ rest)))) =
      (sign, whole ++ (fraction ++ (exponent ++ rest))) := by
    rcases isSign with rfl | rfl
    · obtain ⟨⟨some_, digit⟩, _⟩ := isWhole
      obtain ⟨d, others, rfl⟩ := List.exists_cons_of_ne_nil some_
      have first := digit d List.mem_cons_self
      rw [List.nil_append, List.cons_append, minus.eq_def]
      split
      · next same =>
        cases same
        exact absurd first (by decide)
      · rfl
    · rfl
  simp only [List.append_assoc]
  simp only [number?, signed, bind, Option.bind, pure, whole?_append isWhole noDigit,
    fraction?_append isFraction (fun b first => (pointless b first).1) (fun b first => (pointless b first).2),
    exponent?_append isExponent stops, List.append_assoc]

/-! ## Documents -/

theorem isDocument_of_plain? {s rest : List UInt8} {document : Json} (read : plain? s = some (document, rest)) :
    ∃ spelled, IsDocument spelled document ∧ s = spelled ++ rest := by
  rw [plain?] at read
  split at read
  · next spelling known found =>
    cases read
    have front := List.find?_some found
    obtain ⟨behind, rfl⟩ := List.isPrefixOf_iff_prefix.mp front
    rw [List.drop_left]
    exact ⟨spelling, .word (List.mem_of_find?_eq_some found), rfl⟩
  · obtain ⟨⟨literal, after⟩, found, same⟩ := Option.map_eq_some_iff.mp read
    cases same
    obtain ⟨isNumber, split_⟩ := isNumber_of_number? found
    exact ⟨literal, .number isNumber, split_⟩

/-- What the reader takes off the front, with so much fuel, is as the grammar has it. -/
structure Sound (fuel : Nat) : Prop where
  document {s rest : List UInt8} {document : Json} (read : document? fuel s = some (document, rest)) :
    ∃ front spelled, IsGap front ∧ IsDocument spelled document ∧ s = front ++ (spelled ++ rest)
  items {s rest : List UInt8} {items : List Json} (read : items? fuel s = some (items, rest)) :
    ∃ t, IsItems t items ∧ s = t ++ 0x5D :: rest
  members {s rest : List UInt8} {members : List (Quoted × Json)} (read : members? fuel s = some (members, rest)) :
    ∃ t, IsMembers t members ∧ s = t ++ 0x7D :: rest

namespace Sound

variable {fuel : Nat} (sound : Sound fuel)
include sound

/-- A document up to the next byte that is no white space. -/
theorem text {s rest : List UInt8} {document : Json} (read : document? fuel s = some (document, rest)) {b : UInt8}
    {after : List UInt8} (next : skipSpace rest = b :: after) : ∃ t, IsText t document ∧ s = t ++ b :: after := by
  obtain ⟨front, spelled, isGap, spells, rfl⟩ := sound.document read
  obtain ⟨back, behind, same⟩ := exists_gap rest
  rw [next] at same
  subst same
  exact ⟨front ++ spelled ++ back, .intro isGap spells behind, by simp only [List.append_assoc]⟩

theorem document_succ {s rest : List UInt8} {document : Json}
    (read : document? (fuel + 1) s = some (document, rest)) :
    ∃ front spelled, IsGap front ∧ IsDocument spelled document ∧ s = front ++ (spelled ++ rest) := by
  obtain ⟨front, before, same⟩ := exists_gap s
  rw [document?] at read
  split at read
  · cases read
  · next inside start =>
    obtain ⟨⟨raw, after⟩, found, eq⟩ := Option.map_eq_some_iff.mp read
    cases eq
    obtain ⟨isRaw, rfl⟩ := Quoted.quoted?_eq_some_iff.mp found
    rw [start] at same
    exact ⟨front, _, before, .string isRaw, by simp [same]⟩
  · next inside start =>
    rw [start] at same
    split at read
    · next after close =>
      cases read
      obtain ⟨gap, isGap, eq⟩ := exists_gap inside
      rw [close] at eq
      exact ⟨front, _, before, .emptyArray isGap, by simp [same, eq]⟩
    · obtain ⟨⟨items, after⟩, found, eq⟩ := Option.map_eq_some_iff.mp read
      cases eq
      obtain ⟨t, isItems, rfl⟩ := sound.items found
      exact ⟨front, _, before, .array isItems, by simp [same]⟩
  · next inside start =>
    rw [start] at same
    split at read
    · next after close =>
      cases read
      obtain ⟨gap, isGap, eq⟩ := exists_gap inside
      rw [close] at eq
      exact ⟨front, _, before, .emptyObject isGap, by simp [same, eq]⟩
    · obtain ⟨⟨members, after⟩, found, eq⟩ := Option.map_eq_some_iff.mp read
      cases eq
      obtain ⟨t, isMembers, rfl⟩ := sound.members found
      exact ⟨front, _, before, .object isMembers, by simp [same]⟩
  · next start =>
    obtain ⟨spelled, spells, eq⟩ := isDocument_of_plain? read
    rw [start, eq] at same
    exact ⟨front, spelled, before, spells, same⟩

theorem items_succ {s rest : List UInt8} {items : List Json} (read : items? (fuel + 1) s = some (items, rest)) :
    ∃ t, IsItems t items ∧ s = t ++ 0x5D :: rest := by
  rw [items?] at read
  split at read
  · cases read
  next item behind first =>
  split at read
  · next after close =>
    cases read
    obtain ⟨t, isText, rfl⟩ := sound.text first close
    exact ⟨t, .last isText, rfl⟩
  · next more comma =>
    obtain ⟨⟨others, after⟩, found, same⟩ := Option.map_eq_some_iff.mp read
    cases same
    obtain ⟨t, isText, rfl⟩ := sound.text first comma
    obtain ⟨u, isItems, rfl⟩ := sound.items found
    exact ⟨t ++ 0x2C :: u, .more isText isItems, by simp⟩
  · cases read

theorem members_succ {s rest : List UInt8} {members : List (Quoted × Json)}
    (read : members? (fuel + 1) s = some (members, rest)) : ∃ t, IsMembers t members ∧ s = t ++ 0x7D :: rest := by
  rw [members?] at read
  split at read
  case h_2 => cases read
  next inside start =>
  split at read
  · cases read
  next key behindKey quoted =>
  split at read
  case h_2 => cases read
  next value colon =>
  obtain ⟨front, before, same⟩ := exists_gap s
  obtain ⟨gap, between, same'⟩ := exists_gap behindKey
  obtain ⟨isRaw, rfl⟩ := Quoted.quoted?_eq_some_iff.mp quoted
  rw [start] at same
  rw [colon] at same'
  split at read
  · cases read
  next document behind first =>
  split at read
  · next after close =>
    cases read
    obtain ⟨t, isText, rfl⟩ := sound.text first close
    exact ⟨_, .last (.intro before isRaw between isText), by simp [same, same']⟩
  · next more comma =>
    obtain ⟨⟨others, after⟩, found, eq⟩ := Option.map_eq_some_iff.mp read
    cases eq
    obtain ⟨t, isText, rfl⟩ := sound.text first comma
    obtain ⟨u, isMembers, rfl⟩ := sound.members found
    exact ⟨_, .more (.intro before isRaw between isText) isMembers, by simp [same, same']⟩
  · cases read

end Sound

theorem sound (fuel : Nat) : Sound fuel := by
  induction fuel with
  | zero => exact ⟨nofun, nofun, nofun⟩
  | succ fuel ih => exact ⟨ih.document_succ, ih.items_succ, ih.members_succ⟩

/-! ## The reader takes all of it -/

theorem toNat_of_isDigit {b : UInt8} (digit : isDigit b = true) : 0x30 ≤ b.toNat ∧ b.toNat ≤ 0x39 := by
  simp only [isDigit, Bool.and_eq_true, decide_eq_true_eq, UInt8.le_iff_toNat_le] at digit
  exact digit

/-- A number begins with a minus or a digit. -/
theorem IsNumber.exists_cons {literal : List UInt8} (isNumber : IsNumber literal) :
    ∃ b more, literal = b :: more ∧ 0x2D ≤ b.toNat ∧ b.toNat ≤ 0x39 := by
  obtain ⟨sign, whole, fraction, exponent, isSign, ⟨⟨some_, digit⟩, _⟩, _, _, rfl⟩ := isNumber
  obtain ⟨d, others, rfl⟩ := List.exists_cons_of_ne_nil some_
  rcases isSign with rfl | rfl
  · have range := toNat_of_isDigit (digit d List.mem_cons_self)
    exact ⟨d, _, rfl, by omega, range.2⟩
  · exact ⟨0x2D, _, rfl, by decide⟩

theorem ne_of_range {b c : UInt8} (range : 0x2D ≤ b.toNat ∧ b.toNat ≤ 0x39)
    (outside : c.toNat < 0x2D ∨ 0x39 < c.toNat) : b ≠ c := by
  rintro rfl
  omega

theorem isSpace_of_range {b : UInt8} (range : 0x2D ≤ b.toNat ∧ b.toNat ≤ 0x39) : isSpace b = false := by
  rw [← Bool.not_eq_true]
  intro space
  simp only [isSpace, Bool.or_eq_true, beq_iff_eq] at space
  rcases space with ((same | same) | same) | same <;> exact ne_of_range range (by decide) same

theorem plain?_word {spelling : List UInt8} {document : Json} (known : (spelling, document) ∈ words)
    (rest : List UInt8) : plain? (spelling ++ rest) = some (document, rest) := by
  simp only [words, List.mem_cons, Prod.mk.injEq, List.not_mem_nil, or_false] at known
  rcases known with ⟨rfl, rfl⟩ | ⟨rfl, rfl⟩ | ⟨rfl, rfl⟩ <;> rfl

theorem plain?_number {literal rest : List UInt8} (isNumber : IsNumber literal) (stops : Stops rest) :
    plain? (literal ++ rest) = some (.number literal, rest) := by
  have noWord : ∀ entry ∈ words, ¬ entry.1.isPrefixOf (literal ++ rest) = true := by
    obtain ⟨b, more, rfl, range⟩ := isNumber.exists_cons
    intro entry member
    simp only [words, List.mem_cons, List.not_mem_nil, or_false] at member
    have other {c : UInt8} (letter : c.toNat < 0x2D ∨ 0x39 < c.toNat) (others : List UInt8) :
        ¬ List.isPrefixOf (c :: others) (b :: more ++ rest) = true := by
      simp [List.isPrefixOf, (ne_of_range range letter).symm]
    rcases member with rfl | rfl | rfl <;> exact other (by decide) _
  rw [plain?]
  split
  · next found => exact absurd (List.find?_some found) (noWord _ (List.mem_of_find?_eq_some found))
  · simp only [number?_append isNumber stops, Option.map_some]

/-- A document begins with a byte that is neither white space nor the end of an array. -/
theorem IsDocument.exists_cons {s : List UInt8} {document : Json} (spells : IsDocument s document) :
    ∃ b more, s = b :: more ∧ isSpace b = false ∧ b ≠ 0x5D := by
  cases spells with
  | word known =>
    simp only [words, List.mem_cons, Prod.mk.injEq, List.not_mem_nil, or_false] at known
    rcases known with ⟨rfl, _⟩ | ⟨rfl, _⟩ | ⟨rfl, _⟩ <;> exact ⟨_, _, rfl, by decide⟩
  | number isNumber =>
    obtain ⟨b, more, rfl, range⟩ := isNumber.exists_cons
    exact ⟨b, more, rfl, isSpace_of_range range, ne_of_range range (by decide)⟩
  | string => exact ⟨_, _, rfl, by decide⟩
  | emptyArray => exact ⟨_, _, rfl, by decide⟩
  | array => exact ⟨_, _, rfl, by decide⟩
  | emptyObject => exact ⟨_, _, rfl, by decide⟩
  | object => exact ⟨_, _, rfl, by decide⟩

theorem IsItems.skipSpace_append {t : List UInt8} {items : List Json} (isItems : IsItems t items)
    (rest : List UInt8) : ∃ b more, skipSpace (t ++ rest) = b :: more ∧ b ≠ 0x5D := by
  have begins {s : List UInt8} {item : Json} (isText : IsText s item) (rest : List UInt8) :
      ∃ b more, skipSpace (s ++ rest) = b :: more ∧ b ≠ 0x5D := by
    obtain ⟨before, spells, _⟩ := isText
    obtain ⟨b, more, rfl, ink, other⟩ := spells.exists_cons
    simp only [List.append_assoc, List.cons_append]
    exact ⟨b, _, skipSpace_append_cons before ink _, other⟩
  cases isItems with
  | last isText => exact begins isText rest
  | more isText others =>
    rw [List.append_assoc]
    exact begins isText _

theorem IsMembers.skipSpace_append {t : List UInt8} {members : List (Quoted × Json)}
    (isMembers : IsMembers t members) (rest : List UInt8) : ∃ more, skipSpace (t ++ rest) = 0x22 :: more := by
  have begins {s : List UInt8} {member : Quoted × Json} (isMember : IsMember s member) (rest : List UInt8) :
      ∃ more, skipSpace (s ++ rest) = 0x22 :: more := by
    obtain ⟨before, _, _, _⟩ := isMember
    simp only [List.append_assoc, List.cons_append]
    exact ⟨_, skipSpace_append_cons before (by decide) _⟩
  cases isMembers with
  | last isMember => exact begins isMember rest
  | more isMember others =>
    rw [List.append_assoc]
    exact begins isMember _

theorem document?_plain {front : List UInt8} (before : IsGap front) {b : UInt8} (ink : isSpace b = false)
    (quote : b ≠ 0x22) (bracket : b ≠ 0x5B) (brace : b ≠ 0x7B) (fuel : Nat) (s : List UInt8) :
    document? (fuel + 1) (front ++ b :: s) = plain? (b :: s) := by
  rw [document?, skipSpace_append_cons before ink]
  split
  · next same => cases same
  · next same => exact absurd (List.cons.inj same).1 quote
  · next same => exact absurd (List.cons.inj same).1 bracket
  · next same => exact absurd (List.cons.inj same).1 brace
  · next same => rw [same]

/-- What the grammar has in front, the reader takes off with so much fuel. -/
structure Complete (fuel : Nat) : Prop where
  document {front spelled : List UInt8} {document : Json} (before : IsGap front) (spells : IsDocument spelled document)
    {rest : List UInt8} (stops : Stops rest) (enough : 2 * spelled.length ≤ fuel) :
    document? fuel (front ++ (spelled ++ rest)) = some (document, rest)
  items {t : List UInt8} {items : List Json} (isItems : IsItems t items) (rest : List UInt8)
    (enough : 2 * t.length + 1 ≤ fuel) : items? fuel (t ++ 0x5D :: rest) = some (items, rest)
  members {t : List UInt8} {members : List (Quoted × Json)} (isMembers : IsMembers t members) (rest : List UInt8)
    (enough : 2 * t.length + 1 ≤ fuel) : members? fuel (t ++ 0x7D :: rest) = some (members, rest)

namespace Complete

variable {fuel : Nat} (complete : Complete fuel)
include complete

/-- A text up to a byte that is no white space and goes on with no number. -/
theorem text {s : List UInt8} {document : Json} (isText : IsText s document) {b : UInt8}
    (ends : isSpace b = false ∧ isDigit b = false ∧ b ≠ 0x2E ∧ b ≠ byte 'e' ∧ b ≠ byte 'E') (after : List UInt8)
    (enough : 2 * s.length ≤ fuel) :
    ∃ rest, document? fuel (s ++ b :: after) = some (document, rest) ∧ skipSpace rest = b :: after := by
  obtain ⟨before, spells, behind⟩ := isText
  simp only [List.length_append] at enough
  simp only [List.append_assoc]
  exact ⟨_, complete.document before spells (behind.stops (stops_cons ends.2)) (by omega),
    skipSpace_append_cons behind ends.1 after⟩

theorem document_succ {front spelled : List UInt8} {document : Json} (before : IsGap front)
    (spells : IsDocument spelled document) {rest : List UInt8} (stops : Stops rest)
    (enough : 2 * spelled.length ≤ fuel + 1) :
    document? (fuel + 1) (front ++ (spelled ++ rest)) = some (document, rest) := by
  cases spells with
  | word known =>
    rw [← plain?_word known rest]
    simp only [words, List.mem_cons, Prod.mk.injEq, List.not_mem_nil, or_false] at known
    rcases known with ⟨rfl, _⟩ | ⟨rfl, _⟩ | ⟨rfl, _⟩ <;>
      exact document?_plain before (by decide) (by decide) (by decide) (by decide) fuel _
  | number isNumber =>
    rw [← plain?_number isNumber stops]
    obtain ⟨b, more, rfl, range⟩ := isNumber.exists_cons
    exact document?_plain before (isSpace_of_range range) (ne_of_range range (by decide))
      (ne_of_range range (by decide)) (ne_of_range range (by decide)) fuel _
  | @string raw isRaw =>
    rw [List.cons_append, document?, skipSpace_append_cons before (by decide), List.append_assoc]
    simp only [Quoted.quoted?_eq_some_iff.mpr ⟨isRaw, rfl⟩, List.cons_append, List.nil_append, Option.map_some]
  | @emptyArray gap isGap =>
    have close : skipSpace (gap ++ 0x5D :: rest) = 0x5D :: rest := skipSpace_append_cons isGap (by decide) rest
    rw [List.cons_append, document?, skipSpace_append_cons before (by decide), List.append_assoc]
    simp only [List.cons_append, List.nil_append, close]
  | @array s items inside =>
    simp only [List.length_cons, List.length_append, List.length_nil] at enough
    obtain ⟨b, more, opens_, other⟩ := inside.skipSpace_append (0x5D :: rest)
    have read := complete.items inside rest (by omega)
    rw [List.cons_append, document?, skipSpace_append_cons before (by decide), List.append_assoc]
    simp only [List.cons_append, List.nil_append, opens_]
    split
    · next same => exact absurd (List.cons.inj same).1 other
    · rw [read, Option.map_some]
  | @emptyObject gap isGap =>
    have close : skipSpace (gap ++ 0x7D :: rest) = 0x7D :: rest := skipSpace_append_cons isGap (by decide) rest
    rw [List.cons_append, document?, skipSpace_append_cons before (by decide), List.append_assoc]
    simp only [List.cons_append, List.nil_append, close]
  | @object s members inside =>
    simp only [List.length_cons, List.length_append, List.length_nil] at enough
    obtain ⟨more, opens_⟩ := inside.skipSpace_append (0x7D :: rest)
    have read := complete.members inside rest (by omega)
    rw [List.cons_append, document?, skipSpace_append_cons before (by decide), List.append_assoc]
    simp only [List.cons_append, List.nil_append, opens_, read]
    rfl

theorem items_succ {t : List UInt8} {items : List Json} (isItems : IsItems t items) (rest : List UInt8)
    (enough : 2 * t.length + 1 ≤ fuel + 1) : items? (fuel + 1) (t ++ 0x5D :: rest) = some (items, rest) := by
  cases isItems with
  | last isText =>
    obtain ⟨behind, read, close⟩ := complete.text isText (b := 0x5D) (by decide) rest (by omega)
    rw [items?, read]
    simp only [close]
  | @more s t item items isText others =>
    simp only [List.length_cons, List.length_append] at enough
    obtain ⟨behind, read, comma⟩ := complete.text isText (b := 0x2C) (by decide) (t ++ 0x5D :: rest) (by omega)
    rw [List.append_assoc, List.cons_append, items?, read]
    simp only [comma, complete.items others rest (by omega), Option.map_some]

/-- The front of the members is a member, up to a byte as texts end with. -/
theorem members?_eq {s : List UInt8} {member : Quoted × Json} (isMember : IsMember s member) {b : UInt8}
    (ends : isSpace b = false ∧ isDigit b = false ∧ b ≠ 0x2E ∧ b ≠ byte 'e' ∧ b ≠ byte 'E') (after : List UInt8)
    (enough : 2 * s.length ≤ fuel) :
    members? (fuel + 1) (s ++ b :: after) =
      match b :: after with
      | 0x7D :: after => some ([member], after)
      | 0x2C :: more => (members? fuel more).map fun (found, after) => (member :: found, after)
      | _ => none := by
  obtain @⟨front, raw, gap, s, value, before, isRaw, between, isText⟩ := isMember
  simp only [List.length_cons, List.length_append] at enough
  obtain ⟨behind, read, close⟩ := complete.text isText ends after (by omega)
  have colon : skipSpace (gap ++ 0x3A :: (s ++ b :: after)) = 0x3A :: (s ++ b :: after) :=
    skipSpace_append_cons between (by decide) _
  simp only [List.append_assoc, List.cons_append]
  rw [members?, skipSpace_append_cons before (by decide)]
  simp only [Quoted.quoted?_eq_some_iff.mpr ⟨isRaw, rfl⟩, colon, read]
  exact close ▸ rfl

theorem members_succ {t : List UInt8} {members : List (Quoted × Json)} (isMembers : IsMembers t members)
    (rest : List UInt8) (enough : 2 * t.length + 1 ≤ fuel + 1) :
    members? (fuel + 1) (t ++ 0x7D :: rest) = some (members, rest) := by
  cases isMembers with
  | last isMember => exact complete.members?_eq isMember (by decide) rest (by omega)
  | @more s t member members isMember others =>
    simp only [List.length_cons, List.length_append] at enough
    have read := complete.members?_eq isMember (b := 0x2C) (by decide) (t ++ 0x7D :: rest) (by omega)
    rw [List.append_assoc, List.cons_append, read]
    simp only [complete.members others rest (by omega), Option.map_some]

end Complete

theorem complete (fuel : Nat) : Complete fuel := by
  induction fuel with
  | zero =>
    refine ⟨?_, nofun, nofun⟩
    intro _ _ _ _ spells _ _ enough
    obtain ⟨_, _, rfl, _⟩ := spells.exists_cons
    cases enough
  | succ fuel ih => exact ⟨ih.document_succ, ih.items_succ, ih.members_succ⟩

/-- Bytes are read as a document exactly if they are a text of it. -/
theorem read?_eq_some_iff {s : List UInt8} {document : Json} : read? s = some document ↔ IsText s document := by
  constructor
  · intro read
    rw [read?] at read
    split at read
    · next found back first =>
      split at read
      · next none =>
        cases read
        obtain ⟨front, spelled, before, spells, rfl⟩ := (sound _).document first
        rw [← List.append_assoc]
        exact .intro before spells (skipSpace_eq_nil_iff.mp (List.isEmpty_iff.mp none))
      · cases read
    · cases read
  · rintro @⟨front, spelled, back, _, before, spells, behind⟩
    have stops := behind.stops (s := []) fun b member => by cases member
    rw [List.append_nil] at stops
    rw [read?, List.append_assoc, (complete _).document before spells stops (by simp; omega)]
    simp only [skipSpace_eq_nil_iff.mpr behind, List.isEmpty_nil, if_true]

/-! ## What is in a text -/

/-- A document that some bytes are a text of. -/
def Readable (document : Json) : Prop := ∃ s, IsText s document

theorem Readable.isRaw {q : Quoted} (readable : Readable (.string q)) : IsRaw q.raw := by
  obtain ⟨_, _, spells, _⟩ := readable
  cases spells with
  | word known => simp [words] at known
  | string isRaw => exact isRaw

theorem IsItems.readable {t : List UInt8} {items : List Json} (isItems : IsItems t items) :
    ∀ item ∈ items, Readable item := by
  induction items generalizing t with
  | nil => nofun
  | cons item more ih =>
    rw [List.forall_mem_cons]
    cases isItems with
    | last isText => exact ⟨⟨_, isText⟩, nofun⟩
    | more isText others => exact ⟨⟨_, isText⟩, ih others⟩

theorem IsMembers.readable {t : List UInt8} {members : List (Quoted × Json)} (isMembers : IsMembers t members) :
    ∀ m ∈ members, IsRaw m.1.raw ∧ Readable m.2 := by
  have each {s : List UInt8} {m : Quoted × Json} (isMember : IsMember s m) : IsRaw m.1.raw ∧ Readable m.2 := by
    obtain ⟨_, isRaw, _, isText⟩ := isMember
    exact ⟨isRaw, _, isText⟩
  induction members generalizing t with
  | nil => nofun
  | cons m more ih =>
    rw [List.forall_mem_cons]
    cases isMembers with
    | last isMember => exact ⟨each isMember, nofun⟩
    | more isMember others => exact ⟨each isMember, ih others⟩

theorem Readable.items {items : List Json} (readable : Readable (.array items)) : ∀ item ∈ items, Readable item := by
  obtain ⟨_, _, spells, _⟩ := readable
  cases spells with
  | word known => simp [words] at known
  | emptyArray => nofun
  | array inside => exact inside.readable

theorem Readable.members {members : List (Quoted × Json)} (readable : Readable (.object members)) :
    ∀ m ∈ members, IsRaw m.1.raw ∧ Readable m.2 := by
  obtain ⟨_, _, spells, _⟩ := readable
  cases spells with
  | word known => simp [words] at known
  | emptyObject => nofun
  | object inside => exact inside.readable

end DiagramStudio.Json
