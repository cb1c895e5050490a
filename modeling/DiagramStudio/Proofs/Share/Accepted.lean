import Mathlib
import DiagramStudio.Proofs.Json.Grammar
import DiagramStudio.Proofs.Share.Token

/-!
Which texts are tokens, and of which states (`decode?_iff_documented`). A token holds bytes (`Holds`), the bytes are
a text of one document by the grammar of JSON, and the document carries a state (`Carries`): source, title and
mode as members of an object, whatever others stand beside them, or as items of an array. The bytes need not be
UTF-8: of a string in a member that no one asks for only the quotes and escapes are looked at.
-/

namespace DiagramStudio.SharedState

open Json (IsText Readable)
open Quoted (IsRaw Reads)
open Text

/-- The text is a token of the bytes: their link-safe base 64, unpadded, with white space around it and a mark in
    front of it or none. -/
def Holds (text : List Char) (bytes : List UInt8) : Prop :=
  ∃ token, (Text.trim text = token ∨ Text.trim text = mark :: token) ∧ token ≠ [] ∧
    token = Text.Base64.urlSafe.encode bytes

/-- No member has the name. -/
def Absent (name : String) (members : List (Quoted × Json)) : Prop :=
  ∀ m ∈ members, ¬ Reads m.1.raw name.toList

/-- One member has the name, and this is its value. -/
def Only (name : String) (members : List (Quoted × Json)) (value : Json) : Prop :=
  ∃ before key after, members = before ++ (key, value) :: after ∧ Reads key.raw name.toList ∧
    Absent name before ∧ Absent name after

/-- A document that is a string of the text. -/
inductive Spells : Json → String → Prop where
  | intro {q : Quoted} {text : String} (reads : Reads q.raw text.toList) : Spells (.string q) text

/-- A document that names a mode: its name, or an object with one member of that name and no value. -/
inductive NamesMode : Json → ViewMode → Prop where
  | name {q : Quoted} {mode : ViewMode} (reads : Reads q.raw mode.name.toList) : NamesMode (.string q) mode
  | member {q : Quoted} {mode : ViewMode} (reads : Reads q.raw mode.name.toList) :
    NamesMode (.object [(q, .null)]) mode

/-- A document that carries a state. The title may be left out, and is empty then; so may the mode, which is the
    editor then. -/
inductive Carries : Json → SharedState → Prop where
  | object {members : List (Quoted × Json)} {c : Json} {source title : String} {mode : ViewMode}
    (names : ∀ m ∈ members, ∃ name, Reads m.1.raw name) (only : Only "c" members c) (isSource : Spells c source)
    (isTitle : (Absent "t" members ∧ title = "") ∨ ∃ t, Only "t" members t ∧ Spells t title)
    (isMode : (Absent "m" members ∧ mode = .editor) ∨ ∃ m, Only "m" members m ∧ NamesMode m mode) :
    Carries (.object members) ⟨source, title, mode⟩
  | one {c : Json} {source : String} (isSource : Spells c source) : Carries (.array [c]) ⟨source, "", .editor⟩
  | two {c t : Json} {source title : String} (isSource : Spells c source) (isTitle : Spells t title) :
    Carries (.array [c, t]) ⟨source, title, .editor⟩
  | three {c t m : Json} {source title : String} {mode : ViewMode} (isSource : Spells c source)
    (isTitle : Spells t title) (isMode : NamesMode m mode) : Carries (.array [c, t, m]) ⟨source, title, mode⟩

/-! ## Tokens -/

theorem holds_iff {text : List Char} {bytes : List UInt8} :
    Holds text bytes ↔ token text ≠ [] ∧ Text.Base64.urlSafe.decode? (token text) = some bytes := by
  constructor
  · rintro ⟨t, place, some_, encoded⟩
    have same : token text = t := by
      rcases place with trimmed | trimmed
      · obtain ⟨c, more, rfl⟩ := List.exists_cons_of_ne_nil some_
        have safe : Text.Base64.isUrlSafe c = true :=
          Text.Base64.isUrlSafe_of_mem_encode (encoded ▸ List.mem_cons_self)
        rw [token, trimmed]
        exact if_neg (notWhite_of_isUrlSafe safe).2
      · rw [token, trimmed]
        exact if_pos rfl
    rw [same]
    exact ⟨some_, Text.Base64.decode?_eq_some_iff.mpr encoded⟩
  · rintro ⟨some_, decoded⟩
    refine ⟨token text, ?_, some_, Text.Base64.decode?_eq_some_iff.mp decoded⟩
    unfold token
    split
    · next c rest trimmed =>
      split
      · next same => exact .inr (by rw [trimmed, same])
      · exact .inl trimmed
    · next trimmed => exact .inl trimmed

/-! ## Members by their names -/

/-- The members with a name, before the names of all members are read. -/
def withName (name : String) (members : List (Quoted × Json)) : List (Quoted × Json) :=
  members.filter fun m => m.1.text? == some name

theorem withName_eq_nil_iff {name : String} {members : List (Quoted × Json)} (raw : ∀ m ∈ members, IsRaw m.1.raw) :
    withName name members = [] ↔ Absent name members := by
  rw [withName, List.filter_eq_nil_iff]
  constructor
  · intro none m member reads
    exact none m member (beq_iff_eq.mpr ((Quoted.text?_eq_some_iff (raw m member)).mpr reads))
  · intro absent m member same
    exact absent m member ((Quoted.text?_eq_some_iff (raw m member)).mp (beq_iff_eq.mp same))

theorem withName_eq_singleton_iff {name : String} {members : List (Quoted × Json)} {value : Json}
    (raw : ∀ m ∈ members, IsRaw m.1.raw) :
    (withName name members).map (·.2) = [value] ↔ Only name members value := by
  constructor
  · intro one
    obtain ⟨⟨key, _⟩, alone, rfl⟩ := List.map_eq_singleton_iff.mp one
    obtain ⟨before, after, rfl, none, named, none'⟩ := List.filter_eq_cons_iff.mp alone
    have rawBefore : ∀ m ∈ before, IsRaw m.1.raw := fun m member => raw m (List.mem_append_left _ member)
    have rawAfter : ∀ m ∈ after, IsRaw m.1.raw :=
      fun m member => raw m (List.mem_append_right _ (List.mem_cons_of_mem _ member))
    have rawKey : IsRaw key.raw := raw (key, _) (List.mem_append_right _ List.mem_cons_self)
    refine ⟨before, key, after, rfl, (Quoted.text?_eq_some_iff rawKey).mp (beq_iff_eq.mp named), ?_, ?_⟩
    · exact (withName_eq_nil_iff rawBefore).mp (List.filter_eq_nil_iff.mpr none)
    · exact (withName_eq_nil_iff rawAfter).mp none'
  · rintro ⟨before, key, after, rfl, reads, absentBefore, absentAfter⟩
    have rawBefore : ∀ m ∈ before, IsRaw m.1.raw := fun m member => raw m (List.mem_append_left _ member)
    have rawAfter : ∀ m ∈ after, IsRaw m.1.raw :=
      fun m member => raw m (List.mem_append_right _ (List.mem_cons_of_mem _ member))
    have rawKey : IsRaw key.raw := raw (key, value) (List.mem_append_right _ List.mem_cons_self)
    have named := (Quoted.text?_eq_some_iff rawKey).mpr reads
    have noneBefore := (withName_eq_nil_iff rawBefore).mpr absentBefore
    have noneAfter := (withName_eq_nil_iff rawAfter).mpr absentAfter
    rw [withName] at noneBefore noneAfter ⊢
    simp [noneBefore, noneAfter, named]

/-- All names are read, or none of the members is. -/
theorem exists_named?_iff {members : List (Quoted × Json)} :
    (∃ entries, named? members = some entries) ↔ ∀ m ∈ members, ∃ name, m.1.text? = some name := by
  unfold named?
  induction members with
  | nil => exact ⟨fun _ => nofun, fun _ => ⟨[], rfl⟩⟩
  | cons m more ih =>
    obtain ⟨key, value⟩ := m
    rw [List.forall_mem_cons]
    constructor
    · rintro ⟨entries, read⟩
      simp only [List.mapM_cons, bind, Option.bind_eq_some_iff, pure, Option.some.injEq, Option.map_eq_some_iff]
        at read
      obtain ⟨_, ⟨text, named, rfl⟩, others, behind, rfl⟩ := read
      exact ⟨⟨text, named⟩, ih.mp ⟨others, behind⟩⟩
    · rintro ⟨⟨text, named⟩, others⟩
      obtain ⟨entries, behind⟩ := ih.mpr others
      exact ⟨(text, value) :: entries, by simp [named, behind]⟩

/-- The members with a name are the same before their names are read and after. -/
theorem filter_of_named? {members : List (Quoted × Json)} {entries : List (String × Json)}
    (read : named? members = some entries) (name : String) :
    (entries.filter (·.1 == name)).map (·.2) = (withName name members).map (·.2) := by
  unfold named? at read
  induction members generalizing entries with
  | nil =>
    cases read
    rfl
  | cons m more ih =>
    obtain ⟨key, value⟩ := m
    simp only [List.mapM_cons, bind, Option.bind_eq_some_iff, pure, Option.some.injEq, Option.map_eq_some_iff] at read
    obtain ⟨_, ⟨text, named, rfl⟩, others, behind, rfl⟩ := read
    have tail := ih behind
    unfold withName at tail ⊢
    by_cases same : text = name
    · simp [named, same, tail]
    · simp [named, same, tail]

theorem unique?_eq_none_iff {name : String} {entries : List (String × Json)} :
    unique? name entries = some none ↔ (entries.filter (·.1 == name)).map (·.2) = [] := by
  unfold unique?
  split
  · next none => simp [none]
  · next one => simp [one]
  · next none one =>
    refine ⟨nofun, fun alone => absurd (List.map_eq_nil_iff.mp alone) none⟩

theorem unique?_eq_some_iff {name : String} {entries : List (String × Json)} {value : Json} :
    unique? name entries = some (some value) ↔ (entries.filter (·.1 == name)).map (·.2) = [value] := by
  unfold unique?
  split
  · next none => simp [none]
  · next member one => simp [one]
  · next none one =>
    refine ⟨nofun, fun alone => ?_⟩
    obtain ⟨member, alone, _⟩ := List.map_eq_singleton_iff.mp alone
    exact absurd alone (one member)

/-! ## Values -/

theorem text?_eq_some_iff {value : Json} (readable : Readable value) {text : String} :
    value.text? = some text ↔ Spells value text := by
  constructor
  · intro read
    cases value with
    | string q => exact ⟨(Quoted.text?_eq_some_iff readable.isRaw).mp read⟩
    | _ => cases read
  · rintro ⟨reads⟩
    exact (Quoted.text?_eq_some_iff readable.isRaw).mpr reads

theorem ofName?_eq_some_iff {name : String} {mode : ViewMode} :
    ViewMode.ofName? name = some mode ↔ name = mode.name := by
  constructor
  · intro found
    exact (beq_iff_eq.mp (List.find?_some (p := fun mode : ViewMode => mode.name == name) found)).symm
  · rintro rfl
    exact ViewMode.ofName?_name mode

theorem ofJson?_mode_eq_some_iff {value : Json} (readable : Readable value) {mode : ViewMode} :
    ViewMode.ofJson? value = some mode ↔ NamesMode value mode := by
  have named {q : Quoted} (raw : IsRaw q.raw) :
      q.text?.bind ViewMode.ofName? = some mode ↔ Reads q.raw mode.name.toList := by
    rw [Option.bind_eq_some_iff, ← Quoted.text?_eq_some_iff raw]
    simp [ofName?_eq_some_iff]
  constructor
  · intro read
    rw [ViewMode.ofJson?.eq_def] at read
    split at read
    · exact .name ((named readable.isRaw).mp read)
    · exact .member ((named (readable.members _ List.mem_cons_self).1).mp read)
    · cases read
  · rintro (reads | reads)
    · exact (named readable.isRaw).mpr reads
    · exact (named (readable.members _ List.mem_cons_self).1).mpr reads

/-! ## States -/

theorem Only.exists_mem {name : String} {members : List (Quoted × Json)} {value : Json}
    (only : Only name members value) : ∃ key, (key, value) ∈ members := by
  obtain ⟨before, key, after, rfl, _⟩ := only
  exact ⟨key, List.mem_append_right _ List.mem_cons_self⟩

section
variable {members : List (Quoted × Json)} (readable : Readable (.object members)) {entries : List (String × Json)}
  (read : named? members = some entries)
include readable read

/-- What is made of the members with a name: there are none, or there is one. -/
theorem exists_unique?_iff {α : Type} {name : String} (use : Option Json → Option α) {a : α} :
    (∃ found, unique? name entries = some found ∧ use found = some a) ↔
      (Absent name members ∧ use none = some a) ∨
        ∃ value, Only name members value ∧ Readable value ∧ use (some value) = some a := by
  have raw : ∀ m ∈ members, IsRaw m.1.raw := fun m member => (readable.members m member).1
  have none_ : unique? name entries = some none ↔ Absent name members := by
    rw [unique?_eq_none_iff, filter_of_named? read, List.map_eq_nil_iff, withName_eq_nil_iff raw]
  have one (value : Json) : unique? name entries = some (some value) ↔ Only name members value := by
    rw [unique?_eq_some_iff, filter_of_named? read, withName_eq_singleton_iff raw]
  constructor
  · rintro ⟨_ | value, found, used⟩
    · exact .inl ⟨none_.mp found, used⟩
    · have only := (one value).mp found
      obtain ⟨key, member⟩ := only.exists_mem
      exact .inr ⟨value, only, (readable.members _ member).2, used⟩
  · rintro (⟨absent, used⟩ | ⟨value, only, _, used⟩)
    · exact ⟨none, none_.mpr absent, used⟩
    · exact ⟨some value, (one value).mpr only, used⟩

theorem exists_source_iff {source : String} :
    (∃ found, unique? "c" entries = some found ∧ found.bind Json.text? = some source) ↔
      ∃ c, Only "c" members c ∧ Spells c source := by
  rw [exists_unique?_iff readable read (·.bind Json.text?)]
  constructor
  · rintro (⟨_, none⟩ | ⟨c, only, readable, used⟩)
    · cases none
    · exact ⟨c, only, (text?_eq_some_iff readable).mp used⟩
  · rintro ⟨c, only, spells⟩
    obtain ⟨key, member⟩ := only.exists_mem
    have inside := (readable.members _ member).2
    exact .inr ⟨c, only, inside, (text?_eq_some_iff inside).mpr spells⟩

theorem exists_title_iff {title : String} :
    (∃ found, unique? "t" entries = some found ∧ title? found = some title) ↔
      (Absent "t" members ∧ title = "") ∨ ∃ t, Only "t" members t ∧ Spells t title := by
  rw [exists_unique?_iff readable read title?]
  refine or_congr (and_congr_right' ⟨fun same => (Option.some.inj same).symm, fun same => by rw [same]; rfl⟩) ?_
  constructor
  · rintro ⟨t, only, readable, used⟩
    exact ⟨t, only, (text?_eq_some_iff readable).mp used⟩
  · rintro ⟨t, only, spells⟩
    obtain ⟨key, member⟩ := only.exists_mem
    have inside := (readable.members _ member).2
    exact ⟨t, only, inside, (text?_eq_some_iff inside).mpr spells⟩

theorem exists_mode_iff {mode : ViewMode} :
    (∃ found, unique? "m" entries = some found ∧ mode? found = some mode) ↔
      (Absent "m" members ∧ mode = .editor) ∨ ∃ m, Only "m" members m ∧ NamesMode m mode := by
  rw [exists_unique?_iff readable read mode?]
  refine or_congr (and_congr_right' ⟨fun same => (Option.some.inj same).symm, fun same => by rw [same]; rfl⟩) ?_
  constructor
  · rintro ⟨m, only, readable, used⟩
    exact ⟨m, only, (ofJson?_mode_eq_some_iff readable).mp used⟩
  · rintro ⟨m, only, named⟩
    obtain ⟨key, member⟩ := only.exists_mem
    have inside := (readable.members _ member).2
    exact ⟨m, only, inside, (ofJson?_mode_eq_some_iff inside).mpr named⟩

end

theorem exists_named?_iff_reads {members : List (Quoted × Json)} (readable : Readable (.object members)) :
    (∃ entries, named? members = some entries) ↔ ∀ m ∈ members, ∃ name, Reads m.1.raw name := by
  rw [exists_named?_iff]
  refine forall₂_congr fun m member => ?_
  have raw := (readable.members m member).1
  constructor
  · rintro ⟨name, read⟩
    exact ⟨_, (Quoted.text?_eq_some_iff raw).mp read⟩
  · rintro ⟨name, reads⟩
    refine ⟨String.ofList name, (Quoted.text?_eq_some_iff raw).mpr ?_⟩
    rwa [String.toList_ofList]

theorem ofJson?_object_iff {members : List (Quoted × Json)} (readable : Readable (.object members))
    {state : SharedState} : ofJson? (.object members) = some state ↔ Carries (.object members) state := by
  simp only [ofJson?, bind, Option.bind_eq_some_iff, pure, Option.some.injEq]
  constructor
  · rintro ⟨entries, named, foundC, uniqueC, source, readC, foundT, uniqueT, title, readT, foundM, uniqueM, mode,
      readM, rfl⟩
    obtain ⟨c, only, isSource⟩ := (exists_source_iff readable named).mp
      ⟨foundC, uniqueC, Option.bind_eq_some_iff.mpr readC⟩
    have isTitle := (exists_title_iff readable named).mp ⟨foundT, uniqueT, readT⟩
    have isMode := (exists_mode_iff readable named).mp ⟨foundM, uniqueM, readM⟩
    exact .object ((exists_named?_iff_reads readable).mp ⟨entries, named⟩) only isSource isTitle isMode
  · rintro @⟨_, c, source, title, mode, names, only, isSource, isTitle, isMode⟩
    obtain ⟨entries, named⟩ := (exists_named?_iff_reads readable).mpr names
    obtain ⟨foundC, uniqueC, readC⟩ := (exists_source_iff readable named).mpr ⟨c, only, isSource⟩
    obtain ⟨foundT, uniqueT, readT⟩ := (exists_title_iff readable named).mpr isTitle
    obtain ⟨foundM, uniqueM, readM⟩ := (exists_mode_iff readable named).mpr isMode
    exact ⟨entries, named, foundC, uniqueC, source, Option.bind_eq_some_iff.mp readC, foundT, uniqueT, title, readT,
      foundM, uniqueM, mode, readM, rfl⟩

theorem ofJson?_array_iff {items : List Json} (readable : Readable (.array items)) {state : SharedState} :
    ofJson? (.array items) = some state ↔ Carries (.array items) state := by
  have inside := readable.items
  constructor
  · intro read
    match items with
    | [] => cases read
    | [c] =>
      simp only [ofJson?, List.length_nil, Nat.zero_le, if_true, bind, Option.bind_eq_some_iff, pure,
        Option.some.injEq, List.getElem?_nil, title?, mode?] at read
      obtain ⟨source, readC, _, rfl, _, rfl, rfl⟩ := read
      exact .one ((text?_eq_some_iff (inside c (by simp))).mp readC)
    | [c, t] =>
      simp only [ofJson?, List.length_cons, List.length_nil, Nat.reduceAdd, Nat.reduceLeDiff, if_true, bind,
        Option.bind_eq_some_iff, pure, Option.some.injEq, List.getElem?_cons_zero, List.getElem?_cons_succ,
        List.getElem?_nil, title?, mode?] at read
      obtain ⟨source, readC, title, readT, _, rfl, rfl⟩ := read
      exact .two ((text?_eq_some_iff (inside c (by simp))).mp readC)
        ((text?_eq_some_iff (inside t (by simp))).mp readT)
    | [c, t, m] =>
      simp only [ofJson?, List.length_cons, List.length_nil, Nat.reduceAdd, Nat.le_refl, if_true, bind,
        Option.bind_eq_some_iff, pure, Option.some.injEq, List.getElem?_cons_zero, List.getElem?_cons_succ, title?,
        mode?] at read
      obtain ⟨source, readC, title, readT, mode, readM, rfl⟩ := read
      exact .three ((text?_eq_some_iff (inside c (by simp))).mp readC)
        ((text?_eq_some_iff (inside t (by simp))).mp readT) ((ofJson?_mode_eq_some_iff (inside m (by simp))).mp readM)
    | _ :: _ :: _ :: _ :: _ => simp [ofJson?] at read
  · rintro (_ | isSource | ⟨isSource, isTitle⟩ | ⟨isSource, isTitle, isMode⟩)
    · simp [ofJson?, title?, mode?, (text?_eq_some_iff (inside _ (by simp))).mpr isSource]
    · simp [ofJson?, title?, mode?, (text?_eq_some_iff (inside _ (by simp))).mpr isSource,
        (text?_eq_some_iff (inside _ (by simp))).mpr isTitle]
    · simp [ofJson?, title?, mode?, (text?_eq_some_iff (inside _ (by simp))).mpr isSource,
        (text?_eq_some_iff (inside _ (by simp))).mpr isTitle,
        (ofJson?_mode_eq_some_iff (inside _ (by simp))).mpr isMode]

theorem ofJson?_eq_some_iff {document : Json} (readable : Readable document) {state : SharedState} :
    ofJson? document = some state ↔ Carries document state := by
  match document with
  | .object _ => exact ofJson?_object_iff readable
  | .array _ => exact ofJson?_array_iff readable
  | .null | .bool _ | .number _ | .string _ => exact ⟨nofun, nofun⟩

/-- A text stands for a state exactly if it holds a text of a document that carries the state. -/
theorem decode?_eq_some_iff_carries {text : List Char} {state : SharedState} :
    decode? text = some state ↔
      ∃ bytes document, Holds text bytes ∧ IsText bytes document ∧ Carries document state := by
  unfold decode?
  constructor
  · intro read
    split at read
    · cases read
    next some_ =>
    obtain ⟨document, found, carried⟩ := Option.bind_eq_some_iff.mp read
    obtain ⟨bytes, decoded, isText⟩ := Option.bind_eq_some_iff.mp found
    have isText := Json.read?_eq_some_iff.mp isText
    exact ⟨bytes, document, holds_iff.mpr ⟨fun none => some_ (by rw [none]; rfl), decoded⟩, isText,
      (ofJson?_eq_some_iff ⟨bytes, isText⟩).mp carried⟩
  · rintro ⟨bytes, document, holds, isText, carries⟩
    obtain ⟨some_, decoded⟩ := holds_iff.mp holds
    rw [if_neg (by simpa using some_), decoded, Option.bind_some, Json.read?_eq_some_iff.mpr isText, Option.bind_some,
      (ofJson?_eq_some_iff ⟨bytes, isText⟩).mpr carries]

/-- What is documented of tokens: what they hold is UTF-8 besides. -/
def Documented (text : List Char) (state : SharedState) : Prop :=
  ∃ bytes document, Holds text bytes ∧ (∃ payload, bytes = Utf8.encode payload) ∧ IsText bytes document ∧
    Carries document state

/-- Which texts stand for which states. A text stands for a state exactly if the bytes that it holds are a text
    of a document that carries the state; and where these bytes are UTF-8, exactly if it is documented to. -/
theorem decode?_iff_documented (text : List Char) (state : SharedState) :
    (decode? text = some state ↔
      ∃ bytes document, Holds text bytes ∧ IsText bytes document ∧ Carries document state) ∧
    ((∀ bytes, Holds text bytes → ∃ payload, bytes = Utf8.encode payload) →
      (decode? text = some state ↔ Documented text state)) := by
  have carries : decode? text = some state ↔ _ := decode?_eq_some_iff_carries
  refine ⟨carries, fun utf8 => ?_⟩
  rw [carries]
  constructor
  · rintro ⟨bytes, document, holds, isText, carried⟩
    exact ⟨bytes, document, holds, utf8 bytes holds, isText, carried⟩
  · rintro ⟨bytes, document, holds, _, isText, carried⟩
    exact ⟨bytes, document, holds, isText, carried⟩

/-- A list in another spelling, with an escape and the mode as an object, behind a mark and between blanks. -/
theorem decode?_iff_documented_respelled :
    (∀ bytes, Holds " #WyJcdTAwNzBpZSIsICIiLCB7InZpZXdlciI6bnVsbH1d\n".toList bytes →
      ∃ payload, bytes = Utf8.encode payload) ∧
    Documented " #WyJcdTAwNzBpZSIsICIiLCB7InZpZXdlciI6bnVsbH1d\n".toList ⟨"pie", "", .viewer⟩ := by
  have utf8 : ∀ bytes, Holds " #WyJcdTAwNzBpZSIsICIiLCB7InZpZXdlciI6bnVsbH1d\n".toList bytes →
      ∃ payload, bytes = Utf8.encode payload := by
    intro bytes holds
    have decoded := (holds_iff.mp holds).2
    have text : (Text.Base64.urlSafe.decode? (token " #WyJcdTAwNzBpZSIsICIiLCB7InZpZXdlciI6bnVsbH1d\n".toList)).bind
        Utf8.decode? = some "[\"\\u0070ie\", \"\", \x7b\"viewer\":null\x7d]".toList := by cbv
    rw [decoded] at text
    exact ⟨_, Utf8.decode?_eq_some_iff.mp text⟩
  exact ⟨utf8, ((decode?_iff_documented _ _).2 utf8).mp (by cbv)⟩

/-- An object with a byte in it that is no UTF-8, in a member that is let be. It stands for a state, which it is
    not documented to. -/
theorem not_documented_of_stray_byte :
    ¬ ∀ (text : List Char) (state : SharedState), decode? text = some state ↔ Documented text state := by
  intro all
  have read : decode? "eyJjIjoieCIsInoiOiL_In0".toList = some ⟨"x", "", .editor⟩ := by cbv
  obtain ⟨bytes, _, holds, ⟨payload, utf8⟩, _⟩ := (all _ _).mp read
  have decoded := (holds_iff.mp holds).2
  have none : (Text.Base64.urlSafe.decode? (token "eyJjIjoieCIsInoiOiL_In0".toList)).bind Utf8.decode? = none := by
    cbv
  rw [decoded, utf8, Option.bind_some, Utf8.decode?_encode] at none
  cases none

end DiagramStudio.SharedState
