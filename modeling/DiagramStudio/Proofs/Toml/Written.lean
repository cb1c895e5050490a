import DiagramStudio.Toml.Document

/-!
What is written as a table of texts reads back (`readTexts?_writeTexts`), whatever characters keys and texts
have, as long as no key stands twice. No key stands twice in what can be read (`keys_nodup_of_readTexts?`): every
value is given once.
-/

namespace DiagramStudio.Toml

/-! ## Quotes -/

theorem hexNumber?_control_all : ∀ n < 0x80,
    hexNumber? 0 ['0', '0', hexDigit (n / 16), hexDigit (n % 16)] = some n := by
  decide

theorem basic?_escape {s rest : List Char} {c : Char} (escape : escape? s = some (c, rest)) :
    basic? ('\\' :: s) = (basic? rest).map fun (text, behind) => (c :: text, behind) := by
  rw [basic?.eq_def]
  simp only
  split
  · next found =>
    rw [escape] at found
    cases found
    rfl
  · next none =>
    rw [escape] at none
    cases none

theorem basic?_plain {c : Char} (quote : c ≠ '"') (backslash : c ≠ '\\') (control : isControl c = false)
    (s : List Char) : basic? (c :: s) = (basic? s).map fun (text, behind) => (c :: text, behind) := by
  rw [basic?.eq_def]
  split
  · next same => cases same
  · next same => exact absurd (List.cons.inj same).1 quote
  · next same => exact absurd (List.cons.inj same).1 backslash
  · next same =>
    cases same
    rw [if_neg (by rw [control]; exact Bool.false_ne_true)]

theorem toNat_of_isControl {c : Char} (control : isControl c = true) : c.toNat < 0x80 := by
  simp only [isControl, Bool.or_eq_true, Bool.and_eq_true, decide_eq_true_eq, beq_iff_eq] at control
  omega

/-- A character is read back from the way it is written between quotes. -/
theorem basic?_quoteChar (c : Char) (s : List Char) :
    basic? (quoteChar c ++ s) = (basic? s).map fun (text, behind) => (c :: text, behind) := by
  unfold quoteChar
  split
  · next same =>
    subst same
    exact basic?_escape rfl
  split
  · next same =>
    subst same
    exact basic?_escape rfl
  split
  · next same =>
    subst same
    exact basic?_escape rfl
  split
  · next control =>
    have small := toNat_of_isControl control
    have digits := hexNumber?_control_all c.toNat small
    have valid : c.toNat.isValidChar := .inl (by omega)
    refine basic?_escape ?_
    simp [escape?, codePoint?, digits, valid]
  · next quote backslash _ control =>
    exact basic?_plain quote backslash (by simpa using control) s

theorem basic?_quote (text rest : List Char) :
    basic? (text.flatMap quoteChar ++ '"' :: rest) = some (text, rest) := by
  induction text with
  | nil =>
    rw [basic?.eq_def]
    rfl
  | cons c more ih => rw [List.flatMap_cons, List.append_assoc, basic?_quoteChar, ih, Option.map_some]

theorem quote_append (text rest : List Char) :
    quote text ++ rest = '"' :: (text.flatMap quoteChar ++ '"' :: rest) := by
  simp only [quote, List.cons_append, List.append_assoc, List.nil_append]

theorem lineString?_quote (text rest : List Char) : lineString? (quote text ++ rest) = some (text, rest) := by
  rw [quote_append]
  exact basic?_quote text rest

/-- What stands between quotes never begins with one. -/
theorem quoteChar_ne_quote (c : Char) : ∃ d more, quoteChar c = d :: more ∧ d ≠ '"' := by
  unfold quoteChar
  split
  · exact ⟨_, _, rfl, by decide⟩
  split
  · exact ⟨_, _, rfl, by decide⟩
  split
  · exact ⟨_, _, rfl, by decide⟩
  split
  · exact ⟨_, _, rfl, by decide⟩
  · next quote _ _ _ => exact ⟨_, _, rfl, quote⟩

/-- A text in quotes at the end of a line is not taken for one that goes over several lines. -/
theorem string?_quote (text rest : List Char) : string? (quote text ++ '\n' :: rest) = some (text, '\n' :: rest) := by
  have oneLine := lineString?_quote text ('\n' :: rest)
  rw [quote_append] at oneLine ⊢
  rw [string?.eq_def]
  split
  · next more same =>
    cases text with
    | nil => simp at same
    | cons c others =>
      obtain ⟨d, tail, first, other⟩ := quoteChar_ne_quote c
      simp only [List.flatMap_cons, first, List.cons_append, List.cons.injEq, true_and] at same
      exact absurd same.1 other
  · next more same => cases same
  · exact oneLine

/-! ## Lines -/

theorem dropWhile_isBlank_quote (text rest : List Char) :
    (quote text ++ rest).dropWhile isBlank = quote text ++ rest := by
  rw [quote_append]
  exact List.dropWhile_cons_of_neg (by decide)

theorem dottedKey?_quote (key rest : List Char) :
    dottedKey? (quote key ++ " = ".toList ++ rest) = some ([String.ofList key], '=' :: ' ' :: rest) := by
  have blank : (" = ".toList ++ rest).dropWhile isBlank = '=' :: ' ' :: rest := by simp [isBlank]
  rw [dottedKey?, pathMax, List.append_assoc, path?, dropWhile_isBlank_quote, key?, lineString?_quote]
  simp only [blank]
  rfl

theorem value?_quote (depth fuel : Nat) (text rest : List Char) :
    value? depth (fuel + 1) (quote text ++ '\n' :: rest) = some (.text (String.ofList text), '\n' :: rest) := by
  have read := string?_quote text rest
  rw [quote_append] at read ⊢
  rw [value?, read]
  rfl

theorem textLine_append (key value : String) (rest : List Char) :
    textLine key value ++ rest =
      '"' :: (key.toList.flatMap quoteChar ++ '"' :: (" = ".toList ++ (quote value.toList ++ '\n' :: rest))) := by
  rw [← quote_append]
  simp only [textLine, List.append_assoc, List.cons_append, List.nil_append]

theorem line?_textLine (key value : String) (rest : List Char) :
    line? (textLine key value ++ rest) = some (.assignment [key] (.text value), '\n' :: rest) := by
  have read := dottedKey?_quote key.toList (quote value.toList ++ '\n' :: rest)
  have start : (' ' :: (quote value.toList ++ '\n' :: rest)).dropWhile isBlank =
      quote value.toList ++ '\n' :: rest := by
    rw [List.dropWhile_cons_of_pos (by decide), dropWhile_isBlank_quote]
  rw [String.ofList_toList, List.append_assoc, quote_append] at read
  rw [textLine_append, line?, List.dropWhile_cons_of_neg (by decide)]
  split
  · next same => cases same
  · next same => cases same
  · rw [if_neg (by simp [startsBlank, afterNewline?]), read]
    simp only [start, value?_quote, String.ofList_toList, Option.map_some]

theorem add_assignment {entries : Entries} {key : String} (free : ∀ e ∈ entries, e.1 ≠ key) (value : Setting) :
    Draft.add ⟨[], entries⟩ (.assignment [key] value) = some ⟨[], entries ++ [(key, .value value)]⟩ := by
  have none_ : entries.find? key = none := by
    simpa [Entries.find?] using fun k node member => free (k, node) member
  have new : (entries.any fun e => e.1 == key) = false := by
    simpa using fun k node member => free (k, node) member
  simp [Draft.add, Entries.within, Entries.assign, none_, Entries.set, new]

/-- A line that gives a key its text is read, with the end of the line. -/
theorem lines?_textLine {entries : Entries} {key : String} (free : ∀ e ∈ entries, e.1 ≠ key) (value : String)
    (fuel : Nat) (rest : List Char) :
    lines? (fuel + 1) ⟨[], entries⟩ (textLine key value ++ rest) =
      lines? fuel ⟨[], entries ++ [(key, .value (.text value))]⟩ rest := by
  have read := line?_textLine key value rest
  rw [textLine_append] at read ⊢
  have ends : afterLine? ('\n' :: rest) = some rest := by simp [afterLine?, isBlank, skipComment, afterNewline?]
  rw [lines?]
  simp only [read, add_assignment free, ends]

/-- The entries of a table of texts. -/
def ofTexts (entries : List (String × String)) : Entries := entries.map fun e => (e.1, .value (.text e.2))

theorem lines?_writeTexts {read entries : List (String × String)} (distinct : ((read ++ entries).map (·.1)).Nodup)
    {fuel : Nat} (enough : entries.length < fuel) :
    lines? fuel ⟨[], ofTexts read⟩ (writeTexts entries) = some ⟨[], ofTexts (read ++ entries)⟩ := by
  induction entries generalizing read fuel with
  | nil =>
    obtain ⟨fuel, rfl⟩ : ∃ n, fuel = n + 1 := ⟨fuel - 1, by simp at enough; omega⟩
    rw [List.append_nil]
    rfl
  | cons e more ih =>
    obtain ⟨fuel, rfl⟩ : ∃ n, fuel = n + 1 := ⟨fuel - 1, by simp at enough; omega⟩
    have free : ∀ e' ∈ ofTexts read, e'.1 ≠ e.1 := by
      rw [List.map_append, List.nodup_append] at distinct
      intro e' member
      obtain ⟨e'', inside, rfl⟩ := List.mem_map.mp member
      exact distinct.2.2 _ (List.mem_map_of_mem inside) _ (List.mem_map_of_mem List.mem_cons_self)
    have later : lines? fuel ⟨[], ofTexts (read ++ [e])⟩ (writeTexts more) = _ :=
      ih (by simpa using distinct) (by simpa using enough)
    rw [List.append_assoc, List.singleton_append] at later
    have joined : ofTexts read ++ [(e.1, .value (.text e.2))] = ofTexts (read ++ [e]) := by simp [ofTexts]
    rw [writeTexts, List.flatMap_cons, lines?_textLine free, joined]
    exact later

theorem length_le_writeTexts (entries : List (String × String)) : entries.length ≤ (writeTexts entries).length := by
  induction entries with
  | nil => exact Nat.zero_le _
  | cons e more ih =>
    rw [writeTexts, List.flatMap_cons, List.length_append, ← writeTexts]
    simp only [textLine, List.length_append, List.length_cons, List.length_nil]
    omega

/-- No byte-order mark is in front of what is written. -/
theorem stripMark_writeTexts (entries : List (String × String)) :
    Text.stripMark (writeTexts entries) = writeTexts entries := by
  cases entries with
  | nil => rfl
  | cons e more =>
    rw [writeTexts, List.flatMap_cons, textLine_append]
    rfl

theorem settings_ofTexts (entries : List (String × String)) :
    settings (ofTexts entries) = entries.map fun e => (e.1, .text e.2) := by
  unfold ofTexts
  induction entries with
  | nil => rfl
  | cons e more ih => simp only [List.map_cons, settings, Node.setting, ih]

theorem mapM_texts (entries : List (String × String)) :
    (entries.map fun e => (e.1, Setting.text e.2)).mapM
      (fun (key, value) => value.text?.map fun text => (key, text)) = some entries := by
  induction entries with
  | nil => rfl
  | cons e more ih =>
    rw [List.map_cons, List.mapM_cons, ih]
    rfl

/-- A table of texts is read back as it was written. -/
theorem readTexts?_writeTexts {entries : List (String × String)} (distinct : (entries.map (·.1)).Nodup) :
    readTexts? (writeTexts entries) = some entries := by
  have enough := length_le_writeTexts entries
  have all : lines? ((writeTexts entries).length + 1) ⟨[], ofTexts []⟩ (writeTexts entries) =
      some ⟨[], ofTexts ([] ++ entries)⟩ :=
    lines?_writeTexts (by simpa using distinct) (by omega)
  have read : read? (writeTexts entries) = some (.table (entries.map fun e => (e.1, .text e.2))) := by
    rw [read?, stripMark_writeTexts, ← settings_ofTexts]
    exact congrArg (Option.map fun draft : Draft => Setting.table (settings draft.root)) all
  rw [readTexts?, read]
  exact mapM_texts entries

/-! ## Keys stand once -/

namespace Entries

/-- No key stands twice. -/
def Distinct (entries : Entries) : Prop := (entries.map (·.1)).Nodup

theorem Distinct.set {entries : Entries} (distinct : entries.Distinct) (key : String) (node : Node) :
    (entries.set key node).Distinct := by
  unfold Entries.set
  split
  · have same : (entries.map fun e => if e.1 == key then (key, node) else e).map (·.1) = entries.map (·.1) := by
      rw [List.map_map]
      refine List.map_congr_left fun e _ => ?_
      by_cases found : e.1 = key
      · simp [found]
      · simp [found]
    rwa [Distinct, same]
  · next new =>
    rw [Distinct, List.map_append, List.map_singleton, List.nodup_append]
    refine ⟨distinct, by simp, ?_⟩
    intro k member k' member'
    obtain ⟨e, inside, rfl⟩ := List.mem_map.mp member
    rw [List.mem_singleton] at member'
    rw [member']
    exact fun same => new (List.any_eq_true.mpr ⟨e, inside, beq_iff_eq.mpr same⟩)

/-- Something that is done to entries and gives none of them a key that stands there. -/
def Keeps (f : Entries → Option Entries) : Prop :=
  ∀ {entries entries' : Entries}, entries.Distinct → f entries = some entries' → entries'.Distinct

/-- The result of doing something is the entries with another part under a key. -/
theorem Distinct.of_map_set {α : Type} {entries entries' : Entries} (distinct : entries.Distinct) {key : String}
    {node : α → Node} {found : Option α} (made : found.map (fun a => entries.set key (node a)) = some entries') :
    entries'.Distinct := by
  obtain ⟨a, _, rfl⟩ := Option.map_eq_some_iff.mp made
  exact distinct.set key (node a)

theorem keeps_within {f : Entries → Option Entries} (keeps : Keeps f) (path : List String) :
    Keeps (within f · path) := by
  intro entries entries' distinct made
  cases path with
  | nil => exact keeps distinct made
  | cons key path =>
    simp only [within] at made
    split at made
    · exact distinct.of_map_set made
    · exact distinct.of_map_set made
    · exact distinct.of_map_set made
    · cases made

theorem keeps_assign (path : List String) (value : Setting) : Keeps (assign · path value) := by
  intro entries entries' distinct made
  simp only at made
  rw [assign.eq_def] at made
  split at made
  · cases made
  · split at made
    · cases made
      exact distinct.set _ _
    · cases made
  · split at made
    · exact distinct.of_map_set made
    · split at made
      · cases made
      · exact distinct.of_map_set made
    · split at made
      · cases made
      · exact distinct.of_map_set made
    · cases made

theorem keeps_openTable (key : String) : Keeps (openTable key) := by
  intro entries entries' distinct made
  rw [openTable] at made
  split at made
  · cases made
    exact distinct.set _ _
  · cases made
    exact distinct.set _ _
  · cases made

theorem keeps_addTable (key : String) : Keeps (addTable key) := by
  intro entries entries' distinct made
  rw [addTable] at made
  split at made
  · cases made
    exact distinct.set _ _
  · cases made
    exact distinct.set _ _
  · cases made

end Entries

open Entries in
theorem distinct_of_add {draft draft' : Draft} (distinct : draft.root.Distinct) {line : Line}
    (added : draft.add line = some draft') : draft'.root.Distinct := by
  cases line with
  | blank =>
    cases added
    exact distinct
  | header path =>
    rw [Draft.add] at added
    split at added
    · obtain ⟨root, made, rfl⟩ := Option.map_eq_some_iff.mp added
      exact keeps_within (keeps_openTable _) _ distinct made
    · cases added
  | rowHeader path =>
    rw [Draft.add] at added
    split at added
    · obtain ⟨root, made, rfl⟩ := Option.map_eq_some_iff.mp added
      exact keeps_within (keeps_addTable _) _ distinct made
    · cases added
  | assignment path value =>
    obtain ⟨root, made, rfl⟩ := Option.map_eq_some_iff.mp added
    exact keeps_within (keeps_assign path value) _ distinct made

theorem distinct_of_lines? {fuel : Nat} {draft draft' : Draft} (distinct : draft.root.Distinct) {s : List Char}
    (read : lines? fuel draft s = some draft') : draft'.root.Distinct := by
  induction fuel generalizing draft s with
  | zero => cases read
  | succ fuel ih =>
    cases s with
    | nil =>
      cases read
      exact distinct
    | cons c s =>
      rw [lines?] at read
      split at read
      · cases read
      split at read
      · cases read
      next added =>
      split at read
      · cases read
      exact ih (distinct_of_add distinct added) read

theorem keys_settings (entries : Entries) : (settings entries).map (·.1) = entries.map (·.1) := by
  induction entries with
  | nil => rfl
  | cons e more ih =>
    obtain ⟨key, node⟩ := e
    simp only [settings, List.map_cons, ih]

theorem keys_of_mapM {settings : List (String × Setting)} {entries : List (String × String)}
    (texts : settings.mapM (fun (key, value) => value.text?.map fun text => (key, text)) = some entries) :
    entries.map (·.1) = settings.map (·.1) := by
  induction settings generalizing entries with
  | nil =>
    cases texts
    rfl
  | cons e more ih =>
    simp only [List.mapM_cons, bind, Option.bind_eq_some_iff, pure, Option.some.injEq, Option.map_eq_some_iff] at texts
    obtain ⟨_, ⟨text, _, rfl⟩, others, behind, rfl⟩ := texts
    rw [List.map_cons, List.map_cons, ih behind]

/-- No key stands twice in a table of texts that is read. -/
theorem keys_nodup_of_readTexts? {s : List Char} {entries : List (String × String)}
    (read : readTexts? s = some entries) : (entries.map (·.1)).Nodup := by
  rw [readTexts?] at read
  split at read
  · next settings table =>
    obtain ⟨draft, lines, same⟩ := Option.map_eq_some_iff.mp table
    cases same
    rw [keys_of_mapM read, keys_settings]
    have none : Draft.empty.root.Distinct := List.nodup_nil
    exact distinct_of_lines? none lines
  · cases read

end DiagramStudio.Toml
