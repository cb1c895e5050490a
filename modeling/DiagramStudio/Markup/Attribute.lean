import DiagramStudio.Markup.Event

/-!
The attributes of a tag, read off the text behind its name. Values keep the text between their
quotes; positions in faults count bytes from the beginning of the tag's name.
-/

namespace DiagramStudio.Markup

/-- A name and the text of its value. -/
structure Attribute where
  key : List Char
  value : List Char
deriving Repr, DecidableEq

namespace Attribute

/-- The attribute as it is written, with a space in front. The value is put between double quotes as
    it is. -/
def render (a : Attribute) : List Char :=
  ' ' :: a.key ++ "=\"".toList ++ a.value ++ ['"']

/-- The local name is the word, in any case. -/
def isCalled (a : Attribute) (word : String) : Bool :=
  Text.sameFolded (localName a.key) word.toList

end Attribute

/-- What is wrong with the attributes of a tag, and at which byte. -/
inductive AttributeFault where
  | expectedEquals (position : Nat)
  | expectedValue (position : Nat)
  | unquotedValue (position : Nat)
  | unclosedValue (position : Nat) (quote : Char)
  | duplicate (position previous : Nat)
deriving Repr, DecidableEq

def AttributeFault.message : AttributeFault → String
  | expectedEquals position =>
    "position " ++ toString position ++ ": attribute key must be directly followed by `=` or space"
  | expectedValue position =>
    "position " ++ toString position ++ ": `=` must be followed by an attribute value"
  | unquotedValue position =>
    "position " ++ toString position ++ ": attribute value must be enclosed in `\"` or `'`"
  | unclosedValue position quote =>
    "position " ++ toString position ++ ": missing closing quote `" ++ quote.toString
      ++ "` in attribute value"
  | duplicate position previous =>
    "position " ++ toString position ++ ": duplicated attribute, previous declaration at position "
      ++ toString previous

namespace Attribute

/-- A key, and the byte at which it stands. -/
structure Key where
  name : List Char
  position : Nat

/-- A character of a key behind its first. -/
def isKeyChar (c : Char) : Bool :=
  !isSpace c && c != '='

/-- The value behind an equals sign, from byte `position` on: its text, the byte behind it, and what
    follows it. -/
def quotedValue (position : Nat) (s : List Char) : Except AttributeFault (List Char × Nat × List Char) :=
  let begins := position + Text.byteSize (s.takeWhile isSpace)
  match s.dropWhile isSpace with
  | [] => .error (.expectedValue begins)
  | quote :: body =>
    if quote = '"' ∨ quote = '\'' then
      match Text.cut? (· == quote) body with
      | some (text, after) => .ok (text, begins + Text.byteSize text + 2, after)
      | none => .error (.unclosedValue (position + Text.byteSize s) quote)
    else .error (.unquotedValue begins)

/-- The equals sign behind a key that ends at byte `position`: the byte behind it, and what follows it.
    White space may stand in front of it. -/
def equals (position : Nat) (s : List Char) : Except AttributeFault (Nat × List Char) :=
  let begins := position + Text.byteSize (s.takeWhile isSpace)
  match s.dropWhile isSpace with
  | '=' :: rest => .ok (begins + 1, rest)
  | _ => .error (.expectedEquals begins)

/-- The attribute whose key begins with `c`, at byte `position`, the byte behind it, and what follows it.
    Its key must not be among those seen before. -/
def front (seen : List Key) (position : Nat) (c : Char) (s : List Char) :
    Except AttributeFault (Attribute × Nat × List Char) := do
  let key := c :: s.takeWhile isKeyChar
  let (valued, rest) ← equals (position + Text.byteSize key) (s.dropWhile isKeyChar)
  match seen.find? fun earlier => earlier.name == key with
  | some earlier => throw (.duplicate position earlier.position)
  | none =>
    let (text, behind, after) ← quotedValue valued rest
    return (⟨key, text⟩, behind, after)

theorem length_cut? {p : Char → Bool} {s before after : List Char}
    (h : Text.cut? p s = some (before, after)) : after.length < s.length := by
  induction s generalizing before after with
  | nil => simp [Text.cut?] at h
  | cons c rest ih =>
    simp only [Text.cut?] at h
    split at h
    · cases h; simp
    · cases cut : Text.cut? p rest with
      | none => simp [cut] at h
      | some found =>
        obtain ⟨inside, behind⟩ := found
        simp only [cut, Option.map_some, Option.some.injEq, Prod.mk.injEq] at h
        have := ih cut
        rw [← h.2]; simp only [List.length_cons]; omega

theorem length_dropWhile_le (p : Char → Bool) (s : List Char) : (s.dropWhile p).length ≤ s.length :=
  (List.dropWhile_sublist p).length_le

theorem length_quotedValue {position behind : Nat} {s text after : List Char}
    (h : quotedValue position s = .ok (text, behind, after)) : after.length ≤ s.length := by
  simp only [quotedValue] at h
  split at h
  · cases h
  · next quote body found =>
    have whole := length_dropWhile_le isSpace s
    rw [found, List.length_cons] at whole
    split at h
    · split at h
      · next cut => cases h; have := length_cut? cut; omega
      · cases h
    · cases h

theorem length_equals {position behind : Nat} {s rest : List Char}
    (h : equals position s = .ok (behind, rest)) : rest.length ≤ s.length := by
  simp only [equals] at h
  split at h
  · next found =>
    cases h
    have whole := length_dropWhile_le isSpace s
    rw [found, List.length_cons] at whole
    omega
  · cases h

/-- An attribute takes at least its first character. -/
theorem length_front {seen : List Key} {position behind : Nat} {c : Char} {s after : List Char}
    {a : Attribute} (h : front seen position c s = .ok (a, behind, after)) : after.length ≤ s.length := by
  simp only [front, bind, Except.bind] at h
  split at h
  · cases h
  · next sign =>
    have first := length_equals sign
    have whole := length_dropWhile_le isKeyChar s
    split at h
    · cases h
    · split at h
      · cases h
      · next found =>
        simp only [pure, Except.pure, Except.ok.injEq, Prod.mk.injEq] at h
        have second := length_quotedValue found
        rw [← h.2.2]; omega

/-- The attributes in the text that begins at byte `position`; the keys in front of it have been
    `seen`. White space may stand between attributes. -/
def readFrom (seen : List Key) (position : Nat) : List Char → Except AttributeFault (List Attribute)
  | [] => .ok []
  | c :: rest =>
    if isSpace c then readFrom seen (position + c.utf8Size) rest
    else
      match _h : front seen position c rest with
      | .error fault => .error fault
      | .ok (a, behind, after) => do
        let more ← readFrom (⟨a.key, position⟩ :: seen) behind after
        return a :: more
termination_by s => s.length
decreasing_by
  · simp
  · exact Nat.lt_succ_of_le (length_front _h)

end Attribute

/-- The attributes of a tag, in their order. -/
def Tag.attributes (tag : Tag) : Except AttributeFault (List Attribute) :=
  Attribute.readFrom [] (Text.byteSize tag.name) tag.tail

/-- A tag with the given attributes. -/
def Tag.ofAttributes (name : List Char) (attributes : List Attribute) : Tag :=
  ⟨name, attributes.flatMap Attribute.render⟩

end DiagramStudio.Markup
