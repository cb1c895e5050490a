import DiagramStudio.Markup.Event

/-!
Reading markup. A text is first cut into events one after the other (`next`), then opening and
closing tags are matched (`nest`). Reading stops at the first fault, and keeps the events in front of
it.
-/

namespace DiagramStudio.Markup

/-- What keeps a text from being read further. -/
inductive ReadFault where
  | unclosedReference
  | unclosedTag
  | unclosedQuote (quote : Char)
  | unclosedInstruction
  | unclosedDeclaration
  | unclosedComment
  | unclosedDoctype
  | unclosedCharacterData
  | unknownMarkup
  | namelessDoctype
  /-- A closing tag of another name than the element that is open. -/
  | mismatched (expected found : List Char)
  /-- A closing tag where no element is open. -/
  | unmatched (found : List Char)
deriving Repr, DecidableEq

namespace ReadFault

/-- What is missing at the end of the text. -/
def missing (what mark : String) : String :=
  what ++ ": `" ++ mark ++ "` not found before end of input"

def message : ReadFault → String
  | unclosedReference =>
    "ill-formed document: " ++ missing "entity or character reference not closed" ";"
  | unclosedTag => "syntax error: " ++ missing "tag not closed" ">"
  | unclosedQuote quote => "syntax error: " ++ missing "attribute value not closed" quote.toString
  | unclosedInstruction => "syntax error: " ++ missing "processing instruction not closed" "?>"
  | unclosedDeclaration => "syntax error: " ++ missing "XML declaration not closed" "?>"
  | unclosedComment => "syntax error: " ++ missing "comment not closed" "-->"
  | unclosedDoctype => "syntax error: " ++ missing "DOCTYPE not closed" ">"
  | unclosedCharacterData => "syntax error: " ++ missing "CDATA not closed" "]]>"
  | unknownMarkup => "syntax error: unknown or missed symbol in markup"
  | namelessDoctype =>
    "ill-formed document: `<!DOCTYPE>` declaration does not contain a name of a document type"
  | mismatched expected found =>
    "ill-formed document: expected `</" ++ String.ofList expected ++ ">`, but `</"
      ++ String.ofList found ++ ">` was found"
  | unmatched found =>
    "ill-formed document: close tag `</" ++ String.ofList found ++ ">` does not match any open tag"

end ReadFault

/-! ## One event -/

/-- The inside of a tag and what follows it: the tag ends at the first closing bracket that is not
    between quotes. `quote` is the quote that is open. -/
def tagSpan (quote : Option Char) : List Char → Except ReadFault (List Char × List Char)
  | [] =>
    match quote with
    | none => .error .unclosedTag
    | some q => .error (.unclosedQuote q)
  | c :: rest =>
    match quote with
    | none =>
      if c = '>' then .ok ([], rest)
      else do
        let (content, after) ← tagSpan (if c = '"' ∨ c = '\'' then some c else none) rest
        return (c :: content, after)
    | some q => do
      let (content, after) ← tagSpan (if c = q then none else some q) rest
      return (c :: content, after)

/-- The name in a closing tag, without the white space behind it. White space alone is a name. -/
def closingName (content : List Char) : List Char :=
  if content.all isSpace then content else (content.reverse.dropWhile isSpace).reverse

/-- The event of a tag with the given inside. -/
def ofTag (content : List Char) : Event :=
  match content with
  | '/' :: name => .closing (closingName name)
  | _ =>
    if content.getLast? = some '/' then .standalone (.ofContent content.dropLast)
    else .opening (.ofContent content)

/-- Where reading stands in a document type declaration. -/
inductive DoctypePart where
  /-- In front of the internal subset, between quotes or not. -/
  | outer (quote : Option Char)
  /-- Inside the brackets of the internal subset. -/
  | subset
  /-- Inside a declaration of the subset in which quotes count, between quotes or not. -/
  | quoting (quote : Option Char)
  /-- Inside other markup of the subset, or at the end of a comment or instruction in it: all of these
      end with the next bracket. -/
  | plain
  /-- Inside a comment of the subset, so many characters of whose opening are still ahead. -/
  | innerComment (ahead : Nat)
  /-- Inside an instruction of the subset, so many characters of whose opening are still ahead. -/
  | innerInstruction (ahead : Nat)
  /-- Behind the subset. -/
  | tail

/-- The openings of the declarations in which quotes count. -/
def quotingOpenings : List String := ["!ENTITY", "!ATTLIST", "!NOTATION"]

/-- So many bytes tell any opening from the others; markup that is not known by its opening is none if
    it has fewer of them ahead. -/
def openingReach : Nat := 9

/-- The part of a document type declaration that an opening bracket in its subset begins, given what
    follows the bracket. -/
def markupPart? (s : List Char) : Option DoctypePart :=
  if "!--".toList.isPrefixOf s then some (.innerComment 3)
  else if "?".toList.isPrefixOf s then some (.innerInstruction 1)
  else if quotingOpenings.any fun opening => opening.toList.isPrefixOf s then some (.quoting none)
  else if "!ELEMENT".toList.isPrefixOf s || openingReach ≤ Text.byteSize s then some .plain
  else none

/-- What follows a document type declaration, if it ends. -/
def afterDoctype? (part : DoctypePart) : List Char → Option (List Char)
  | [] => none
  | c :: rest =>
    match part with
    | .outer (some q) => afterDoctype? (.outer (if c = q then none else some q)) rest
    | .outer none =>
      if c = '>' then some rest
      else if c = '[' then afterDoctype? .subset rest
      else if c = '"' ∨ c = '\'' then afterDoctype? (.outer (some c)) rest
      else afterDoctype? (.outer none) rest
    | .subset =>
      if c = ']' then afterDoctype? .tail rest
      else if c = '<' then
        match markupPart? rest with
        | some part => afterDoctype? part rest
        | none => none
      else afterDoctype? .subset rest
    | .quoting (some q) => afterDoctype? (.quoting (if c = q then none else some q)) rest
    | .quoting none =>
      if c = '>' then afterDoctype? .subset rest
      else if c = '"' ∨ c = '\'' then afterDoctype? (.quoting (some c)) rest
      else afterDoctype? (.quoting none) rest
    | .plain => if c = '>' then afterDoctype? .subset rest else afterDoctype? .plain rest
    | .innerComment (ahead + 1) => afterDoctype? (.innerComment ahead) rest
    | .innerComment 0 =>
      if "-->".toList.isPrefixOf (c :: rest) then afterDoctype? .plain rest
      else afterDoctype? (.innerComment 0) rest
    | .innerInstruction (ahead + 1) => afterDoctype? (.innerInstruction ahead) rest
    | .innerInstruction 0 =>
      if "?>".toList.isPrefixOf (c :: rest) then afterDoctype? .plain rest
      else afterDoctype? (.innerInstruction 0) rest
    | .tail => if c = '>' then some rest else afterDoctype? .tail rest

/-- The part of a text in front of what is left of it. -/
def inFront (s after : List Char) : List Char :=
  s.take (s.length - after.length)

/-- The event of markup that opens with an exclamation mark, given what follows that; and what
    follows the event. The next character alone tells what it has to be. -/
def bang (s : List Char) : Except ReadFault (Event × List Char) :=
  match s with
  | '-' :: _ =>
    match (Text.dropFront? "--".toList s).bind (Text.cutAt? "-->".toList) with
    | some (body, after) => .ok (.comment body, after)
    | none => .error .unclosedComment
  | '[' :: _ =>
    match (Text.dropFront? "[CDATA[".toList s).bind (Text.cutAt? "]]>".toList) with
    | some (body, after) => .ok (.characterData body, after)
    | none => .error .unclosedCharacterData
  | c :: _ =>
    if c = 'd' ∨ c = 'D' then
      if Text.startsFolded "doctype".toList s then
        let rest := s.drop "doctype".length
        match afterDoctype? (.outer none) rest with
        | some after =>
          let body := (inFront rest after).dropLast
          if body.all isSpace then .error .namelessDoctype else .ok (.doctype body, after)
        | none => .error .unclosedDoctype
      else .error .unclosedDoctype
    else .error .unknownMarkup
  | [] => .error .unknownMarkup

/-- The text behind the opening question mark is that of a declaration, not of an instruction. -/
def isDeclaration (body : List Char) : Bool :=
  match Text.dropFront? "xml".toList body with
  | some [] => true
  | some (c :: _) => isSpace c
  | none => false

/-- The text behind the opening question mark begins a declaration that is never closed: nothing, white
    space or a question mark follows its name. -/
def opensDeclaration (s : List Char) : Bool :=
  match Text.dropFront? "xml".toList s with
  | some ('?' :: _) => true
  | _ => isDeclaration s

/-- The event of markup that opens with a question mark, given what follows that; and what follows
    the event. One question mark cannot both open and close. -/
def question (s : List Char) : Except ReadFault (Event × List Char) :=
  if s.head? = some '>' then .error .unclosedInstruction
  else
    match Text.cutAt? "?>".toList s with
    | some (body, after) =>
      .ok (if isDeclaration body then .declaration body else .instruction body, after)
    | none => .error (if opensDeclaration s then .unclosedDeclaration else .unclosedInstruction)

/-- Text ends where markup or a reference begins. -/
def isText (c : Char) : Bool :=
  c != '<' && c != '&'

/-- The first event of `c :: rest` and what follows it. -/
def next (c : Char) (rest : List Char) : Except ReadFault (Event × List Char) :=
  if c = '<' then
    match rest with
    | '!' :: more => bang more
    | '?' :: more => question more
    | _ => do
      let (content, after) ← tagSpan none rest
      return (ofTag content, after)
  else if c = '&' then
    match rest.dropWhile fun d => isText d && d != ';' with
    | ';' :: after => .ok (.reference (rest.takeWhile fun d => isText d && d != ';'), after)
    | _ => .error .unclosedReference
  else .ok (.text (c :: rest.takeWhile isText), rest.dropWhile isText)

/-! ## Every step makes the text shorter -/

theorem length_tagSpan {quote : Option Char} {s content after : List Char}
    (h : tagSpan quote s = .ok (content, after)) : after.length < s.length := by
  induction s generalizing quote content after with
  | nil => cases quote <;> simp [tagSpan] at h
  | cons c rest ih =>
    simp only [tagSpan] at h
    split at h
    · split at h
      · cases h; simp
      · cases step : tagSpan (if c = '"' ∨ c = '\'' then some c else none) rest with
        | error e => simp [step, bind, Except.bind] at h
        | ok p =>
          obtain ⟨inside, behind⟩ := p
          simp only [step, bind, Except.bind, pure, Except.pure, Except.ok.injEq, Prod.mk.injEq] at h
          have := ih step
          rw [← h.2]; simp only [List.length_cons]; omega
    · next q =>
      cases step : tagSpan (if c = q then none else some q) rest with
      | error e => simp [step, bind, Except.bind] at h
      | ok p =>
        obtain ⟨inside, behind⟩ := p
        simp only [step, bind, Except.bind, pure, Except.pure, Except.ok.injEq, Prod.mk.injEq] at h
        have := ih step
        rw [← h.2]; simp only [List.length_cons]; omega

theorem length_dropFront? {mark s after : List Char} (h : Text.dropFront? mark s = some after) :
    after.length ≤ s.length := by
  simp only [Text.dropFront?] at h
  split at h
  · cases h; simp
  · cases h

theorem length_cutAt? {mark s before after : List Char}
    (h : Text.cutAt? mark s = some (before, after)) : after.length ≤ s.length := by
  induction s generalizing before after with
  | nil =>
    simp only [Text.cutAt?] at h
    split at h
    · cases h; simp
    · cases h
  | cons c rest ih =>
    simp only [Text.cutAt?] at h
    split at h
    · next found => cases h; exact length_dropFront? found
    · cases cut : Text.cutAt? mark rest with
      | none => simp [cut] at h
      | some p =>
        obtain ⟨inside, behind⟩ := p
        simp only [cut, Option.map_some, Option.some.injEq, Prod.mk.injEq] at h
        have := ih cut
        rw [← h.2]; simp only [List.length_cons]; omega

theorem length_bind_cutAt? {opening mark s before after : List Char}
    (h : (Text.dropFront? opening s).bind (Text.cutAt? mark) = some (before, after)) :
    after.length ≤ s.length := by
  cases front : Text.dropFront? opening s with
  | none => simp [front] at h
  | some rest =>
    simp only [front, Option.bind_some] at h
    exact Nat.le_trans (length_cutAt? h) (length_dropFront? front)

theorem length_afterDoctype? {part : DoctypePart} {s after : List Char}
    (h : afterDoctype? part s = some after) : after.length ≤ s.length := by
  induction s generalizing part after with
  | nil => cases part <;> simp [afterDoctype?] at h
  | cons c rest ih =>
    simp only [List.length_cons]
    simp only [afterDoctype?] at h
    (repeat' split at h) <;>
      first
        | exact Nat.le_succ_of_le (ih h)
        | (cases h <;> omega)

theorem length_bang {s : List Char} {e : Event} {after : List Char} (h : bang s = .ok (e, after)) :
    after.length ≤ s.length := by
  unfold bang at h
  split at h
  · split at h
    · next found => cases h; exact length_bind_cutAt? found
    · cases h
  · split at h
    · next found => cases h; exact length_bind_cutAt? found
    · cases h
  · split at h
    · split at h
      · simp only at h
        split at h
        · next found =>
          split at h
          · cases h
          · cases h
            have := length_afterDoctype? found
            simp only [List.length_drop] at this
            omega
        · cases h
      · cases h
    · cases h
  · cases h

theorem length_question {s : List Char} {e : Event} {after : List Char}
    (h : question s = .ok (e, after)) : after.length ≤ s.length := by
  unfold question at h
  split at h
  · cases h
  · split at h
    · next found => cases h; exact length_cutAt? found
    · cases h

theorem length_dropWhile_le (p : Char → Bool) (s : List Char) : (s.dropWhile p).length ≤ s.length :=
  (List.dropWhile_sublist p).length_le

/-- An event takes at least its first character. -/
theorem length_next {c : Char} {rest : List Char} {e : Event} {after : List Char}
    (h : next c rest = .ok (e, after)) : after.length ≤ rest.length := by
  unfold next at h
  split at h
  · split at h
    · have := length_bang h
      simp only [List.length_cons]; omega
    · have := length_question h
      simp only [List.length_cons]; omega
    · cases span : tagSpan none rest with
      | error f => simp [span, bind, Except.bind] at h
      | ok p =>
        obtain ⟨content, behind⟩ := p
        simp only [span, bind, Except.bind, pure, Except.pure, Except.ok.injEq, Prod.mk.injEq] at h
        have := length_tagSpan span
        rw [← h.2]; omega
  · split at h
    · split at h
      · next found =>
        cases h
        have := length_dropWhile_le (fun d => isText d && d != ';') rest
        rw [found] at this
        simp only [List.length_cons] at this; omega
      · cases h
    · cases h; exact length_dropWhile_le _ _

/-! ## The whole text -/

/-- Events read, and the fault that ended reading, if one did. -/
structure Reading where
  events : List Event
  fault : Option ReadFault
deriving Repr, DecidableEq

namespace Reading

/-- One more event in front. -/
def cons (e : Event) (r : Reading) : Reading :=
  ⟨e :: r.events, r.fault⟩

end Reading

/-- The events of a text, tags not yet matched. -/
def scan : List Char → Reading
  | [] => ⟨[], none⟩
  | c :: rest =>
    match _h : next c rest with
    | .error fault => ⟨[], some fault⟩
    | .ok (e, after) => (scan after).cons e
termination_by s => s.length
decreasing_by exact Nat.lt_succ_of_le (length_next _h)

/-- Opening and closing tags matched: a closing tag has to name the element opened last. `open_` are
    the names of the elements that are open, the last first, and `fault` is what ended the events. -/
def nest (fault : Option ReadFault) : (open_ : List (List Char)) → List Event → Reading
  | _, [] => ⟨[], fault⟩
  | open_, .opening tag :: more => (nest fault (tag.name :: open_) more).cons (.opening tag)
  | open_, .closing name :: more =>
    match open_ with
    | [] => ⟨[], some (.unmatched name)⟩
    | expected :: outer =>
      if name = expected then (nest fault outer more).cons (.closing name)
      else ⟨[], some (.mismatched expected name)⟩
  | open_, e :: more => (nest fault open_ more).cons e

/-- The events of a document, up to the first fault. One byte-order mark in front is dropped. -/
def read (s : List Char) : Reading :=
  let scanned := scan (Text.stripMark s)
  nest scanned.fault [] scanned.events

end DiagramStudio.Markup
