import DiagramStudio.Instances

/-!
White space and the cutting of text: the Unicode class `White_Space`, trimming, and the pieces of a
text between separators. Joining the pieces with a separator gives the text back (`join_pieces`).
-/

namespace DiagramStudio.Text

/-- The characters with the Unicode property `White_Space`. Zero-width space, the byte-order mark
    and the information separators do not have it. -/
def isWhite (c : Char) : Bool :=
  let n := c.toNat
  (0x9 ≤ n && n ≤ 0xD) || n == 0x20 || n == 0x85 || n == 0xA0 || n == 0x1680 ||
  (0x2000 ≤ n && n ≤ 0x200A) || n == 0x2028 || n == 0x2029 || n == 0x202F || n == 0x205F ||
  n == 0x3000

/-- Every character that core calls white space is white. -/
theorem isWhite_of_isWhitespace {c : Char} (h : c.isWhitespace) : isWhite c := by
  simp only [Char.isWhitespace, Bool.or_eq_true, decide_eq_true_eq] at h
  rcases h with ((h | h) | h) | h <;> subst h <;> decide

/-- A text without its leading white space. -/
def trimStart (s : List Char) : List Char :=
  s.dropWhile isWhite

/-- A text without its trailing white space. -/
def trimEnd (s : List Char) : List Char :=
  (s.reverse.dropWhile isWhite).reverse

/-- A text without white space at either end. -/
def trim (s : List Char) : List Char :=
  trimEnd (trimStart s)

/-- All of the text is white space; the empty text is blank. -/
def isBlank (s : List Char) : Bool :=
  s.all isWhite

/-- The pieces of a text between the characters that `sep` holds of. A text without a separator is
    its own only piece. -/
def pieces (sep : Char → Bool) : List Char → List (List Char)
  | [] => [[]]
  | c :: rest =>
    if sep c then [] :: pieces sep rest
    else
      match pieces sep rest with
      | [] => [[c]]
      | first :: more => (c :: first) :: more

/-- There is always a piece. -/
theorem pieces_ne_nil (sep : Char → Bool) (s : List Char) : pieces sep s ≠ [] := by
  cases s with
  | nil => simp [pieces]
  | cons c rest =>
    simp only [pieces]
    split
    · simp
    · split <;> simp

/-- The words of a text: its pieces between separators that are not empty. -/
def words (sep : Char → Bool) (s : List Char) : List (List Char) :=
  (pieces sep s).filter (!·.isEmpty)

/-- The lines of a text, cut at line feeds; a final line feed is followed by one more, empty line. -/
def lines (s : List Char) : List (List Char) :=
  pieces (· == '\n') s

/-- The text of the lines, with a line feed between neighbours. -/
def unlines (rows : List (List Char)) : List Char :=
  ['\n'].intercalate rows

/-- Cutting at one character and joining with it again changes nothing. -/
theorem join_pieces (d : Char) (s : List Char) :
    [d].intercalate (pieces (· == d) s) = s := by
  induction s with
  | nil => rfl
  | cons c rest ih =>
    simp only [pieces]
    have some := pieces_ne_nil (· == d) rest
    split
    · next h =>
      have same : c = d := by simpa using h
      subst same
      cases cut : pieces (· == c) rest with
      | nil => exact absurd cut some
      | cons first more => rw [cut] at ih; simpa [List.intercalate] using ih
    · cases cut : pieces (· == d) rest with
      | nil => exact absurd cut some
      | cons first more =>
        rw [cut] at ih
        cases more with
        | nil => simpa [List.intercalate] using ih
        | cons second others => simpa [List.intercalate] using ih

theorem unlines_lines (s : List Char) : unlines (lines s) = s :=
  join_pieces '\n' s

/-- The text in front of the first character that `p` holds of, and the text after that
    character. -/
def cut? (p : Char → Bool) : List Char → Option (List Char × List Char)
  | [] => none
  | c :: rest =>
    if p c then some ([], rest)
    else (cut? p rest).map fun (before, after) => (c :: before, after)

/-- The text that follows `mark`, if the text starts with it. -/
def dropFront? (mark : List Char) (s : List Char) : Option (List Char) :=
  if mark.isPrefixOf s then some (s.drop mark.length) else none

/-- The text in front of `mark`, if the text ends with it. -/
def dropBack? (mark : List Char) (s : List Char) : Option (List Char) :=
  if mark.isSuffixOf s then some (s.take (s.length - mark.length)) else none

/-- The text in front of the first place where `mark` stands, and the text after it. -/
def cutAt? (mark : List Char) : List Char → Option (List Char × List Char)
  | [] => if mark.isEmpty then some ([], []) else none
  | c :: rest =>
    match dropFront? mark (c :: rest) with
    | some after => some ([], after)
    | none => (cutAt? mark rest).map fun (before, after) => (c :: before, after)

/-- The mark that some programs put in front of a text. It is not white space. -/
def byteOrderMark : Char := '\uFEFF'

/-- The text without one leading byte-order mark. -/
def stripMark : List Char → List Char
  | [] => []
  | c :: rest => if c = byteOrderMark then rest else c :: rest

/-- The number of bytes that the text takes in UTF-8. -/
def byteSize (s : List Char) : Nat :=
  (s.map Char.utf8Size).sum

end DiagramStudio.Text
