import DiagramStudio.Toml.Scalar
import DiagramStudio.Toml.Table

/-!
TOML documents: lines that open tables or give keys their values, and how a table of texts is written
as such a document.
-/

namespace DiagramStudio.Toml

/-! ## Keys -/

/-- A character of a key without quotes. -/
def isBare (c : Char) : Bool :=
  c.isAlphanum || c == '_' || c == '-'

/-- One key at the front, with quotes or without, and what follows it. -/
def key? (s : List Char) : Option (String × List Char) :=
  match lineString? s with
  | some (text, rest) => some (String.ofList text, rest)
  | none =>
    if (s.takeWhile isBare).isEmpty then none
    else some (String.ofList (s.takeWhile isBare), s.dropWhile isBare)

/-- Keys with points between them, and what follows them and the blanks behind them. There are not
    more keys than units of fuel. -/
def path? : Nat → List Char → Option (List String × List Char)
  | 0, _ => none
  | fuel + 1, s =>
    match key? (s.dropWhile isBlank) with
    | none => none
    | some (key, rest) =>
      match rest.dropWhile isBlank with
      | '.' :: more => (path? fuel more).map fun (path, after) => (key :: path, after)
      | after => some ([key], after)

/-- The most keys with points between them. -/
def pathMax : Nat := 80

/-- A dotted key at the front, and what follows it and the blanks behind it. -/
def dottedKey? (s : List Char) : Option (List String × List Char) :=
  path? pathMax s

/-! ## Values -/

/-- Blanks, ends of lines and comments at the front left out. -/
def skipGaps (inComment : Bool) : List Char → List Char
  | [] => []
  | '\r' :: '\n' :: rest => skipGaps false rest
  | c :: rest =>
    if c == '\n' then skipGaps false rest
    else if inComment then if isControl c then c :: rest else skipGaps true rest
    else if isBlank c then skipGaps false rest
    else if c == '#' then skipGaps true rest
    else c :: rest

/-- How deep values may be nested. -/
def depthMax : Nat := 80

mutual

/-- A value at the front, and what follows it. `depth` is how much deeper values may be nested;
    every two units of fuel pay for a character that is read. -/
def value? (depth : Nat) : Nat → List Char → Option (Setting × List Char)
  | 0, _ => none
  | fuel + 1, s =>
    match s with
    | '[' :: rest =>
      if depth = 0 then none
      else (items? (depth - 1) fuel (skipGaps false rest)).map fun (items, after) => (.list false items, after)
    | '\x7b' :: rest =>
      if depth = 0 then none
      else
        (members? (depth - 1) fuel [] (skipGaps false rest)).map fun (entries, after) =>
          (.table (settings entries), after)
    | '"' :: _ => (string? s).map fun (text, after) => (.text (String.ofList text), after)
    | '\'' :: _ => (string? s).map fun (text, after) => (.text (String.ofList text), after)
    | _ => (scalar? (scalarSpan s).1).map fun value => (value, (scalarSpan s).2)

/-- The items of an array up to its closing bracket, and what follows that. -/
def items? (depth : Nat) : Nat → List Char → Option (List Setting × List Char)
  | 0, _ => none
  | _ + 1, ']' :: after => some ([], after)
  | fuel + 1, s =>
    match value? depth fuel s with
    | none => none
    | some (item, rest) =>
      match skipGaps false rest with
      | ',' :: more =>
        (items? depth fuel (skipGaps false more)).map fun (items, after) => (item :: items, after)
      | ']' :: after => some ([item], after)
      | _ => none

/-- The entries of a table between braces up to the closing one, and what follows that; `entries` are
    those already read. -/
def members? (depth : Nat) : Nat → Entries → List Char → Option (Entries × List Char)
  | 0, _, _ => none
  | _ + 1, entries, '\x7d' :: after => some (entries, after)
  | fuel + 1, entries, s =>
    match dottedKey? s with
    | none => none
    | some (path, rest) =>
      match skipGaps false rest with
      | '=' :: rest =>
        match value? depth fuel (skipGaps false rest) with
        | none => none
        | some (value, rest) =>
          match entries.assign path value with
          | none => none
          | some entries =>
            match skipGaps false rest with
            | ',' :: more => members? depth fuel entries (skipGaps false more)
            | '\x7d' :: after => some (entries, after)
            | _ => none
      | _ => none

end

/-! ## Lines -/

/-- The text starts a line that says nothing. -/
def startsBlank : List Char → Bool
  | [] => true
  | c :: rest => c == '#' || (afterNewline? (c :: rest)).isSome

/-- What a line says, and what follows that. -/
def line? (s : List Char) : Option (Line × List Char) :=
  match s.dropWhile isBlank with
  | '[' :: '[' :: rest =>
    match dottedKey? rest with
    | some (path, ']' :: ']' :: after) => some (.rowHeader path, after)
    | _ => none
  | '[' :: rest =>
    match dottedKey? rest with
    | some (path, ']' :: after) => some (.header path, after)
    | _ => none
  | rest =>
    if startsBlank rest then some (.blank, rest)
    else
      match dottedKey? rest with
      | some (path, '=' :: rest) =>
        (value? depthMax (2 * rest.length + 2) (rest.dropWhile isBlank)).map fun (value, after) =>
          (.assignment path value, after)
      | _ => none

/-- The text without a comment at the front. -/
def skipComment : List Char → List Char
  | '#' :: rest => rest.dropWhile (!isControl ·)
  | s => s

/-- What follows the end of a line; blanks and a comment may stand in front of it. -/
def afterLine? (s : List Char) : Option (List Char) :=
  match skipComment (s.dropWhile isBlank) with
  | [] => some []
  | c :: rest => afterNewline? (c :: rest)

/-- The document with the lines of a text. Every unit of fuel pays for a line. -/
def lines? : Nat → Draft → List Char → Option Draft
  | 0, _, _ => none
  | _ + 1, draft, [] => some draft
  | fuel + 1, draft, c :: s =>
    match line? (c :: s) with
    | none => none
    | some (line, rest) =>
      match draft.add line with
      | none => none
      | some draft =>
        match afterLine? rest with
        | none => none
        | some after => lines? fuel draft after

/-- The table that a text stands for. A byte-order mark in front is not part of it. -/
def read? (s : List Char) : Option Setting :=
  let s := Text.stripMark s
  (lines? (s.length + 1) .empty s).map fun draft => .table (settings draft.root)

/-! ## Tables of texts -/

/-- One line that gives a key a text. -/
def textLine (key value : String) : List Char :=
  quote key.toList ++ " = ".toList ++ quote value.toList ++ ['\n']

/-- The document of a table of texts: a line for each of them, in their order, with key and value in quotes. -/
def writeTexts (entries : List (String × String)) : List Char :=
  entries.flatMap fun (key, value) => textLine key value

/-- The table of texts that a document stands for. -/
def readTexts? (s : List Char) : Option (List (String × String)) :=
  match read? s with
  | some (.table entries) => entries.mapM fun (key, value) => value.text?.map fun text => (key, text)
  | _ => none

end DiagramStudio.Toml
