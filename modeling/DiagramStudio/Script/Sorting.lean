import DiagramStudio.Script.TextTool

/-!
The program that scripts call to sort lines. Lines are compared by parts of them, each in an order of its
own; lines that are alike in all of these are compared as a whole.
-/

namespace DiagramStudio.Script.Sorting

open TextTool (natural?)

/-! ## Parts of lines -/

/-- A place in a line: so many fields and then so many characters are in front of it. -/
structure Mark where
  fields : Nat
  chars : Nat
  /-- Blanks in front of the characters do not count. -/
  skips : Bool
deriving Repr, DecidableEq

/-- A part of lines, and the letters that say how it is compared. -/
structure Key where
  start : Mark
  /-- Where the part ends, if it is not the end of the line. Without characters that is the end of a
      field. -/
  finish : Option Mark
  letters : List Char
deriving Repr, DecidableEq

def isBlank (c : Char) : Bool := c == ' ' || c == '\t' || c == '\n'

/-- What is left of a line behind so many fields. Fields begin with their blanks, unless there is a sign
    that parts them. -/
def behindFields (sign? : Option Char) : Nat → List Char → List Char
  | 0, s => s
  | n + 1, s =>
    behindFields sign? n (match sign? with
      | some sign => (s.dropWhile (· != sign)).drop 1
      | none => (s.dropWhile isBlank).dropWhile (!isBlank ·))

/-- What is left of a line behind a mark. -/
def behindMark (sign? : Option Char) (m : Mark) (s : List Char) : List Char :=
  let rest := behindFields sign? m.fields s
  (if m.skips then rest.dropWhile isBlank else rest).drop m.chars

/-- What is left of a line behind a field. -/
def behindField (sign? : Option Char) (s : List Char) : List Char :=
  match sign? with
  | some sign => s.dropWhile (· != sign)
  | none => (s.dropWhile isBlank).dropWhile (!isBlank ·)

/-- The part of a line that a key names. -/
def Key.part (sign? : Option Char) (k : Key) (line : List Char) : List Char :=
  let front := behindMark sign? k.start line
  match k.finish with
  | none => front
  | some m =>
    let behind :=
      if m.chars = 0 then behindField sign? (behindFields sign? m.fields line)
      else behindMark sign? m line
    front.take (front.length - behind.length)

/-! ## Reading keys -/

/-- The count at the front of a text, and what follows it. -/
def count (where_ : String) (s : List Char) : Except String (Nat × List Char) :=
  let digits := s.takeWhile Char.isDigit
  match natural? digits with
  | some n => .ok (n, s.drop digits.length)
  | none => .error ("invalid number " ++ where_ ++ ": invalid count at start of " ++ quoted s)

/-- The letters of an order at the front of a text, and what follows them. -/
def lettersOf (s : List Char) : List Char × List Char :=
  let found := s.takeWhile fun c => "bdfgiMhnRrV".toList.contains c
  (found, s.drop found.length)

/-- The key that a text spells. -/
def Key.read (spec : List Char) : Except String Key := do
  let wrong (what : String) : String := what ++ ": invalid field specification " ++ quoted spec
  let (field, rest) ← count "at field start" spec
  if field = 0 then throw (wrong "field number is zero")
  let (char, rest) ← match rest with
    | '.' :: more => count "after '.'" more
    | _ => pure (1, rest)
  if char = 0 then throw (wrong "character offset is zero")
  let (first, rest) := lettersOf rest
  match rest with
  | [] => return ⟨⟨field - 1, char - 1, first.contains 'b'⟩, none, first⟩
  | ',' :: more =>
    let (lastField, rest) ← count "after ','" more
    if lastField = 0 then throw (wrong "field number is zero")
    let (lastChar, rest) ← match rest with
      | '.' :: more => count "after '.'" more
      | _ => pure (0, rest)
    let (last, rest) := lettersOf rest
    if !rest.isEmpty then throw (wrong "stray character in field spec")
    return ⟨⟨field - 1, char - 1, first.contains 'b'⟩, some ⟨lastField - 1, lastChar, last.contains 'b'⟩,
      first ++ last⟩
  | _ => throw (wrong "stray character in field spec")

/-! ## Orders -/

/-- The number in base ten that a text begins with, as a whole number of units and how many places those
    have behind the point; and what follows the number. -/
def leadingNumber (s : List Char) : (Int × Nat) × List Char :=
  let body := s.dropWhile isBlank
  let (negative, body) := match body with
    | '-' :: rest => (true, rest)
    | _ => (false, body)
  let whole := body.takeWhile Char.isDigit
  let rest := body.drop whole.length
  let fraction := match rest with
    | '.' :: more => more.takeWhile Char.isDigit
    | _ => []
  let n : Int := (Sum.digits 10 0 (whole ++ fraction)).1
  let behind := if rest.head? = some '.' then rest.drop (fraction.length + 1) else rest
  ((if negative then -n else n, fraction.length), behind)

/-- Numbers of units with places behind the point compared. -/
def compareUnits (a b : Int × Nat) : Ordering := compare (a.1 * 10 ^ b.2) (b.1 * 10 ^ a.2)

def compareNumbers (a b : List Char) : Ordering := compareUnits (leadingNumber a).1 (leadingNumber b).1

/-- How great the unit behind a number is; below zero if the number is. -/
def unitRank (s : List Char) : Int :=
  let (number, rest) := leadingNumber s
  let units := ['K', 'M', 'G', 'T', 'P', 'E', 'Z', 'Y']
  let rank : Int := match rest with
    | 'k' :: _ => 1
    | c :: _ => ((units.findIdx? (· == c)).map fun n => (n : Int) + 1).getD 0
    | [] => 0
  if number.1 = 0 then 0 else if number.1 < 0 then -rank else rank

/-- Numbers with units compared. -/
def compareSizes (a b : List Char) : Ordering :=
  (compare (unitRank a) (unitRank b)).then (compareNumbers a b)

/-- Numbers that may have an exponent compared; what is no number comes first. -/
def compareReals (a b : List Char) : Ordering :=
  let real? (s : List Char) : Option Float := (Printed.realFront? (s.dropWhile isBlank)).map (·.1)
  match real? a, real? b with
  | none, none => .eq
  | none, some _ => .lt
  | some _, none => .gt
  | some x, some y => if x < y then .lt else if y < x then .gt else .eq

def months : List String :=
  ["JAN", "FEB", "MAR", "APR", "MAY", "JUN", "JUL", "AUG", "SEP", "OCT", "NOV", "DEC"]

/-- The number of the month that a text begins with; zero if there is none. -/
def month (s : List Char) : Nat :=
  let name := ((s.dropWhile isBlank).take 3).map Char.toUpper
  ((months.findIdx? fun m => m.toList == name).map (· + 1)).getD 0

/-- Where a character stands in the order of versions. -/
def versionRank (s : List Char) : Int :=
  match s with
  | [] => -1
  | c :: _ =>
    if c.isDigit then 0
    else if c.isAlpha then c.toNat
    else if c = '~' then -2
    else c.toNat + 256

/-- Rows of signs compared: runs of digits as numbers, all else character by character. Every unit of fuel
    pays for a character or a number. -/
def compareRuns : Nat → List Char → List Char → Ordering
  | 0, _, _ => .eq
  | fuel + 1, a, b =>
    let isWord (s : List Char) : Bool := (s.head?.map fun c => !c.isDigit).getD false
    if a.isEmpty && b.isEmpty then .eq
    else if isWord a || isWord b then
      (compare (versionRank a) (versionRank b)).then (compareRuns fuel (a.drop 1) (b.drop 1))
    else
      let number (s : List Char) : Nat := (Sum.digits 10 0 (s.takeWhile Char.isDigit)).1
      (compare (number a) (number b)).then
        (compareRuns fuel (a.dropWhile Char.isDigit) (b.dropWhile Char.isDigit))

/-- Nothing but endings of names of files, each behind a point. -/
def isEndings (s : List Char) : Bool :=
  match Text.pieces (· == '.') s with
  | [] :: parts => parts.all fun
    | [] => false
    | c :: rest => (c.isAlpha || c == '~') && rest.all fun d => d.isAlphanum || d == '~'
  | _ => false

/-- A version without the endings that it has if it is the name of a file. -/
def versionStem (s : List Char) : List Char :=
  let lengths := (List.range (s.length + 1)).tail
  s.take ((lengths.find? fun n => n == s.length || isEndings (s.drop n)).getD 0)

/-- Where a version stands in front of all others: the empty one, those of directories, and hidden ones. -/
def versionClass : List Char → Nat
  | [] => 0
  | ['.'] => 1
  | ['.', '.'] => 2
  | '.' :: _ => 3
  | _ => 4

/-- Versions compared, first without their endings. -/
def compareVersions (a b : List Char) : Ordering :=
  let fuel := a.length + b.length + 1
  ((compare (versionClass a) (versionClass b)).then (compareRuns fuel (versionStem a) (versionStem b))).then
    (compareRuns fuel a b)

/-- Texts compared character by character. -/
def compareTexts (a b : List Char) : Ordering := if a < b then .lt else if b < a then .gt else .eq

/-- Parts of lines compared in the order that letters name. -/
def compareParts (letters : List Char) (a b : List Char) : Ordering :=
  let has (c : Char) : Bool := letters.contains c
  let seen (s : List Char) : List Char :=
    let s := if has 'd' then s.filter fun c => c.isAlphanum || isBlank c else s
    let s := if has 'i' then s.filter fun c => ' ' ≤ c && c ≤ '~' else s
    if has 'f' then s.map Char.toUpper else s
  let found :=
    if has 'n' then compareNumbers a b
    else if has 'g' then compareReals a b
    else if has 'h' then compareSizes a b
    else if has 'M' then compare (month a) (month b)
    else if has 'V' then compareVersions a b
    else compareTexts (seen a) (seen b)
  if has 'r' then found.swap else found

/-! ## Sorting -/

/-- How lines are sorted. -/
structure Plan where
  keys : List Key
  sign? : Option Char
  /-- Lines that are alike in their parts stay in their order. -/
  stable : Bool
  unique : Bool
  reversed : Bool

namespace Plan

/-- The plan of a call. Keys without an order of their own take that of the call. -/
def ofOptions (o : Options) : Except String Plan := do
  let letters := "bdfgiMhnRrV".toList.filter o.has
  let given ← ((o.given.filter (·.1 == ['k'])).map (·.2)).mapM Key.read
  let inherit (k : Key) : Key :=
    if k.letters.isEmpty then
      ⟨{ k.start with skips := letters.contains 'b' }, k.finish.map ({ · with skips := letters.contains 'b' }),
        letters⟩
    else k
  let whole : Key := ⟨⟨0, 0, letters.contains 'b'⟩, none, letters.filter (· != 'r')⟩
  let keys := if !given.isEmpty then given.map inherit
    else if whole.letters.isEmpty then []
    else [{ whole with letters }]
  match o.value? 't' with
  | some [] => throw "empty tab"
  | some ['\\', '0'] => return ⟨keys, some '\x00', o.has 's', o.has 'u', o.has 'r'⟩
  | some (_ :: _ :: _) => throw ("multi-character tab " ++ quoted ((o.value? 't').getD []))
  | some [sign] => return ⟨keys, some sign, o.has 's', o.has 'u', o.has 'r'⟩
  | none => return ⟨keys, none, o.has 's', o.has 'u', o.has 'r'⟩

/-- Lines compared by their parts. -/
def compareKeys (p : Plan) (a b : List Char) : Ordering :=
  p.keys.foldl (fun found k =>
    found.then (compareParts k.letters (k.part p.sign? a) (k.part p.sign? b))) .eq

/-- Lines compared. -/
def compareLines (p : Plan) (a b : List Char) : Ordering :=
  let found := p.compareKeys a b
  if found != .eq || (!p.keys.isEmpty && (p.stable || p.unique)) then found
  else
    let found := compareTexts a b
    if p.reversed then found.swap else found

def sorted (p : Plan) (lines : List (List Char)) : List (List Char) :=
  let found := lines.mergeSort fun a b => p.compareLines a b != .gt
  if p.unique then
    found.foldr (fun line more => line :: more.dropWhile fun other => p.compareLines line other == .eq) []
  else found

/-- The first line, told by its number, that does not stand behind the one before it. -/
def disorder? (p : Plan) (lines : List (List Char)) : Option (List Char × Nat) :=
  (((lines.zip lines.tail).zipIdx 2).find? fun ((a, b), _) =>
    match p.compareLines a b with
    | .gt => true
    | .eq => p.unique
    | .lt => false).map fun ((_, b), n) => (b, n)

end Plan

def longNames : Options.LongNames :=
  [("reverse", 'r'), ("unique", 'u'), ("numeric-sort", 'n'), ("general-numeric-sort", 'g'),
    ("human-numeric-sort", 'h'), ("month-sort", 'M'), ("version-sort", 'V'), ("check", 'c'),
    ("ignore-case", 'f'), ("ignore-leading-blanks", 'b'), ("dictionary-order", 'd'), ("key", 'k'),
    ("field-separator", 't'), ("output", 'o'), ("stable", 's'), ("merge", 'm'), ("zero-terminated", 'z')]

def sort (c : Call) : Done :=
  c.with "sort" 2 "bdfginrsuzcChmMRV" "koStT" longNames fun o =>
    match Plan.ofOptions o with
    | .error what => (c.done 2).complain 2 ("sort: " ++ what)
    | .ok p =>
      let ending := if o.has 'z' then '\x00' else '\n'
      let linesOf (s : List Char) : List (List Char) :=
        let parts := Text.pieces (· == ending) s
        if parts.getLast? = some [] then parts.dropLast else parts
      let written (lines : List (List Char)) : List Char := lines.flatMap (· ++ [ending])
      let unread (p : List Char) (fault : SystemFault) : String :=
        (if fault = .isDirectory then "sort: read failed: " else "sort: cannot read: ") ++ quotedIfNeeded p
          ++ ": " ++ fault.text
      let checks := o.has 'c' || o.has 'C'
      match if checks then o.operands[1]? else none with
      | some extra =>
        (c.done 2).complain 2 ("sort: extra operand " ++ quoted extra ++ " not allowed with -"
          ++ (if o.has 'c' then "c" else "C"))
      | none =>
        let (text, d) := c.eachFile 2 unread o.operands (fun d _ s => d.write (written (linesOf s))) |>
          fun d => (d.out, { d with out := [] })
        if d.status != 0 then d
        else if checks then
          match p.disorder? (linesOf text) with
          | none => d
          | some (line, n) =>
            if o.has 'C' then { d with status := 1 }
            else
              d.complain 1 ("sort: " ++ told (o.operands.headD hyphen) ++ ":" ++ toString n ++ ": disorder: "
                ++ told line)
        else
          let out := written (p.sorted (linesOf text))
          match o.value? 'o' with
          | none => d.write out
          | some path =>
            match d.disk.write (pathOf path) (bytesOf out) with
            | .ok disk => { d with disk }
            | .error fault => d.complain 2 ("sort: open failed: " ++ told path ++ ": " ++ fault.text)

end DiagramStudio.Script.Sorting
