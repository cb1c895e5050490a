import DiagramStudio.Script.Format
import DiagramStudio.Script.Regular
import DiagramStudio.Script.Sum
import DiagramStudio.Script.Tool

/-!
Programs that scripts call for texts: what takes parts of them, counts, replaces characters, sorts and
lists lines.
-/

namespace DiagramStudio.Script.TextTool

/-- The natural number that a text spells in base ten. -/
def natural? (s : List Char) : Option Nat :=
  if !s.isEmpty && s.all Char.isDigit then (String.ofList s).toNat? else none

/-! ## Beginnings and ends -/

/-- The arguments with a number of lines that stands alone as an option written out. -/
def withCount (args : List (List Char)) : List (List Char) :=
  match args with
  | ('-' :: d :: ds) :: more =>
    if (d :: ds).all Char.isDigit then ['-', 'n'] :: (d :: ds) :: more else args
  | _ => args

/-- The text of several files, each behind a line with its name. -/
def headed (several first : Bool) (operand body : List Char) : List Char :=
  let name := if operand = hyphen then "standard input".toList else operand
  if several then (if first then [] else ['\n']) ++ "==> ".toList ++ name ++ " <==\n".toList ++ body
  else body

/-- Something written of each file, headed by its name if there are several. -/
def parted (c : Call) (tool : String) (o : Options) (act : List Char → List Char) : Done :=
  let several := 1 < o.operands.length && !o.has 'q' || o.has 'v'
  c.eachFile 1
    (fun operand fault => tool ++ ": cannot open " ++ quoted operand ++ " for reading: " ++ fault.text)
    o.operands fun d operand s => d.write (headed several d.out.isEmpty operand (act s))

def head (c : Call) : Done :=
  { c with args := withCount c.args }.with "head" 1 "qvz" "nc" [("lines", 'n'), ("bytes", 'c')] fun o =>
    let ofLines (s : List Char) (n : Nat) : List Char :=
      let (lines, ended) := rows s
      ofRowsEnded (lines.take n) (ended || n < lines.length)
    match o.value? 'c' with
    | some ('-' :: digits) =>
      match natural? digits with
      | some n => parted c "head" o fun s => s.take (s.length - n)
      | none => (c.done 1).complain 1 ("head: invalid number of bytes: " ++ quoted ('-' :: digits))
    | some digits =>
      match natural? digits with
      | some n => parted c "head" o (·.take n)
      | none => (c.done 1).complain 1 ("head: invalid number of bytes: " ++ quoted digits)
    | none =>
      match (o.value? 'n').getD ['1', '0'] with
      | '-' :: digits =>
        match natural? digits with
        | some n => parted c "head" o fun s => ofLines s ((rows s).1.length - n)
        | none => (c.done 1).complain 1 ("head: invalid number of lines: " ++ quoted ('-' :: digits))
      | digits =>
        match natural? digits with
        | some n =>
          let d := parted c "head" o (ofLines · n)
          if o.operands.isEmpty then { d with input := c.input.drop d.out.length } else d
        | none => (c.done 1).complain 1 ("head: invalid number of lines: " ++ quoted digits)

def tail (c : Call) : Done :=
  { c with args := withCount c.args }.with "tail" 1 "qvzfF" "ncs" [("lines", 'n'), ("bytes", 'c')] fun o =>
    let (unit, given, bytes) := match o.value? 'c' with
      | some s => ("bytes", s, true)
      | none => ("lines", (o.value? 'n').getD ['1', '0'], false)
    let (fromStart, digits) := match given with
      | '+' :: digits => (true, digits)
      | '-' :: digits => (false, digits)
      | digits => (false, digits)
    match natural? digits with
    | none => (c.done 1).complain 1 ("tail: invalid number of " ++ unit ++ ": " ++ quoted given)
    | some n =>
      parted c "tail" o fun s =>
        if bytes then if fromStart then s.drop (n - 1) else s.drop (s.length - n)
        else
          let (lines, ended) := rows s
          let lines := if fromStart then lines.drop (n - 1) else lines.drop (lines.length - n)
          ofRowsEnded lines ended

/-! ## Counting -/

/-- Lines, words, bytes, and the length of the longest line. -/
def counts (s : List Char) : List Nat :=
  let isGap (c : Char) : Bool := c == ' ' || ('\t' ≤ c && c ≤ '\r')
  [s.count '\n', (Text.words isGap s).length, s.length, s.length,
    ((Text.lines s).map List.length).foldl max 0]

def wc (c : Call) : Done :=
  c.with "wc" 1 "clmwL" "" [("lines", 'l'), ("words", 'w'), ("bytes", 'c'), ("chars", 'm')] fun o =>
    let asked := ['l', 'w', 'm', 'c', 'L'].map o.has
    let asked := if asked.any id then asked else [true, true, false, true, false]
    let pick (ns : List Nat) : List Nat := ((ns.zip asked).filter (·.2)).map (·.1)
    let several := 1 < o.operands.length
    let single := !several && (asked.filter id).length == 1
    let sizes := o.operands.map fun p =>
      if p = hyphen then none else (c.disk.read (pathOf p)).toOption.map List.length
    let total := (sizes.map (·.getD 0)).sum
    let width :=
      if single then 1
      else
        let reads := o.operands.isEmpty || o.operands.any (· == hyphen)
        let least := if reads && !c.readsFile then 7 else 1
        let total := if reads && c.readsFile then total + c.input.length else total
        max least (toString total).length
    let shownRow (ns : List Nat) (name : List Char) : List Char :=
      let cells := (pick ns).map fun n =>
        let digits := shown n
        List.replicate (width - digits.length) ' ' ++ digits
      [' '].intercalate cells ++ (if name.isEmpty then [] else ' ' :: name) ++ ['\n']
    let (d, sums) := (if o.operands.isEmpty then [hyphen] else o.operands).foldl (fun (d, sums) p =>
      let (found, input) := (Done.call d []).held p
      let d : Done := { d with input }
      match found with
      | .ok s =>
        (d.write (shownRow (counts s) (if o.operands.isEmpty then [] else p)),
          List.zipWith (· + ·) sums (counts s))
      | .error fault =>
        let d := d.complain 1 (fileComplaint "wc" p fault)
        (if fault = .isDirectory then d.write (shownRow [0, 0, 0, 0, 0] p) else d, sums))
      (c.done 0, [0, 0, 0, 0, 0])
    if several then d.write (shownRow sums "total".toList) else d

/-! ## Characters -/

/-- The characters of a named class. -/
def classMembers? (name : List Char) : Option (List Char) :=
  (Sign.classOf? (String.ofList name)).map fun ranges =>
    ((List.range 256).map Char.ofNat).filter (Sign.within ranges)

/-- The characters that a set names. Every unit of fuel pays for a character. -/
def setOf : Nat → List Char → List Char
  | 0, _ => []
  | _ + 1, [] => []
  | fuel + 1, s =>
    let oneOf (s : List Char) : Char × List Char :=
      match s with
      | '\\' :: rest =>
        let row := (rest.take 3).takeWhile fun c => '0' ≤ c && c ≤ '7'
        if !row.isEmpty then
          (Char.ofNat ((Sum.digits 8 0 row).1 % 256), rest.drop row.length)
        else
          match rest with
          | 'n' :: more => ('\n', more)
          | 't' :: more => ('\t', more)
          | 'r' :: more => ('\r', more)
          | 'a' :: more => ('\x07', more)
          | 'b' :: more => ('\x08', more)
          | 'f' :: more => ('\x0c', more)
          | 'v' :: more => ('\x0b', more)
          | d :: more => (d, more)
          | [] => ('\\', [])
      | c :: rest => (c, rest)
      | [] => ('\x00', [])
    match if "[:".toList.isPrefixOf s then
        (Text.cutAt? ":]".toList (s.drop 2)).bind fun (name, rest) =>
          (classMembers? name).map fun found => (found, rest)
      else none with
    | some (found, rest) => found ++ setOf fuel rest
    | none =>
      let (low, rest) := oneOf s
      match rest with
      | '-' :: d :: more =>
        let (high, after) := oneOf (d :: more)
        ((List.range (high.toNat + 1 - low.toNat)).map fun i => Char.ofNat (low.toNat + i))
          ++ setOf fuel after
      | _ => low :: setOf fuel rest

/-- The text in which of characters in a row that are the same, and in the set, one is left. -/
def squeezed (set : List Char) (s : List Char) : List Char :=
  (s.foldl (fun (found : List Char) ch =>
    if found.head? == some ch && set.contains ch then found else ch :: found) []).reverse

def tr (c : Call) : Done :=
  c.with "tr" 1 "cCdst" "" [("delete", 'd'), ("squeeze-repeats", 's'), ("complement", 'c')] fun o =>
    let fewer (what : String) : Done := c.missing "tr" what 1
    let deletes := o.has 'd'
    let squeezes := o.has 's'
    let all := (List.range 256).map Char.ofNat
    let setFor (s : List Char) : List Char :=
      let found := setOf (s.length + 1) s
      if o.has 'c' || o.has 'C' then all.filter fun ch => !found.contains ch else found
    match o.operands with
    | [] => fewer "missing operand"
    | [first] =>
      let set := setFor first
      if deletes && !squeezes then
        { c.wrote (c.input.filter fun ch => !set.contains ch) with input := [] }
      else if squeezes && !deletes then { c.wrote (squeezed set c.input) with input := [] }
      else
        fewer ("missing operand after " ++ quoted first ++ "\n"
          ++ (if deletes then "Two strings must be given when both deleting and squeezing repeats."
            else "Two strings must be given when translating."))
    | [first, second] =>
      let set := setFor first
      if deletes && !squeezes then
        fewer ("extra operand " ++ quoted second
          ++ "\nOnly one string may be given when deleting without squeezing repeats.")
      else if deletes then
        let kept := c.input.filter fun ch => !set.contains ch
        { c.wrote (squeezed (setOf (second.length + 1) second) kept) with input := [] }
      else
        let target := setOf (second.length + 1) second
        match target.getLast? with
        | none => (c.done 1).complain 1
          "tr: when not truncating set1, string2 must be non-empty"
        | some last =>
          let pairs := set.zip (target ++ List.replicate (set.length - target.length) last)
          let table := pairs.reverse
          let changed := c.input.map fun ch => (entryFor? ch table).getD ch
          { c.wrote (if squeezes then squeezed target changed else changed) with input := [] }
    | _ :: _ :: extra :: _ => fewer ("extra operand " ++ quoted extra)

/-! ## Columns -/

/-- The places that a list of ranges names, or what is wrong with it. -/
def ranges (unit : String) (s : List Char) : Except String (List (Nat × Option Nat)) :=
  let numbered := if unit = "field" then "fields are" else "byte/character positions are"
  (Text.pieces (· == ',') s).mapM fun part =>
    let invalid : Except String (Nat × Option Nat) :=
      .error (if unit = "field" then "invalid field value " ++ quoted part
        else "invalid byte/character position " ++ quoted part)
    let zero : Except String (Nat × Option Nat) := .error (numbered ++ " numbered from 1")
    match Text.cut? (· == '-') part with
    | none =>
      match natural? part with
      | some 0 => zero
      | some n => .ok (n, some n)
      | none => invalid
    | some ([], []) => .error "invalid range with no endpoint: -"
    | some (low, high) =>
      let a := if low.isEmpty then some 1 else natural? low
      let b := if high.isEmpty then some none else (natural? high).map some
      match a, b with
      | some 0, _ => zero
      | some a, some none => .ok (a, none)
      | some a, some (some b) => if b < a then .error "invalid decreasing range" else .ok (a, some b)
      | _, _ => invalid

/-- A place is among those that are named. -/
def inRanges (found : List (Nat × Option Nat)) (place : Nat) : Bool :=
  found.any fun (low, high) => low ≤ place && (match high with
    | some high => place ≤ high
    | none => true)

/-- The items at places that are named, counted from one, or at all others. -/
def pick {α : Type} (found : List (Nat × Option Nat)) (others : Bool) (items : List α) : List α :=
  ((items.zipIdx 1).filter fun e => inRanges found e.2 != others).map (·.1)

def cut (c : Call) : Done :=
  c.with "cut" 1 "nszC" "bcdfO" [("fields", 'f'), ("characters", 'c'), ("bytes", 'b'), ("delimiter", 'd'),
      ("only-delimited", 's'), ("complement", 'C'), ("output-delimiter", 'O')] fun o =>
    let places := ((o.value? 'c').or (o.value? 'b')).map fun s => ("byte", s)
    let asked := places.or ((o.value? 'f').map fun s => ("field", s))
    match asked with
    | none => c.missing "cut" "you must specify a list of bytes, characters, or fields" 1
    | some (unit, s) =>
      match ranges unit s with
      | .error what => c.missing "cut" what 1
      | .ok found =>
        let picked (line : List Char) : List Char := pick found (o.has 'C') line
        let sign := (o.value? 'd').getD ['\t']
        if 1 < sign.length then c.missing "cut" "the delimiter must be a single character" 1
        else
          let sign := sign.headD '\x00'
          c.eachFile 1 (fileComplaint "cut") o.operands fun d _ s =>
            let (lines, _) := rows s
            let glue := (o.value? 'O').getD [sign]
            d.write (ofRows (lines.filterMap fun line =>
              if unit = "byte" then some (picked line)
              else if !line.contains sign then if o.has 's' then none else some line
              else some (glue.intercalate (pick found (o.has 'C') (Text.pieces (· == sign) line)))))

/-- The signs between columns, over and over. -/
def signAt (signs : List Char) (column : Nat) : List Char :=
  match signs[column % max signs.length 1]? with
  | some '\x00' => []
  | some sign => [sign]
  | none => []

/-- Columns with signs between them. -/
def joined (signs : List Char) (columns : List (List Char)) : List Char :=
  (columns.zipIdx.flatMap fun (column, n) => if n = 0 then column else signAt signs (n - 1) ++ column)

/-- The signs that a text spells. -/
def signsOf : List Char → List Char
  | '\\' :: 'n' :: rest => '\n' :: signsOf rest
  | '\\' :: 't' :: rest => '\t' :: signsOf rest
  | '\\' :: '0' :: rest => '\x00' :: signsOf rest
  | '\\' :: c :: rest => c :: signsOf rest
  | c :: rest => c :: signsOf rest
  | [] => []

def paste (c : Call) : Done :=
  c.with "paste" 1 "s" "d" [("serial", 's'), ("delimiters", 'd')] fun o =>
    let signs := signsOf ((o.value? 'd').getD ['\t'])
    let operands := if o.operands.isEmpty then [hyphen] else o.operands
    -- Columns that are the input take its lines in turn.
    let shares := (operands.filter (· == hyphen)).length
    let dealt (share : Nat) : List (List Char) :=
      (((rows c.input).1.zipIdx).filter fun e => e.2 % shares == share).map (·.1)
    let (texts, _, d) := operands.foldl (fun (texts, share, d) p =>
      if p = hyphen then
        let lines := if o.has 's' then if share = 0 then (rows c.input).1 else [] else dealt share
        (texts ++ [lines], share + 1, { d with input := [] })
      else
        match (d.disk.read (pathOf p)).map charsOf with
        | .ok s => (texts ++ [(rows s).1], share, d)
        | .error fault => (texts, share, d.complain 1 (fileComplaint "paste" p fault)))
      (([], 0, c.done 0) : List (List (List Char)) × Nat × Done)
    if d.status != 0 then d
    else if o.has 's' then d.write (ofRows (texts.map (joined signs)))
    else
      let height := (texts.map List.length).foldl max 0
      d.write (ofRows ((List.range height).map fun i => joined signs (texts.map fun lines => lines.getD i [])))

/-! ## Lines -/

/-- Lines in a row that are the same, as one with their number. -/
def runs (same : List Char → List Char → Bool) (lines : List (List Char)) : List (List Char × Nat) :=
  lines.foldr (fun line found =>
    match found with
    | (next, n) :: more => if same line next then (line, n + 1) :: more else (line, 1) :: found
    | [] => [(line, 1)]) []

/-- A line without so many fields at its front. -/
def withoutFields : Nat → List Char → List Char
  | 0, line => line
  | n + 1, line =>
    let blank (c : Char) : Bool := c == ' ' || c == '\t'
    withoutFields n ((line.dropWhile blank).dropWhile fun c => !blank c)

def uniq (c : Call) : Done :=
  c.with "uniq" 1 "cdiuDz" "fsw" [("count", 'c'), ("repeated", 'd'), ("unique", 'u')] fun o =>
    let (found, input) := c.held (o.operands.headD hyphen)
    match found with
    | .error fault => (c.done 1).complain 1 (fileComplaint "uniq" (o.operands.headD hyphen) fault)
    | .ok s =>
      let number (letter : Char) : Nat := ((o.value? letter).bind natural?).getD 0
      let seen (line : List Char) : List Char :=
        let line := (withoutFields (number 'f') line).drop (number 's')
        let line := if (o.value? 'w').isSome then line.take (number 'w') else line
        if o.has 'i' then line.map Char.toLower else line
      let same (a b : List Char) : Bool := seen a == seen b
      let kept := (runs same (rows s).1).filter fun (_, n) =>
        (!o.has 'd' || 1 < n) && (!o.has 'u' || n == 1)
      let out := ofRows (kept.map fun (line, n) =>
        if o.has 'c' then
          let digits := shown n
          List.replicate (7 - digits.length) ' ' ++ digits ++ ' ' :: line
        else line)
      match o.operands with
      | [_, target] =>
        match c.disk.write (pathOf target) (bytesOf out) with
        | .ok disk => { c.done 0 with disk, input }
        | .error fault => (c.done 1).complain 1 (fileComplaint "uniq" target fault)
      | _ => { c.wrote out with input }

def rev (c : Call) : Done :=
  c.eachFile 1 (fun p fault => "rev: cannot open " ++ told p ++ ": " ++ fault.text) c.args fun d _ s =>
    let (lines, ended) := rows s
    d.write (ofRowsEnded (lines.map List.reverse) ended)

def tac (c : Call) : Done :=
  c.with "tac" 1 "br" "s" [] fun o =>
    c.eachFile 1 (fun p fault => "tac: failed to open " ++ quoted p ++ " for reading: " ++ fault.text)
      o.operands fun d _ s =>
        let (lines, ended) := rows s
        match lines.reverse with
        | [] => d
        | last :: more =>
          if ended then d.write (ofRows (last :: more)) else d.write (last ++ ofRows more)

def nl (c : Call) : Done :=
  c.with "nl" 1 "p" "bdfhilnsvw" [] fun o =>
    let (text, d) := c.whole 1 (fileComplaint "nl") o.operands
    let every := o.value? 'b' == some ['a']
    let (_, lines) := (rows text).1.foldl (fun (n, found) (line : List Char) =>
      if line.isEmpty && !every then (n, found ++ [List.replicate 7 ' '])
      else
        let digits := shown n
        (n + 1, found ++ [List.replicate (6 - digits.length) ' ' ++ digits ++ '\t' :: line])) (1, [])
    d.write (ofRows lines)

/-- Lines cut so that none is longer than a width. Every unit of fuel pays for a piece. -/
def folded (width : Nat) : Nat → List Char → List (List Char)
  | 0, line => [line]
  | fuel + 1, line =>
    if line.length ≤ width then [line] else line.take width :: folded width fuel (line.drop width)

def fold (c : Call) : Done :=
  c.with "fold" 1 "bs" "w" [] fun o =>
    let width := max 1 (((o.value? 'w').bind natural?).getD 80)
    c.eachFile 1 (fileComplaint "fold") o.operands fun d _ s =>
      let (lines, ended) := rows s
      d.write (ofRowsEnded (lines.flatMap fun line => folded width line.length line) ended)

/-! ## Columns -/

/-- The lines of two texts side by side: those of the first alone, of the second alone, and of both. Every
    unit of fuel pays for a line. -/
def sideBySide : Nat → List (List Char) → List (List Char) → List (Nat × List Char)
  | 0, _, _ => []
  | _ + 1, [], right => right.map (1, ·)
  | _ + 1, left, [] => left.map (0, ·)
  | fuel + 1, a :: left, b :: right =>
    if a = b then (2, a) :: sideBySide fuel left right
    else if a < b then (0, a) :: sideBySide fuel left (b :: right)
    else (1, b) :: sideBySide fuel (a :: left) right

def comm (c : Call) : Done :=
  c.with "comm" 1 "123iz" "" [] fun o =>
    match o.operands with
    | [] => c.missing "comm" "missing operand" 1
    | [path] => c.missing "comm" ("missing operand after " ++ quoted path) 1
    | _ :: _ :: path :: _ => c.missing "comm" ("extra operand " ++ quoted path) 1
    | [left, right] =>
      let (a, input) := c.held left
      match a, ({ c with input }.held right).1 with
      | .error fault, _ => (c.done 1).complain 1 (fileComplaint "comm" left fault)
      | _, .error fault => (c.done 1).complain 1 (fileComplaint "comm" right fault)
      | .ok a, .ok b =>
        let a := (rows a).1
        let b := (rows b).1
        let hides (column : Nat) : Bool := o.has (['1', '2', '3'].getD column '1')
        let found := (sideBySide (a.length + b.length + 1) a b).filter fun e => !hides e.1
        let lead (column : Nat) : List Char :=
          List.replicate ((List.range column).filter (!hides ·)).length '\t'
        c.wrote (found.flatMap fun (column, line) => lead column ++ line ++ ['\n'])

/-- A text with blanks in place of tabs; `column` is where it goes on. -/
def untabbed (width : Nat) : (column : Nat) → List Char → List Char
  | _, [] => []
  | column, c :: rest =>
    if c = '\t' then
      let gap := width - column % width
      List.replicate gap ' ' ++ untabbed width (column + gap) rest
    else c :: untabbed width (if c = '\n' then 0 else if c = '\x08' then column - 1 else column + 1) rest

def expand (c : Call) : Done :=
  c.with "expand" 1 "i" "t" [("tabs", 't')] fun o =>
    let (text, d) := c.whole 1 (fileComplaint "expand") o.operands
    let width := ((o.value? 't').bind natural?).getD 8
    d.write (untabbed (max width 1) 0 text)

/-! ## Numbers -/

/-- A number with so many digits behind the point, as a whole number of its last places. -/
structure Decimal where
  scaled : Int
  places : Nat

namespace Decimal

/-- The number that a text spells. -/
def ofText? (s : List Char) : Option Decimal :=
  let (negative, body) := match s with
    | '-' :: rest => (true, rest)
    | '+' :: rest => (false, rest)
    | _ => (false, s)
  let whole := body.takeWhile Char.isDigit
  let rest := body.drop whole.length
  let (fraction, after) := match rest with
    | '.' :: more => (more.takeWhile Char.isDigit, more.dropWhile Char.isDigit)
    | _ => ([], rest)
  if (whole ++ fraction).isEmpty || !after.isEmpty then none
  else
    let n : Int := (Sum.digits 10 0 (whole ++ fraction)).1
    some ⟨if negative then -n else n, fraction.length⟩

/-- The number in units of another last place. -/
def unitsAt (places : Nat) (d : Decimal) : Int := d.scaled * 10 ^ (places - d.places)

/-- Units of a last place, written. -/
def text (places : Nat) (units : Int) : List Char :=
  let digits := shown units.natAbs
  let digits := List.replicate (places + 1 - digits.length) '0' ++ digits
  let whole := digits.take (digits.length - places)
  let body := if places = 0 then whole else whole ++ '.' :: digits.drop whole.length
  if units < 0 then '-' :: body else body

end Decimal

/-- Integers from one to another in steps. -/
def steps (first step last : Int) : List Int :=
  if step = 0 then []
  else
    let n := (last - first) / step
    if 0 < step ∧ last < first ∨ step < 0 ∧ first < last then []
    else (List.range (n.toNat + 1)).map fun (i : Nat) => first + step * (i : Int)

/-- Words of which those that begin numbers below zero are no options. -/
def guarded : List (List Char) → List (List Char)
  | [] => []
  | word :: more =>
    match word with
    | '-' :: c :: _ => if c.isDigit || c == '.' then "--".toList :: word :: more else word :: guarded more
    | _ => word :: guarded more

def seq (c : Call) : Done :=
  { c with args := guarded c.args }.with "seq" 1 "w" "sf" [("separator", 's'), ("equal-width", 'w'),
      ("format", 'f')] fun o =>
    let glue := (o.value? 's').getD ['\n']
    match o.operands.mapM Decimal.ofText? with
    | none =>
      match o.operands.find? fun p => (Decimal.ofText? p).isNone with
      | some p => c.missing "seq" ("invalid floating point argument: " ++ quoted p) 1
      | none => c.done 1
    | some numbers =>
      let write (first step last : Decimal) : Done :=
        let places := max first.places step.places
        let most := max places last.places
        -- The last number may have more places than are written.
        let found := (steps (first.unitsAt most) (step.unitsAt most) (last.unitsAt most)).map fun n =>
          n / 10 ^ (most - places)
        let texts := found.map (Decimal.text places)
        let width := (texts.map List.length).foldl max 0
        let texts := if o.has 'w' then
            texts.map fun (s : List Char) =>
              match s with
              | '-' :: rest => '-' :: List.replicate (width - s.length) '0' ++ rest
              | _ => List.replicate (width - s.length) '0' ++ s
          else texts
        let texts := match o.value? 'f' with
          | some format => texts.map fun s => (Printed.ofFormat format [s]).out
          | none => texts
        if step.scaled = 0 then c.missing "seq" "invalid Zero increment value: '0'" 1
        else c.wrote (if texts.isEmpty then [] else glue.intercalate texts ++ ['\n'])
      let one : Decimal := ⟨1, 0⟩
      match numbers with
      | [] => c.missing "seq" "missing operand" 1
      | [last] => write one one last
      | [first, last] => write first one last
      | [first, step, last] => write first step last
      | _ => c.missing "seq" ("extra operand " ++ quoted (o.operands.getD 3 [])) 1

/-! ## Small expressions -/

/-- What is wrong with a small expression. -/
abbrev Faulty := Except String

/-- An operand counts as true. -/
def isTrue (s : List Char) : Bool := !s.isEmpty && Sum.integer? s != some 0

/-- The text that a comparison or a calculation gives. -/
def ofComparison (b : Bool) : List Char := if b then ['1'] else ['0']

/-- A text matched by a basic expression from its start: the text of its first group, or how long the
    match is. -/
def matched (s expression : List Char) : Faulty (List Char) :=
  match Regular.read false expression with
  | .error fault => .error fault.message
  | .ok e =>
    let text := s.toArray
    let found := (Regular.ways false text e ⟨0, []⟩).foldl (fun (best : Option Regular.Reached) w =>
      match best with
      | none => some w
      | some b => if b.place < w.place then some w else some b) none
    let grouped := "\\(".toList
    let hasGroup := (Text.cutAt? grouped expression).isSome
    match found with
    | none => .ok (if hasGroup then [] else ['0'])
    | some w =>
      if hasGroup then
        match w.groups.find? (·.1 == 1) with
        | some (_, low, high) => .ok (Regular.between text low high)
        | none => .ok []
      else .ok (shown w.place)

/-- The ranks of operators between two operands, the loosest first. -/
def ranks : List (List String) :=
  [["|"], ["&"], ["<", "<=", "=", "==", "!=", ">=", ">"], ["+", "-"], ["*", "/", "%"], [":"]]

/-- What an operator makes of two operands. -/
def combined (o : String) (a b : List Char) : Faulty (List Char) :=
  let numbers (act : Int → Int → Faulty Int) : Faulty (List Char) :=
    match Sum.integer? a, Sum.integer? b with
    | some x, some y => (act x y).map fun n => (toString n).toList
    | _, _ => .error "non-integer argument"
  let compare (ofInts : Int → Int → Bool) (ofTexts : List Char → List Char → Bool) : Faulty (List Char) :=
    .ok (ofComparison (match Sum.integer? a, Sum.integer? b with
      | some x, some y => ofInts x y
      | _, _ => ofTexts a b))
  match o with
  | "|" => .ok (if isTrue a then a else if isTrue b then b else ['0'])
  | "&" => .ok (if isTrue a && isTrue b then a else ['0'])
  | "<" => compare (fun x y => decide (x < y)) fun x y => decide (x < y)
  | "<=" => compare (fun x y => decide (x ≤ y)) fun x y => decide (x ≤ y)
  | "=" => compare (· == ·) (· == ·)
  | "==" => compare (· == ·) (· == ·)
  | "!=" => compare (· != ·) (· != ·)
  | ">=" => compare (fun x y => decide (x ≥ y)) fun x y => decide (y ≤ x)
  | ">" => compare (fun x y => decide (x > y)) fun x y => decide (y < x)
  | "+" => numbers fun x y => .ok (x + y)
  | "-" => numbers fun x y => .ok (x - y)
  | "*" => numbers fun x y => .ok (x * y)
  | "/" => numbers fun x y => if y = 0 then .error "division by zero" else .ok (x.tdiv y)
  | "%" => numbers fun x y => if y = 0 then .error "division by zero" else .ok (x.tmod y)
  | _ => matched a b

/-- The value of words up to the first that does not belong to it, by operators of the given ranks.
    `before` is the word in front. Every unit of fuel pays for a step. -/
def value : Nat → List (List String) → List Char → List (List Char) → Faulty (List Char × List (List Char))
  | 0, _, _, _ => .error "syntax error"
  | fuel + 1, ranks, before, words =>
    let missing : Faulty (List Char × List (List Char)) :=
      .error ("syntax error: missing argument after " ++ quoted before)
    match ranks with
    | rank :: tighter => do
      let (a, rest) ← value fuel tighter before words
      -- An operator is followed by an operand of a tighter rank, and the next operator is tried again.
      let rec_ := (List.range words.length).foldl (fun (s : Faulty (List Char × List (List Char))) _ => do
        let (a, rest) ← s
        match rest with
        | o :: more =>
          if rank.contains (String.ofList o) then
            let (b, rest) ← value fuel tighter o more
            return (← combined (String.ofList o) a b, rest)
          else return (a, rest)
        | [] => return (a, rest)) (.ok (a, rest))
      rec_
    | [] =>
      match words with
      | [] => missing
      | ['('] :: more => do
        let (a, rest) ← value fuel ranks_ ['('] more
        match rest with
        | [')'] :: rest => return (a, rest)
        | [] => throw ("syntax error: expecting ')' after " ++ quoted (more.getLastD []))
        | w :: _ => throw ("syntax error: expecting ')' instead of " ++ quoted w)
      | [')'] :: _ => .error "syntax error: unexpected ')'"
      | w :: more =>
        match String.ofList w, more with
        | "length", s :: rest => .ok (shown s.length, rest)
        | "substr", s :: low :: count :: rest =>
          match Sum.integer? low, Sum.integer? count with
          | some low, some count =>
            .ok (if low < 1 ∨ count < 1 then [] else (s.drop (low.toNat - 1)).take count.toNat, rest)
          | _, _ => .ok ([], rest)
        | "index", s :: signs :: rest =>
          .ok (shown (match s.findIdx? signs.contains with
            | some i => i + 1
            | none => 0), rest)
        | "match", s :: e :: rest => (matched s e).map fun m => (m, rest)
        | _, _ => .ok (w, more)
where
  /-- All ranks, for what stands between parentheses. -/
  ranks_ : List (List String) := ranks

def expr (c : Call) : Done :=
  let fail (what : String) : Done := (c.done 2).complain 2 ("expr: " ++ what)
  let args := match c.args with
    | ['-', '-'] :: more => more
    | args => args
  if args.isEmpty then c.missing "expr" "missing operand" 2
  else
    match value (8 * args.length + 8) ranks [] args with
    | .error what => fail what
    | .ok (s, []) => { c.wrote (s ++ ['\n']) with status := if isTrue s then 0 else 1 }
    | .ok (_, w :: _) => fail ("syntax error: unexpected argument " ++ quoted w)

end DiagramStudio.Script.TextTool
