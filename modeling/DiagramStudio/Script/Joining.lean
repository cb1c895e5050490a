import DiagramStudio.Script.TextTool

/-!
Lines of two files that have a field in common, put together.
-/

namespace DiagramStudio.Script.Joining

/-! ## Fields -/

/-- Where fields end. -/
inductive Cutting where
  | blanks
  | at_ (sign : Char)
  /-- A line is one field. -/
  | nowhere

def isBlank (c : Char) : Bool := c == ' ' || c == '\t' || c == '\n'

/-- The fields of a line between blanks; blanks at its end stand in front of one more. Every unit of fuel pays
    for a field. -/
def blankFields : Nat → List Char → List (List Char)
  | 0, _ => []
  | fuel + 1, s =>
    let field := s.takeWhile (!isBlank ·)
    match s.drop field.length with
    | [] => [field]
    | rest => field :: blankFields fuel (rest.dropWhile isBlank)

def fields (cutting : Cutting) (s : List Char) : List (List Char) :=
  match cutting with
  | .nowhere => [s]
  | .at_ sign => Text.pieces (· == sign) s
  | .blanks =>
    let s := s.dropWhile isBlank
    if s.isEmpty then [] else blankFields (s.length + 1) s

/-! ## Plans -/

/-- What is shown of a pair of lines: the field that they have in common, or one of them. -/
inductive Column where
  | common
  | field (second : Bool) (number : Nat)

/-- Whether it is looked after that the files are in order. -/
inductive Care where
  | usual
  | strict
  | none_
deriving DecidableEq

structure Plan where
  cutting : Cutting
  /-- The numbers of the fields that are compared, counted from zero. -/
  first : Nat
  second : Nat
  folds : Bool
  /-- Lines that have no counterpart are shown as well. -/
  lonelyFirst : Bool
  lonelySecond : Bool
  pairs : Bool
  columns : Option (List Column)
  filler : List Char
  care : Care

namespace Plan

def mark (p : Plan) : Char :=
  match p.cutting with
  | .at_ sign => sign
  | _ => ' '

/-- The field of a line that is compared. -/
def key (p : Plan) (isSecond : Bool) (line : List Char) : List Char :=
  let field := (fields p.cutting line).getD (if isSecond then p.second else p.first) []
  if p.folds then field.map Char.toUpper else field

def filled (p : Plan) (field? : Option (List Char)) : List Char :=
  let field := field?.getD []
  if field.isEmpty then p.filler else field

/-- The row of a pair of lines, of which one may be missing. -/
def row (p : Plan) (left right : Option (List Char)) : List Char :=
  let own (line? : Option (List Char)) : List (List Char) := ((line?.map (fields p.cutting))).getD []
  let (a, b) := (own left, own right)
  let common := if left.isSome then a[p.first]? else b[p.second]?
  let cells := match p.columns with
    | some columns => columns.map fun column =>
      match column with
      | .common => p.filled common
      | .field false n => p.filled a[n]?
      | .field true n => p.filled b[n]?
    | none =>
      let others (all : List (List Char)) (but : Nat) : List (List Char) :=
        (all.zipIdx.filter fun e => e.2 != but).map fun e => p.filled (some e.1)
      p.filled common :: others a p.first ++ others b p.second
  [p.mark].intercalate cells ++ ['\n']

end Plan

/-! ## Joining -/

/-- A file while it is read. -/
structure Side where
  name : List Char
  lines : Array (List Char)
  second : Bool
  warned : Bool

/-- What has been written, whether a line without counterpart was met, and both files. -/
structure Work where
  done : Done
  lonely : Bool
  left : Side
  right : Side
  /-- Nothing is done any more. -/
  stopped : Bool

namespace Work

def side (w : Work) (second : Bool) : Side := if second then w.right else w.left

/-- A line is read: it must not belong in front of the one before. -/
def read (p : Plan) (second : Bool) (i : Nat) (w : Work) : Work :=
  let s := w.side second
  let looks := p.care = .strict || (p.care = .usual && w.lonely)
  if i = 0 || s.lines.size ≤ i || s.warned || !looks then w
  else
    let line := s.lines.getD i []
    if compare (p.key second line) (p.key second (s.lines.getD (i - 1) [])) != .lt then w
    else
      let d := w.done.complain (if p.care = .strict then 1 else w.done.status)
        ("join: " ++ told s.name ++ ":" ++ toString (i + 1) ++ ": is not sorted: " ++ told line)
      let s := { s with warned := true }
      let w := if second then { w with right := s } else { w with left := s }
      { w with done := d, stopped := p.care = .strict }

def readAll (p : Plan) (second : Bool) (low high : Nat) (w : Work) : Work :=
  (List.range (high - low)).foldl (fun w i => read p second (low + i) w) w

def write (w : Work) (s : List Char) : Work := { w with done := w.done.write s }

end Work

/-- How many lines from a place on have a key. -/
def alike (p : Plan) (s : Side) (key : List Char) (low : Nat) : Nat :=
  ((s.lines.toList.drop low).takeWhile fun line => p.key s.second line == key).length

/-- The lines that one file has left. -/
def tail (p : Plan) (second : Bool) (low : Nat) (othersLeft : Bool) (w : Work) : Work :=
  let s := w.side second
  let shows := if second then p.lonelySecond else p.lonelyFirst
  if s.lines.size ≤ low || w.stopped then w
  else
    let row (line : List Char) : List Char := if second then p.row none (some line) else p.row (some line) none
    let show_ (w : Work) (i : Nat) : Work := if shows then w.write (row (s.lines.getD i [])) else w
    let w := show_ w low
    let w := { w with lonely := w.lonely || othersLeft }
    (List.range (s.lines.size - low - 1)).foldl (fun (w : Work) d =>
      if w.stopped then w else show_ (w.read p second (low + 1 + d)) (low + 1 + d)) w

/-- Both files from two lines on. Every unit of fuel pays for a line. -/
def join_ (p : Plan) : Nat → (i j : Nat) → Work → Work
  | 0, _, _, w => w
  | fuel + 1, i, j, w =>
    let (a, b) := (w.left.lines, w.right.lines)
    if w.stopped then w
    else if i < a.size && j < b.size then
      let (one, other) := (a.getD i [], b.getD j [])
      let (k, l) := (p.key false one, p.key true other)
      match compare k l with
      | .lt =>
        let w := if p.lonelyFirst then w.write (p.row (some one) none) else w
        join_ p fuel (i + 1) j { w.read p false (i + 1) with lonely := true }
      | .gt =>
        let w := if p.lonelySecond then w.write (p.row none (some other)) else w
        join_ p fuel i (j + 1) { w.read p true (j + 1) with lonely := true }
      | .eq =>
        let m := alike p w.left l i
        let n := alike p w.right k j
        let w := (w.readAll p false (i + 1) (i + m + 1)).readAll p true (j + 1) (j + n + 1)
        let rows := (List.range m).flatMap fun x => (List.range n).flatMap fun y =>
          p.row (some (a.getD (i + x) [])) (some (b.getD (j + y) []))
        join_ p fuel (i + m) (j + n) (if p.pairs && !w.stopped then w.write rows else w)
    else
      let w := tail p false i (j < b.size) w
      tail p true j (i < a.size) w

/-! ## The program -/

/-- The number of a field, counted from zero. -/
def fieldNumber (s : List Char) : Except String Nat :=
  match TextTool.natural? s with
  | some (n + 1) => .ok n
  | _ => .error ("invalid field number: " ++ quoted s)

/-- What is to be shown, as it is spelled. -/
def column (s : List Char) : Except String Column :=
  match s with
  | ['0'] => .ok .common
  | '1' :: '.' :: n => (fieldNumber n).map (Column.field false)
  | '2' :: '.' :: n => (fieldNumber n).map (Column.field true)
  | _ => .error ("invalid file number in field spec: " ++ quoted s)

/-- The plan that options ask for. -/
def plan (o : Options) (firstLines : List Char × List Char) : Except String Plan := do
  let number (own : Char) : Except String Nat :=
    match o.value? own, o.value? 'j' with
    | some s, _ => fieldNumber s
    | none, some s => fieldNumber s
    | none, none => .ok 0
  let (first, second) := (← number '1', ← number '2')
  let sides (letter : Char) : List (List Char) := (o.given.filter (·.1 == [letter])).map (·.2)
  match (sides 'a' ++ sides 'v').find? fun s => s != ['1'] && s != ['2'] with
  | some s => throw ("invalid field number: " ++ quoted s)
  | none =>
    let cutting ← match o.value? 't' with
      | none => pure Cutting.blanks
      | some [] => pure .nowhere
      | some [c] => pure (.at_ c)
      | some ['\\', '0'] => pure (.at_ '\x00')
      | some s => throw ("multi-character tab " ++ quoted s)
    let all (second : Bool) (key : Nat) (line : List Char) : List Column :=
      ((List.range (fields cutting line).length).filter (· != key)).map (Column.field second)
    let columns ← match o.value? 'o' with
      | none => pure none
      | some spec =>
        if spec = "auto".toList then
          pure (some (.common :: all false first firstLines.1 ++ all true second firstLines.2))
        else
          (Text.words (fun c => c == ',' || c == ' ' || c == '\t') spec).mapM column |>.map some
    let care : Care := match (o.given.reverse.find? fun e => e.1 == ['c'] || e.1 == ['n']).map (·.1) with
      | some ['c'] => .strict
      | some ['n'] => .none_
      | _ => .usual
    let any (side : Char) : Bool := (sides 'a' ++ sides 'v').contains [side]
    return ⟨cutting, first, second, o.has 'i', any '1', any '2', !o.has 'v', columns, (o.value? 'e').getD [], care⟩

def longNames : Options.LongNames :=
  [("ignore-case", 'i'), ("check-order", 'c'), ("nocheck-order", 'n'), ("header", 'h'), ("zero-terminated", 'z')]

def join (c : Call) : Done :=
  c.with "join" 1 "ichnz" "12aejotv" longNames fun o =>
    let fail (what : String) : Done := (c.done 1).complain 1 ("join: " ++ what)
    match o.operands with
    | [] => c.missing "join" "missing operand" 1
    | [one] => c.missing "join" ("missing operand after " ++ quoted one) 1
    | _ :: _ :: extra :: _ => c.missing "join" ("extra operand " ++ quoted extra) 1
    | [left, right] =>
      if left = hyphen ∧ right = hyphen then fail "both files cannot be standard input"
      else
        let (a, input) := c.held left
        let (b, input) := { c with input }.held right
        match a, b with
        | .error fault, _ => (c.done 1).complain 1 (fileComplaint "join" left fault)
        | _, .error fault => (c.done 1).complain 1 (fileComplaint "join" right fault)
        | .ok a, .ok b =>
          let (a, b) := ((rows a).1, (rows b).1)
          match plan o (a.headD [], b.headD []) with
          | .error what => fail what
          | .ok p =>
            let (head, a, b) := match o.has 'h', a, b with
              | true, x :: a, y :: b => (p.row (some x) (some y), a, b)
              | _, a, b => ([], a, b)
            let start : Work :=
              ⟨{ c.done 0 with input, out := head }, false, ⟨left, a.toArray, false, false⟩, ⟨right, b.toArray, true, false⟩, false⟩
            let w := join_ p (a.length + b.length + 1) 0 0 start
            if !w.stopped && (w.left.warned || w.right.warned) then
              w.done.complain 1 "join: input is not in sorted order"
            else w.done

end DiagramStudio.Script.Joining
