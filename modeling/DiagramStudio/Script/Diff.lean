import DiagramStudio.Script.Difference
import DiagramStudio.Script.Regular

/-!
The program that shows what differs between files or directories.
-/

namespace DiagramStudio.Script.Diff

open Difference

/-! ## Texts -/

/-- A file that is compared with another one. -/
structure Source where
  name : List Char
  text : List Char
  /-- When it was changed, in nanoseconds. -/
  time : Int
  /-- What stands for its name and time in front of the changes. -/
  label? : Option (List Char)

/-- The lines of a file, and whether the last one is ended. -/
structure Sheet where
  lines : Array (List Char)
  ended : Bool

def Sheet.ofText (s : List Char) : Sheet :=
  let (lines, ended) := rows s
  ⟨lines.toArray, ended⟩

def Sheet.line (s : Sheet) (i : Nat) : List Char := s.lines.getD i []

/-- The line is the last one, and nothing ends it. -/
def Sheet.isOpen (s : Sheet) (i : Nat) : Bool := !s.ended && i + 1 == s.lines.size

/-- A line with a sign in front, and what is said of it if nothing ends it. -/
def Sheet.shown (s : Sheet) (sign : List Char) (i : Nat) : List Char :=
  sign ++ s.line i ++ '\n' :: (if s.isOpen i then "\\ No newline at end of file\n".toList else [])

def Sheet.part (s : Sheet) (sign : List Char) (low high : Nat) : List Char :=
  (List.range (high - low)).flatMap fun i => s.shown sign (low + i)

/-! ## How lines are told apart -/

def isBlank (c : Char) : Bool := c == ' ' || ('\t' ≤ c && c ≤ '\r')

/-- Runs of blanks as one blank. -/
def narrowed : List Char → List Char
  | [] => []
  | c :: rest =>
    match narrowed rest with
    | ' ' :: more => if isBlank c then ' ' :: more else c :: ' ' :: more
    | more => if isBlank c then ' ' :: more else c :: more

def withoutEnd (s : List Char) : List Char := (s.reverse.dropWhile isBlank).reverse

/-- Tabs as blanks. -/
def untabbed : (column : Nat) → List Char → List Char
  | _, [] => []
  | column, '\t' :: rest =>
    let n := 8 - column % 8
    List.replicate n ' ' ++ untabbed (column + n) rest
  | column, c :: rest => c :: untabbed (column + 1) rest

/-- What counts of a line. -/
def keyOf (o : Options) (s : List Char) : List Char :=
  let s := if o.has 'i' then s.map Char.toLower else s
  if o.has 'w' then s.filter (!isBlank ·)
  else if o.has 'b' then withoutEnd (narrowed s)
  else
    let s := if o.has 'E' then untabbed 0 s else s
    if o.has 'Z' then withoutEnd s else s

/-- The lines differ in more than blanks, so that one which nothing ends is another one. -/
def countsEnds (o : Options) : Bool := !o.has 'w' && !o.has 'b' && !o.has 'Z' && !o.has 'e' && !o.has 'f'

/-- Numbers for the lines of two texts, the same for lines that are not told apart. -/
def numbers (o : Options) (left right : Sheet) : Array Nat × Array Nat :=
  let keys (s : Sheet) : List (List Char) :=
    s.lines.toList.zipIdx.map fun (line, i) =>
      let key := keyOf o line
      if countsEnds o && s.isOpen i then '\n' :: key else key
  let number (known : List (List Char × Nat) × Array Nat) (key : List Char) : List (List Char × Nat) × Array Nat :=
    match entryFor? key known.1 with
    | some n => (known.1, known.2.push n)
    | none => ((key, known.1.length + 1) :: known.1, known.2.push (known.1.length + 1))
  let (known, a) := (keys left).foldl number ([], #[])
  let (_, b) := (keys right).foldl number (known, #[])
  (a, b)

/-- Only lines are changed that do not count. -/
def isIdle (o : Options) (skips : List Regular) (left right : Sheet) (h : Hunk) : Bool :=
  let lines := (List.range (h.leftEnd - h.left)).map (fun i => left.line (h.left + i))
    ++ (List.range (h.rightEnd - h.right)).map (fun i => right.line (h.right + i))
  let empty (s : List Char) : Bool := o.has 'B' && (keyOf o s).isEmpty
  let skipped (s : List Char) : Bool := skips.any fun e => (Regular.find? false e s.toArray 0).isSome
  lines.all fun s => empty s || skipped s

/-! ## Forms -/

/-- How changes are shown. -/
inductive Form where
  | normal
  | unified (near : Nat)
  | context (near : Nat)
  | commands
  | forwardCommands
  | counts
  | beside
deriving DecidableEq

/-- The numbers of lines, of which there may be none behind the first. -/
def span (sign : Char) (low high : Nat) : List Char :=
  if low + 1 < high then shown (low + 1) ++ sign :: shown high else shown high

/-- What is done to the lines of a change. -/
def letter (h : Hunk) : Char :=
  if h.left = h.leftEnd then 'a' else if h.right = h.rightEnd then 'd' else 'c'

/-- The space behind a sign: one may be asked for that keeps tabs where they were. -/
def lead (o : Options) (sign : Char) (wide : Bool) : List Char :=
  if o.has 'T' then (if sign = ' ' ∧ !wide then ['\t'] else [sign, '\t']) else if wide then [sign, ' '] else [sign]

def normalText (o : Options) (left right : Sheet) (hunks : List Hunk) : List Char :=
  hunks.flatMap fun h =>
    span ',' h.left h.leftEnd ++ letter h :: span ',' h.right h.rightEnd ++ '\n'
      :: left.part (lead o '<' true) h.left h.leftEnd
      ++ (if letter h = 'c' then "---\n".toList else [])
      ++ right.part (lead o '>' true) h.right h.rightEnd

/-- Changes in groups: between two of a group there are not more lines than are shown around changes. -/
def grouped (near : Nat) : List Hunk → List (List Hunk)
  | [] => []
  | h :: more =>
    match grouped near more with
    | (next :: rest) :: others =>
      if next.left - h.leftEnd ≤ 2 * near then (h :: next :: rest) :: others else [h] :: (next :: rest) :: others
    | others => [h] :: others

/-- The lines that a group of changes is shown with. -/
def frame (near : Nat) (left right : Sheet) (group : List Hunk) : Hunk :=
  match group.head?, group.getLast? with
  | some first, some last =>
    let before := min near (min first.left first.right)
    let leftMore := min near (left.lines.size - last.leftEnd)
    let rightMore := min near (right.lines.size - last.rightEnd)
    ⟨first.left - before, last.leftEnd + leftMore, first.right - before, last.rightEnd + rightMore⟩
  | _, _ => ⟨0, 0, 0, 0⟩

/-- The last line in front of a place that begins like the head of a function. -/
def heading (o : Options) (s : Sheet) (place : Nat) : List Char :=
  if !o.has 'p' then []
  else
    let begins (i : Nat) : Bool := ((s.line i).head?.map fun c => c.isAlpha || c == '_' || c == '$').getD false
    match (List.range place).reverse.find? begins with
    | some i => ' ' :: withoutEnd ((s.line i).take 40)
    | none => []

def unifiedText (o : Options) (near : Nat) (left right : Sheet) (group : List Hunk) : List Char :=
  let f := frame near left right group
  let extent (low high : Nat) : List Char :=
    if high = low then shown low ++ [',', '0']
    else if high = low + 1 then shown high
    else shown (low + 1) ++ ',' :: shown (high - low)
  let body := group.foldl (fun (acc : List Char × Nat) h =>
    (acc.1 ++ left.part (lead o ' ' false) acc.2 h.left ++ left.part (lead o '-' false) h.left h.leftEnd
      ++ right.part (lead o '+' false) h.right h.rightEnd, h.leftEnd)) ([], f.left)
  "@@ -".toList ++ extent f.left f.leftEnd ++ " +".toList ++ extent f.right f.rightEnd ++ " @@".toList
    ++ heading o left f.left ++ '\n' :: body.1 ++ left.part (lead o ' ' false) body.2 f.leftEnd

def contextText (o : Options) (near : Nat) (left right : Sheet) (group : List Hunk) : List Char :=
  let f := frame near left right group
  let extent (low high : Nat) : List Char := if high ≤ low + 1 then shown high else shown (low + 1) ++ ',' :: shown high
  let sign (h : Hunk) (alone : Char) : List Char := lead o (if letter h = 'c' then '!' else alone) true
  let side (s : Sheet) (low high : Nat) (of_ : Hunk → Nat × Nat) (alone : Char) : List Char :=
    let body := group.foldl (fun (acc : List Char × Nat) h =>
      (acc.1 ++ s.part (lead o ' ' true) acc.2 (of_ h).1 ++ s.part (sign h alone) (of_ h).1 (of_ h).2, (of_ h).2)) ([], low)
    body.1 ++ s.part (lead o ' ' true) body.2 high
  let removes := group.any fun h => h.left < h.leftEnd
  let adds := group.any fun h => h.right < h.rightEnd
  "***************".toList ++ heading o left f.left ++ "\n*** ".toList ++ extent f.left f.leftEnd ++ " ****\n".toList
    ++ (if removes then side left f.left f.leftEnd (fun h => (h.left, h.leftEnd)) '-' else [])
    ++ "--- ".toList ++ extent f.right f.rightEnd ++ " ----\n".toList
    ++ (if adds then side right f.right f.rightEnd (fun h => (h.right, h.rightEnd)) '+' else [])

/-- Lines as an editor reads them until there is only a point in one. -/
def typed (s : Sheet) (low high : Nat) : List Char :=
  ofRows ((List.range (high - low)).map fun i => s.line (low + i))

def commandText (right : Sheet) (hunks : List Hunk) : List Char :=
  hunks.reverse.flatMap fun h =>
    span ',' h.left h.leftEnd ++ letter h :: '\n'
      :: (if letter h = 'd' then [] else typed right h.right h.rightEnd ++ ".\n".toList)

def forwardText (right : Sheet) (hunks : List Hunk) : List Char :=
  hunks.flatMap fun h =>
    letter h :: span ' ' h.left h.leftEnd ++ '\n'
      :: (if letter h = 'd' then [] else typed right h.right h.rightEnd ++ ".\n".toList)

def countText (right : Sheet) (hunks : List Hunk) : List Char :=
  hunks.flatMap fun h =>
    let body := (List.range (h.rightEnd - h.right)).flatMap fun i =>
      right.line (h.right + i) ++ if right.isOpen (h.right + i) then [] else ['\n']
    (if h.left < h.leftEnd then 'd' :: shown (h.left + 1) ++ ' ' :: shown (h.leftEnd - h.left) ++ ['\n'] else [])
      ++ (if h.right < h.rightEnd then 'a' :: shown h.leftEnd ++ ' ' :: shown (h.rightEnd - h.right) ++ '\n' :: body else [])

/-! ## Side by side -/

/-- Tabs and blanks that lead from one column to another. Every unit of fuel pays for a sign. -/
def gap (plain : Bool) : Nat → Nat → Nat → List Char
  | 0, _, _ => []
  | fuel + 1, column, goal =>
    if goal ≤ column then []
    else
      let stop := column + (8 - column % 8)
      if !plain && stop ≤ goal then '\t' :: gap plain fuel stop goal else ' ' :: gap plain fuel (column + 1) goal

/-- As much of a line as fits in a width, and the column behind it. -/
def halfLine (start width : Nat) (s : List Char) : List Char × Nat :=
  let r := s.foldl (fun (acc : List Char × Nat × Nat) c =>
    let (out, inside, outside) := acc
    if c = '\t' then
      let next := inside + (8 - inside % 8)
      if outside = inside ∧ next < width then (out ++ gap false 8 (start + outside) (start + next), next, next)
      else (out, next, outside)
    else if c.toNat < 32 || 127 ≤ c.toNat then (if inside < width then out ++ [c] else out, inside, outside)
    else if inside < width then (out ++ [c], inside + 1, inside + 1)
    else (out, inside + 1, outside)) ([], 0, 0)
  (r.1, r.2.2)

/-- The columns in which lines stand side by side. -/
structure Columns where
  half : Nat
  second : Nat

def Columns.ofWidth (width : Nat) : Columns :=
  let off := (width + 8 + 3) / 16 * 8
  let half := min (off - 3) (width - off)
  ⟨half, if half = 0 then width else off⟩

/-- Lines of two texts beside each other. -/
def besideRow (o : Options) (k : Columns) (left right : Sheet) (sign : Char) (i? j? : Option Nat) : List Char :=
  let (first, column) := match i? with
    | some i => halfLine 0 k.half (left.line i)
    | none => ([], 0)
  let leftEnds := (i?.map fun i => !left.isOpen i).getD false
  let rightEnds := (j?.map fun j => !right.isOpen j).getD false
  let sign := if sign = '|' ∧ leftEnds ≠ rightEnds then (if leftEnds then '/' else '\\') else sign
  let plain := o.has 't'
  let (middle, column) :=
    if sign = ' ' then ([], column)
    else
      let goal := (k.half + k.second - 1) / 2
      (gap plain (goal + 1) column goal ++ [sign], max column goal + 1)
  let second := match j? with
    | some j =>
      let text := (halfLine k.second k.half (right.line j)).1
      gap plain (k.second + 1) column k.second ++ text
    | none => []
  first ++ middle ++ second ++ if leftEnds || rightEnds then ['\n'] else []

def besideText (o : Options) (width : Nat) (left right : Sheet) (hunks : List Hunk) : List Char :=
  let k := Columns.ofWidth width
  let row := besideRow o k left right
  let common (i j n : Nat) : List Char :=
    if o.has 'υ' then []
    else (List.range n).flatMap fun d =>
      if o.has 'l' then row '(' (some (i + d)) none else row ' ' (some (i + d)) (some (j + d))
  let (out, i, j) := hunks.foldl (fun (acc : List Char × Nat × Nat) h =>
    let (out, i, j) := acc
    let pairs := if letter h = 'c' then min (h.leftEnd - h.left) (h.rightEnd - h.right) else 0
    let both := (List.range pairs).flatMap fun d => row '|' (some (h.left + d)) (some (h.right + d))
    let added := (List.range (h.rightEnd - h.right - pairs)).flatMap fun d => row '>' none (some (h.right + pairs + d))
    let gone := (List.range (h.leftEnd - h.left - pairs)).flatMap fun d => row '<' (some (h.left + pairs + d)) none
    (out ++ common i j (h.left - i) ++ both ++ added ++ gone, h.leftEnd, h.rightEnd)) ([], 0, 0)
  out ++ common i j (left.lines.size - i)

/-! ## Two files -/

/-- What a comparison of two files is asked for. -/
structure Task where
  options : Options
  form : Form
  skips : List Regular
  width : Nat
  /-- Words that are shown in front of changes that are found in a directory. -/
  words : List (List Char)

/-- The lines in front of the changes of a file. -/
def header (form : Form) (left right : Source) : List Char :=
  let row (sign format : String) (s : Source) : List Char :=
    sign.toList ++ ' ' :: (s.label?.getD
      (s.name ++ '\t' :: Calendar.format s.time (format.length + 1) format.toList)) ++ ['\n']
  match form with
  | .unified _ =>
    let format := "%Y-%m-%d %H:%M:%S.%N %z"
    row "---" format left ++ row "+++" format right
  | .context _ =>
    let format := "%a %b %e %H:%M:%S %Y"
    row "***" format left ++ row "---" format right
  | _ => []

/-- How many lines around changes are looked at. -/
def Form.near : Form → Nat
  | .unified near | .context near => near
  | _ => 0

/-- How many lines at the front and at the end of two texts are the same, and too far from changes to be looked
    at. -/
def ends (o : Options) (near : Nat) (left right : Sheet) : Nat × Nat :=
  let common (a b : List (List Char)) : Nat := ((a.zip b).takeWhile fun (x, y) => x == y).length
  let (a, b) := (left.lines.toList, right.lines.toList)
  let closed (s : Sheet) (n : Nat) : Nat := if s.isOpen (n - 1) then n - 1 else n
  let front := min (closed left (common a b)) (closed right (common a b)) - near
  let back := if countsEnds o && left.ended != right.ended then 0
    else common (a.drop front).reverse (b.drop front).reverse - near
  (front, back)

/-- What differs between two files, in the form that is asked for. -/
def changes (t : Task) (left right : Source) : List Char × Bool :=
  let (a, b) := (Sheet.ofText left.text, Sheet.ofText right.text)
  let (m, n) := numbers t.options a b
  let (front, back) := ends t.options t.form.near a b
  let all := innerHunks front back m n
  let counted := all.filter fun h => !isIdle t.options t.skips a b h
  let groups (near : Nat) : List (List Hunk) :=
    (grouped near all).filter fun g => g.any fun h => !isIdle t.options t.skips a b h
  let body := match t.form with
    | .normal => normalText t.options a b counted
    | .unified near => (groups near).flatMap (unifiedText t.options near a b)
    | .context near => (groups near).flatMap (contextText t.options near a b)
    | .commands => commandText b counted
    | .forwardCommands => forwardText b counted
    | .counts => countText b counted
    | .beside => besideText t.options t.width a b all
  (if counted.isEmpty ∧ t.form ≠ .beside then [] else header t.form left right ++ body, !counted.isEmpty)

/-- What is said of two files, and what comes of it. -/
def files (t : Task) (within : Bool) (left right : Source) (d : Done) : Done :=
  let o := t.options
  let names := told left.name ++ " and " ++ told right.name
  let alike (d : Done) : Done := if o.has 's' then d.write (spread ("Files " ++ names ++ " are identical\n")) else d
  let differ (d : Done) : Done := { d with status := max d.status 1 }
  let isBinary (s : Source) : Bool := !o.has 'a' && s.text.contains '\x00'
  let folds := ['i', 'w', 'b', 'E', 'Z', 'B', 'I'].any o.has
  if isBinary left || isBinary right then
    if left.text = right.text then alike d
    else
      differ (d.write (spread (if o.has 'q' then "Files " ++ names ++ " differ\n"
        else "Binary files " ++ names ++ " differ\n")))
  else if left.text = right.text && t.form != .beside then alike d
  else if o.has 'q' && !folds then differ (d.write (spread ("Files " ++ names ++ " differ\n")))
  else
    let (text, found) := changes t left right
    if !found then alike (d.write text)
    else if o.has 'q' then differ (d.write (spread ("Files " ++ names ++ " differ\n")))
    else
      let words := if within then
          [' '].intercalate ("diff".toList :: (t.words ++ [left.name, right.name]).map fun w => spread (quotedIfNeeded w)) ++ ['\n']
        else []
      let d := differ (d.write (words ++ text))
      let open_ (s : Source) : Bool := !s.text.isEmpty && s.text.getLast? != some '\n'
      if t.form = .commands ∨ t.form = .forwardCommands then
        [left, right].foldl (fun (d : Done) s =>
          if open_ s then d.complain 2 ("diff: " ++ told s.name ++ ": No newline at end of file\n") else d) d
      else d

/-! ## Directories -/

/-- A complaint about a file. -/
def complaint (path : List Char) (fault : SystemFault) : String := "diff: " ++ told path ++ ": " ++ fault.text

/-- What a path leads to. -/
inductive Found where
  | directory (place : Place)
  | file (bytes : List Char) (time : Int) (number : Option Nat)
  | missing (fault : SystemFault)

def find (d : Done) (path : List Char) : Found :=
  match d.disk.locate (pathOf path) with
  | .error fault => .missing fault
  | .ok place =>
    if d.disk.isDirectoryAt place then .directory place
    else
      match d.disk.read (pathOf path) with
      | .error fault => .missing fault
      | .ok bytes =>
        .file (charsOf bytes) (((d.disk.nodeAt? place).map (·.changed)).getD 0) (d.disk.numberAt? place)

/-- The kind of what stands somewhere. -/
def Found.kind : Found → String
  | .directory _ => "directory"
  | .file bytes .. => if bytes.isEmpty then "regular empty file" else "regular file"
  | .missing _ => "file"

/-- What differs between what stands at two paths. Every unit of fuel pays for a directory below others. -/
def compare (t : Task) : Nat → (within : Bool) → (left right : List Char) → Done → Done
  | 0, _, _, _, d => d
  | fuel + 1, within, left, right, d =>
    let o := t.options
    let differ (d : Done) : Done := { d with status := max d.status 1 }
    let nothing (name : List Char) : Source := ⟨name, [], 0, none⟩
    match find d left, find d right with
    | .directory a, .directory b =>
      let (mine, yours) := (FileTool.namesAt d.disk a, FileTool.namesAt d.disk b)
      let excluded (name : List Char) : Bool :=
        o.given.any fun (key, value) => key == ['x'] && Sign.matchAll (Sign.ofLetters (value.map fun c => (c, false))) name
      let names := (((mine ++ yours).eraseDups).mergeSort).filter (!excluded ·)
      names.foldl (fun d name =>
        let (one, other) := (FileTool.within left name, FileTool.within right name)
        let only (where_ : List Char) (d : Done) : Done :=
          differ (d.write ("Only in ".toList ++ where_ ++ ": ".toList ++ name ++ ['\n']))
        if !mine.contains name && !o.has 'N' && !o.has 'P' then only right d
        else if !yours.contains name && !o.has 'N' then only left d
        else if o.has 'N' && (!mine.contains name && FileTool.isDirectory d.disk other
            || !yours.contains name && FileTool.isDirectory d.disk one) then
          if o.has 'r' then compare t fuel true one other d
          else d.write ("Common subdirectories: ".toList ++ one ++ " and ".toList ++ other ++ ['\n'])
        else
          match FileTool.isDirectory d.disk one, FileTool.isDirectory d.disk other with
          | true, true =>
            if o.has 'r' then compare t fuel true one other d
            else d.write ("Common subdirectories: ".toList ++ one ++ " and ".toList ++ other ++ ['\n'])
          | _, _ => compare t fuel true one other d) d
    | .file a time number, .file b other otherNumber =>
      if number.isSome && number == otherNumber && t.form != .beside then
        if o.has 's' then d.write (spread ("Files " ++ told left ++ " and " ++ told right ++ " are identical\n")) else d
      else files t within ⟨left, a, time, none⟩ ⟨right, b, other, none⟩ d
    | .missing fault, .file b time _ =>
      if o.has 'N' && fault = .notFound then files t within (nothing left) ⟨right, b, time, none⟩ d
      else d.complain 2 (complaint left fault)
    | .file a time _, .missing fault =>
      if o.has 'N' && fault = .notFound then files t within ⟨left, a, time, none⟩ (nothing right) d
      else d.complain 2 (complaint right fault)
    | .missing one, .missing other =>
      (d.complain 2 (complaint left one)).complain 2 (complaint right other)
    | .directory a, .missing fault =>
      if o.has 'N' && within && fault = .notFound then
        (FileTool.namesAt d.disk a).foldl (fun d name =>
          compare t fuel true (FileTool.within left name) (FileTool.within right name) d) d
      else d.complain 2 (complaint right fault)
    | .missing fault, .directory b =>
      if o.has 'N' && within && fault = .notFound then
        (FileTool.namesAt d.disk b).foldl (fun d name =>
          compare t fuel true (FileTool.within left name) (FileTool.within right name) d) d
      else d.complain 2 (complaint left fault)
    | a, b =>
      match a, b with
      | .missing fault, _ => d.complain 2 (complaint left fault)
      | _, .missing fault => d.complain 2 (complaint right fault)
      | a, b =>
        differ (d.write (spread ("File " ++ told left ++ " is a " ++ a.kind ++ " while file " ++ told right ++ " is a "
          ++ b.kind ++ "\n")))

/-! ## The program -/

def longNames : Options.LongNames :=
  [("text", 'a'), ("ignore-space-change", 'b'), ("ignore-blank-lines", 'B'), ("context", 'C'), ("ed", 'e'),
    ("ignore-tab-expansion", 'E'), ("forward-ed", 'f'), ("ignore-case", 'i'), ("ignore-matching-lines", 'I'),
    ("left-column", 'l'), ("label", 'L'), ("minimal", 'd'), ("rcs", 'n'), ("new-file", 'N'),
    ("unidirectional-new-file", 'P'), ("show-c-function", 'p'), ("brief", 'q'), ("recursive", 'r'),
    ("report-identical-files", 's'), ("expand-tabs", 't'), ("initial-tab", 'T'), ("unified", 'ν'),
    ("suppress-common-lines", 'υ'), ("width", 'W'), ("ignore-all-space", 'w'), ("exclude", 'x'), ("side-by-side", 'y'),
    ("ignore-trailing-space", 'Z'), ("normal", 'ο'), ("speed-large-files", 'H'), ("strip-trailing-cr", 'ρ'),
    ("color", 'κ')]

/-- Words in which options that may have a number carry it in a spelling of their own. -/
def normalized : List (List Char) → List (List Char)
  | [] => []
  | word :: rest =>
    if word = ['-', '-'] then word :: rest
    else
      match word with
      | ['-', 'u'] => "--unified=".toList :: normalized rest
      | ['-', 'c'] => "--context=".toList :: normalized rest
      | ['-', 'U'] =>
        match rest with
        | [] => [word]
        | n :: more => ("--unified=".toList ++ (if n.isEmpty then ['x'] else n)) :: normalized more
      | '-' :: 'U' :: n => ("--unified=".toList ++ n) :: normalized rest
      | '-' :: 'C' :: c :: n => ("--context=".toList ++ c :: n) :: normalized rest
      | '-' :: '-' :: _ =>
        if word = "--unified".toList ∨ word = "--context".toList ∨ word = "--color".toList then
          (word ++ ['=']) :: normalized rest
        else word :: normalized rest
      | '-' :: letters =>
        let digits := letters.filter Char.isDigit
        let others := letters.filter (!Char.isDigit ·)
        match digits, others with
        | [], _ =>
          -- A cluster may hold the letter of a form that takes a number only where one is written.
          if others.all (fun c => c.isAlpha) && 1 < others.length && (others.contains 'u' || others.contains 'c')
              && !(others.any ['I', 'L', 'W', 'x', 'C', 'F', 'S', 'X', 'D'].contains) then
            (if others.contains 'u' then "--unified=".toList else "--context=".toList)
              :: ('-' :: others.filter fun c => c != 'u' && c != 'c') :: normalized rest
          else word :: normalized rest
        | _, _ =>
          if others.any ['I', 'L', 'W', 'x', 'C', 'F', 'S', 'X', 'D'].contains then word :: normalized rest
          else
            let form := if others.contains 'u' then ["--unified=".toList ++ digits]
              else if others.contains 'c' then ["--context=".toList ++ digits] else []
            let left := others.filter fun c => c != 'u' && c != 'c'
            form ++ (if left.isEmpty then [] else ['-' :: left]) ++ normalized rest
      | _ => word :: normalized rest

/-- The form that is asked for; nothing if there are several. -/
def form? (o : Options) : Except String Form :=
  let near (value : List Char) : Except String Nat :=
    if value.isEmpty then .ok 3
    else
      match (String.ofList value).toNat? with
      | some n => .ok n
      | none => .error ("invalid context length " ++ quoted value)
  let asked := o.given.filterMap fun (key, value) =>
    match key with
    | ['ν'] => some ((near value).map Form.unified)
    | ['C'] => some ((near value).map Form.context)
    | ['e'] => some (.ok .commands)
    | ['f'] => some (.ok .forwardCommands)
    | ['n'] => some (.ok .counts)
    | ['y'] => some (.ok .beside)
    | ['ο'] => some (.ok .normal)
    | _ => none
  match asked.find? fun (e : Except String Form) => e.toOption.isNone with
  | some fault => fault
  | none =>
    let found := asked.filterMap (·.toOption)
    let kind (f : Form) : Nat := match f with
      | .normal => 0
      | .unified _ => 1
      | .context _ => 2
      | .commands => 3
      | .forwardCommands => 4
      | .counts => 5
      | .beside => 6
    match found with
    | [] => .ok (if o.has 'p' then .context 3 else .normal)
    | first :: more =>
      if more.all fun f => kind f == kind first then .ok (found.getLastD first)
      else .error "conflicting output style options"

def help : String := "\ndiff: Try 'diff --help' for more information."

def diff (c : Call) : Done :=
  let fail (what : String) : Done := (c.done 2).complain 2 ("diff: " ++ what ++ help)
  let words := normalized c.args
  match Options.read "abBdeEfiHlnNpPqrstTwyZ".toList "CILWxνκ".toList longNames (words.length + 1) words with
  | .error fault => fail fault.message
  | .ok o =>
    match form? o with
    | .error what => fail what
    | .ok form =>
      match o.operands with
      | [] => fail "missing operand after 'diff'"
      | [one] => fail ("missing operand after " ++ quoted one)
      | _ :: _ :: extra :: _ => fail ("extra operand " ++ quoted extra)
      | [left, right] =>
        let given := c.args.filter fun w => !(w == left || w == right)
        let skips := o.given.filterMap fun (key, value) =>
          if key == ['I'] then (Regular.read false value).toOption else none
        let width := ((o.value? 'W').bind fun s => (String.ofList s).toNat?).getD 130
        let task : Task := ⟨o, form, skips, width, given⟩
        let labels := (o.given.filter (·.1 == ['L'])).map (·.2)
        let d := c.done 0
        let read (path : List Char) : Found :=
          if path = hyphen then .file c.input c.disk.now none else find d path
        let directory (path : List Char) : Bool := path != hyphen && FileTool.isDirectory c.disk path
        let inner (outer file : List Char) : List Char := FileTool.within outer (FileTool.lastName file)
        let (left, right) := match directory left, directory right with
          | true, false => if (read right matches .missing _) then (left, right) else (inner left right, right)
          | false, true => if (read left matches .missing _) then (left, right) else (left, inner right left)
          | _, _ => (left, right)
        match read left, read right with
        | .file a time one, .file b other another =>
          let d : Done := if left = hyphen ∨ right = hyphen then { d with input := [] } else d
          if left = hyphen ∧ right = hyphen then d
          else if one.isSome ∧ one = another then compare task 1 false left right d
          else files task false ⟨left, a, time, labels[0]?⟩ ⟨right, b, other, labels[1]?⟩ d
        | .missing fault, .file .. =>
          if o.has 'N' && fault = .notFound then compare task 1 false left right d
          else d.complain 2 (complaint left fault)
        | _, _ => compare task (c.disk.places.length + 2) false left right d

end DiagramStudio.Script.Diff
