import DiagramStudio.Script.Calendar
import DiagramStudio.Script.FileTool
import DiagramStudio.Script.Format
import DiagramStudio.Script.Mode
import DiagramStudio.Script.Sorting

/-!
Programs that tell what there is: the names in directories, and what is known of files.
-/

namespace DiagramStudio.Script.Listing

open FileTool

/-! ## What is known of a file -/

def letterOf : Content → Char
  | .file _ => '-'
  | .directory => 'd'
  | .link _ => 'l'
  | .queue => 'p'
  | .device _ => 'c'

/-- The mode of a file as letters, the first of which says what it is. -/
def modeText (n : Node) : List Char := letterOf n.content :: Mode.letters n.mode

/-- How many bytes something takes. -/
def sizeOf : Content → Nat
  | .file bytes => bytes.length
  | .directory => 4096
  | .link target => Text.byteSize target
  | _ => 0

/-- How many blocks of 1024 bytes are set aside for something. -/
def blocksOf : Content → Nat
  | .file bytes => (bytes.length + 4095) / 4096 * 4
  | .directory => 4
  | _ => 0

/-- The two numbers of a device. -/
def deviceNumbers : Device → Nat × Nat
  | .sink => (1, 3)
  | .zeros => (1, 5)
  | .full => (1, 7)

def ownerOf (n : Node) : List Char := if n.owned then userName else ownerName

def ownerNumber (n : Node) : Nat := if n.owned then userNumber else 0

/-- The number of a file as it is told. -/
def inode (number : Nat) : List Char := shown (2621440 + number)

/-! ## Sizes for readers -/

/-- A size with a unit, rounded up to two digits at least. -/
def readable (base : Nat) (n : Nat) : List Char :=
  if n < base then shown n
  else
    let rec scaled : List Char → Nat → List Char
      | [], unit => shown (n / unit)
      | letter :: more, unit =>
        let tenths := (n * 10 + unit - 1) / unit
        let whole := (n + unit - 1) / unit
        if tenths < 100 then shown (tenths / 10) ++ '.' :: shown (tenths % 10) ++ [letter]
        else if whole < base ∨ more.isEmpty then shown whole ++ [letter]
        else scaled more (unit * base)
    scaled ((if base = 1000 then 'k' else 'K') :: "MGTPE".toList) base

/-- Texts filled up with blanks in front to a width. -/
def toRight (width : Nat) (s : List Char) : List Char := List.replicate (width - s.length) ' ' ++ s

def toLeft (width : Nat) (s : List Char) : List Char := s ++ List.replicate (width - s.length) ' '

/-! ## Names -/

/-- A name as it is listed. -/
def shownName (o : Options) (name : List Char) : List Char :=
  let special (c : Char) : Option Char :=
    match c with
    | '\n' => some 'n'
    | '\t' => some 't'
    | '\r' => some 'r'
    | '\x07' => some 'a'
    | '\x08' => some 'b'
    | '\x0b' => some 'v'
    | '\x0c' => some 'f'
    | '\\' => some '\\'
    | _ => none
  let escaped (c : Char) : List Char :=
    match special c with
    | some d => ['\\', d]
    | none =>
      if c.toNat < 32 ∨ 126 < c.toNat then
        '\\' :: (let ds := Nat.toDigits 8 c.toNat
          List.replicate (3 - ds.length) '0' ++ ds)
      else if o.has 'Q' && c = '"' then ['\\', c]
      else if !o.has 'Q' && c = ' ' then ['\\', c]
      else [c]
  if o.has 'Q' then '"' :: name.flatMap escaped ++ ['"']
  else if o.has 'b' then name.flatMap escaped
  else if o.has 'q' then name.map fun c => if c.toNat < 32 ∨ c.toNat = 127 then '?' else c
  else name

/-- Something that is listed. -/
structure Row where
  name : List Char
  /-- What stands there, unless nothing can be known of it. -/
  node? : Option Node
  number : Nat
  links : Nat
  /-- What a link leads to. -/
  beyond? : Option Node

/-- What is listed for a place under a name. -/
def rowAt (disk : Disk) (follows : Bool) (place : Place) (name : List Char) : Row :=
  let own := disk.nodeAt? place
  let beyond? := match own.map (·.content) with
    | some (.link target) =>
      ((disk.walk Disk.linkMax (Disk.startFrom place.dropLast target) (Path.names target)).toOption)
    | _ => none
  match follows, beyond? with
  | true, some other => ⟨name, disk.nodeAt? other, (disk.numberAt? other).getD 0, disk.linkCount other, none⟩
  | _, _ => ⟨name, own, (disk.numberAt? place).getD 0, disk.linkCount place, beyond?.bind disk.nodeAt?⟩

/-- The sign behind a name that says what it is. -/
def signOf (o : Options) (n : Node) : List Char :=
  let full := o.has 'F' || o.has 'y'
  match n.content with
  | .directory => if full || o.has 'p' then ['/'] else []
  | .link _ => if full then ['@'] else []
  | .queue => if full then ['|'] else []
  | .file _ => if o.has 'F' && (n.mode &&& 0o111) != 0 then ['*'] else []
  | .device _ => []

/-- The name of a row with its sign. -/
def Row.marked (o : Options) (r : Row) : List Char :=
  shownName o r.name ++ ((r.node?.map (signOf o)).getD [])

/-- The date of a file: with the time of day if it is near, else with the year. -/
def dateText (o : Options) (now changed : Int) : List Char :=
  let recent := now - 15778476 * Calendar.second < changed ∧ changed ≤ now
  let filled (format : String) : List Char := Calendar.format changed (format.length + 1) format.toList
  if o.has 'e' then filled "%Y-%m-%d %H:%M:%S.%N +0000"
  else
    match (o.value? 'E').map String.ofList with
    | some "full-iso" => filled "%Y-%m-%d %H:%M:%S.%N +0000"
    | some "long-iso" => filled "%Y-%m-%d %H:%M"
    | some "iso" => filled (if recent then "%m-%d %H:%M" else "%Y-%m-%d ")
    | some style =>
      match style.toList with
      | '+' :: format => Calendar.format changed (format.length + 1) format
      | _ => filled (if recent then "%b %e %H:%M" else "%b %e  %Y")
    | none => filled (if recent then "%b %e %H:%M" else "%b %e  %Y")

/-- The size of a row as it is listed. -/
def sizeText (o : Options) (content : Content) : List Char :=
  match content with
  | .device kind => shown (deviceNumbers kind).1 ++ ',' :: ' ' :: shown (deviceNumbers kind).2
  | content =>
    if o.has 'h' then readable 1024 (sizeOf content)
    else if o.has 'J' then readable 1000 (sizeOf content)
    else shown (sizeOf content)

/-- The blocks of a row as they are listed. -/
def blockText (o : Options) (blocks : Nat) : List Char :=
  if o.has 'h' then readable 1024 (blocks * 1024)
  else if o.has 'J' then readable 1000 (blocks * 1024)
  else shown blocks

/-- The columns in front of the name in a long row. -/
def columns (o : Options) (now : Int) (r : Row) : List (Bool × List Char) :=
  match r.node? with
  | none =>
    [(true, "-?????????".toList), (false, ['?']), (true, ['?']), (true, ['?']), (false, ['?']), (false, "           ?".toList)]
  | some n =>
    let owner := if o.has 'n' then shown (ownerNumber n) else ownerOf n
    [(true, modeText n), (false, shown r.links)] ++ (if o.has 'g' then [] else [(true, owner)])
      ++ (if o.has 'G' || o.has 'o' then [] else [(true, owner)])
      ++ [(false, sizeText o n.content), (false, dateText o now n.changed)]

/-- Rows of columns, each column as wide as its widest text. -/
def aligned (rows : List (List (Bool × List Char))) : List (List Char) :=
  let count := (rows.map List.length).foldl max 0
  let widths := (List.range count).map fun i =>
    (rows.filterMap fun row => (row[i]?).map fun cell => cell.2.length).foldl max 0
  rows.map fun row =>
    [' '].intercalate ((row.zip widths).map fun (cell, width) =>
      if cell.1 then toLeft width cell.2 else toRight width cell.2)

/-- Blanks and tabs from one column to another. Every unit of fuel pays for one. -/
def gap : Nat → (column goal : Nat) → List Char
  | 0, _, _ => []
  | fuel + 1, column, goal =>
    if goal ≤ column then []
    else if (column + 1) / 8 < goal / 8 then '\t' :: gap fuel (column + 8 - column % 8) goal
    else ' ' :: gap fuel (column + 1) goal

/-- Names in columns of a page; `across` says that they are laid row by row. -/
def inColumns (across : Bool) (page : Nat) (names : List (List Char)) : List Char :=
  let count := names.length
  let widthsFor (columns : Nat) : List Nat :=
    let perColumn := (count + columns - 1) / columns
    let columnOf (i : Nat) : Nat := if across then i % columns else i / perColumn
    (List.range columns).map fun column =>
      ((names.zipIdx).filterMap fun (name, i) =>
        if columnOf i = column then some (name.length + if column + 1 = columns then 0 else 2) else none).foldl max 3
  let fits (columns : Nat) : Bool := columns ≤ 1 || (widthsFor columns).sum < page
  let columns := ((List.range (min count (max 1 (page / 3)))).reverse.map (· + 1)).find? fits |>.getD 1
  let widths := widthsFor columns
  let lines := (count + columns - 1) / columns
  let line (row : Nat) : List Char :=
    let items := (List.range columns).filterMap fun column =>
      let i := if across then row * columns + column else column * lines + row
      (names[i]?).map fun name => (name, (widths.take column).sum)
    (items.foldl (fun (out, column) (name, start) =>
      (out ++ gap page column start ++ name, start + name.length)) ([], 0)).1 ++ ['\n']
  if names.isEmpty then [] else (List.range lines).flatMap line

/-! ## Lists -/

/-- How names are compared. -/
def before (o : Options) (a b : Row) : Bool :=
  let byName := decide (a.name ≤ b.name)
  let size (r : Row) : Nat := ((r.node?.map (·.content)).map sizeOf).getD 0
  let changed (r : Row) : Int := (r.node?.map (·.changed)).getD 0
  let ending (r : Row) : List Char :=
    if r.name.contains '.' then (r.name.reverse.takeWhile (· != '.')).reverse else []
  let letter (entry : List Char × List Char) : Option Char :=
    entry.1.head?.filter fun l => ['S', 't', 'X', 'v', 'U', 'f'].contains l
  let key : Option Char := match o.value? 'O' with
    | some word => entryFor? (String.ofList word)
      [("size", 'S'), ("time", 't'), ("extension", 'X'), ("version", 'v'), ("none", 'U'), ("name", 'N')]
    | none => o.given.reverse.findSome? letter
  match key with
  | some 'S' => size b < size a ∨ (size a = size b ∧ byName)
  | some 't' => changed b < changed a ∨ (changed a = changed b ∧ byName)
  | some 'X' => ending a < ending b ∨ (ending a = ending b ∧ byName)
  | some 'v' => Sorting.compareVersions a.name b.name != Ordering.gt
  | _ => byName

def ordered (o : Options) (rows : List Row) : List Row :=
  let rows := rows.mergeSort (before o)
  let rows := if o.has 'r' && !o.has 'U' then rows.reverse else rows
  if o.has 'D' then
    let isTree (r : Row) : Bool := r.node?.map (·.content) == some .directory
    rows.filter isTree ++ rows.filter (!isTree ·)
  else rows

def isLong (o : Options) : Bool := ["l", "n", "g", "o", "e"].any fun l => o.given.any fun entry => entry.1 == l.toList

/-- Rows as they are laid out; `totals` says that the blocks of all are told first. -/
def laid (o : Options) (now : Int) (totals : Bool) (rows : List Row) : List Char :=
  let blocks (r : Row) : Nat := ((r.node?.map (·.content)).map blocksOf).getD 0
  let total := "total ".toList ++ blockText o ((rows.map blocks).sum) ++ ['\n']
  let front (r : Row) : List (Bool × List Char) :=
    (if o.has 'i' then [(false, inode r.number)] else []) ++ (if o.has 's' then [(false, blockText o (blocks r))] else [])
  let beside (cells : List (List Char)) (names : List (List Char)) : List (List Char) :=
    (cells.zip names).map fun (cell, name) => if cell.isEmpty then name else cell ++ ' ' :: name
  let head := if totals && (isLong o || o.has 's') then total else []
  if isLong o then
    let names := rows.map fun r =>
      match r.node?.map (·.content) with
      | some (.link target) =>
        shownName o r.name ++ " -> ".toList ++ shownName o (spread (String.ofList target))
          ++ ((r.beyond?.map (signOf o)).getD [])
      | _ => r.marked o
    head ++ ofRows (beside (aligned (rows.map fun r => front r ++ columns o now r)) names)
  else
    let names := beside (aligned (rows.map front)) (rows.map (·.marked o))
    let letter (entry : List Char × List Char) : Option Char :=
      entry.1.head?.filter fun l => ['1', 'C', 'x', 'm'].contains l
    let layout := o.given.reverse.findSome? letter
    let page := ((o.value? 'w').bind fun s => (String.ofList s).toNat?).getD 80
    let page := if page = 0 then 1000000 else page
    head ++ match layout with
      | some 'C' => inColumns false page names
      | some 'x' => inColumns true page names
      | some 'm' => if names.isEmpty then [] else commas page names
      | _ => ofRows names
where
  /-- Names with commas between them, in lines that fit on a page. -/
  commas (page : Nat) (names : List (List Char)) : List Char :=
    let last := names.length - 1
    let (out, _) := names.zipIdx.foldl (fun (state : List Char × Nat) (name, i) =>
      let (out, column) := state
      let text := if i = last then name else name ++ [',']
      if column = 0 then (out ++ text, text.length)
      else if column + 1 + name.length + (if i = last then 0 else 1) < page then (out ++ ' ' :: text, column + 1 + text.length)
      else (out ++ '\n' :: text, text.length)) ([], 0)
    out ++ ['\n']

/-- The rows of what is in a directory. -/
def rowsIn (o : Options) (disk : Disk) (place : Place) : List Row :=
  let visible := disk.allowsAt place .enter
  let row (name : List Char) (at_ : Place) : Row :=
    if visible then rowAt disk (o.has 'L') at_ name else ⟨name, none, 0, 0, none⟩
  let names := (disk.listAt place).map fun name => (spread name, place ++ [name])
  let hidden (name : List Char) : Bool := name.head? = some '.'
  let ignored (name : List Char) : Bool :=
    (o.given.any fun (letter, value) =>
      letter == ['I'] && Sign.matchAll (Sign.ofLetters (value.map fun c => (c, false))) name)
      || (o.has 'B' && name.getLast? = some '~')
  let all := o.has 'a' || o.has 'f'
  let names := names.filter fun (name, _) => (all || o.has 'A' || !hidden name) && !ignored name
  let own := if all then [row ['.'] place, row ['.', '.'] place.dropLast] else []
  ordered o (own ++ names.map fun (name, at_) => row name at_)

/-- A directory listed, with those in it if that is asked for. Every unit of fuel pays for a directory
    around. -/
def listed (o : Options) (disk : Disk) : Nat → (headed top : Bool) → List Char → Place → List (List Char) × List String × Nat
  | 0, _, _, _, _ => ([], [], 0)
  | fuel + 1, headed, top, path, place =>
    if !disk.allowsAt place .read then
      ([], ["ls: cannot open directory " ++ quoted path ++ ": " ++ SystemFault.notPermitted.text], if top then 2 else 1)
    else
      let rows := rowsIn o disk place
      let needs := isLong o || o.has 's' || o.has 'i' || o.has 'S' || o.has 't'
      let lost := if needs && !disk.allowsAt place .enter then
          (rows.filter fun r => r.name != ['.'] && r.name != ['.', '.']).map fun r =>
            "ls: cannot access " ++ quoted (within path r.name) ++ ": " ++ SystemFault.notPermitted.text
        else []
      let body := (if headed then shownName o path ++ [':', '\n'] else []) ++ laid o disk.now true rows
      let inner := if o.has 'R' then
          (rows.filter fun r => r.name != ['.'] && r.name != ['.', '.']
            && r.node?.map (·.content) == some .directory).map fun r =>
              listed o disk fuel true false (within path r.name) (place ++ [String.ofList (pathOf r.name)])
        else []
      (body :: inner.flatMap (·.1), lost ++ inner.flatMap (·.2.1),
        (inner.map (·.2.2)).foldl max (if lost.isEmpty then 0 else 1))

def longNames : Options.LongNames :=
  [("all", 'a'), ("almost-all", 'A'), ("recursive", 'R'), ("reverse", 'r'), ("directory", 'd'), ("human-readable", 'h'),
    ("size", 's'), ("inode", 'i'), ("numeric-uid-gid", 'n'), ("no-group", 'G'), ("quote-name", 'Q'), ("escape", 'b'),
    ("hide-control-chars", 'q'), ("classify", 'F'), ("file-type", 'y'), ("dereference", 'L'), ("ignore", 'I'),
    ("ignore-backups", 'B'), ("full-time", 'e'), ("time-style", 'E'), ("sort", 'O'), ("si", 'J'), ("width", 'w'),
    ("group-directories-first", 'D'), ("color", 'c'), ("time", 'u'), ("literal", 'N'), ("indicator-style", 'P'),
    ("format", 'W'), ("hide", 'I'), ("block-size", 'K'), ("dired", 'j'), ("kibibytes", 'k'), ("tabsize", 'T')]

def ls (c : Call) : Done :=
  c.with "ls" 2 "abcdfghiklmnopqrstuvxABCDFGHLNQRSUXZ1" "wIT" longNames fun o =>
    let disk := c.disk
    let operands := if o.operands.isEmpty then [['.']] else o.operands
    let follows := o.has 'L' || o.has 'H' || !(isLong o || o.has 'F' || o.has 'd')
    let find (path : List Char) : Except SystemFault Place :=
      if follows then
        match disk.locate (pathOf path) with
        | .ok place => .ok place
        | .error fault => if o.has 'L' then .error fault else
          match disk.locateSelf (pathOf path) with
          | .ok place => if isLink disk path then .ok place else .error fault
          | .error fault => .error fault
      else disk.locateSelf (pathOf path)
    let failed := operands.filterMap fun path =>
      match find path with
      | .ok _ => none
      | .error fault => some ("ls: cannot access " ++ quoted path ++ ": " ++ fault.text)
    let there := operands.filterMap fun path => ((find path).toOption).map fun place => (path, place)
    let isTree (entry : List Char × Place) : Bool := disk.isDirectoryAt entry.2 && !o.has 'd'
    let rowOf (entry : List Char × Place) : Row := rowAt disk (o.has 'L') entry.2 entry.1
    let files := ordered o ((there.filter (!isTree ·)).map rowOf)
    let trees := ordered o ((there.filter isTree).map rowOf)
    let headed := 1 < operands.length || o.has 'R'
    let groups := trees.map fun r =>
      listed o disk 1000 headed true r.name (((there.find? fun entry => entry.1 == r.name).map (·.2)).getD [])
    let blocks := (if files.isEmpty then [] else [laid o disk.now false files]) ++ groups.flatMap (·.1)
    let d := (failed ++ groups.flatMap (·.2.1)).foldl (fun d what => Done.complain d 0 what) (c.done 0)
    let status := (groups.map (·.2.2)).foldl max (if failed.isEmpty then 0 else 2)
    { d.write (['\n'].intercalate blocks) with status }

/-! ## Facts about files -/

/-- What something is. -/
def kindText : Content → String
  | .file [] => "regular empty file"
  | .file _ => "regular file"
  | .directory => "directory"
  | .link _ => "symbolic link"
  | .queue => "fifo"
  | .device _ => "character special file"

/-- The bits in front of a mode that say what something is. -/
def kindBits : Content → Nat
  | .file _ => 0o100000
  | .directory => 0o040000
  | .link _ => 0o120000
  | .queue => 0o010000
  | .device _ => 0o020000

/-- The text of a fact as a number would be shown, with what was asked for in front of it. -/
def timeText (changed : Int) : List Char := Calendar.format changed 64 "%Y-%m-%d %H:%M:%S.%N +0000".toList

/-- What a letter of a format stands for; `places` is how many digits behind the point are asked for. -/
def facet (path : List Char) (n : Node) (number links : Nat) (places : Option Nat) (letter : Char) : List Char :=
  let seconds (time : Int) : List Char :=
    let whole := (toString (time / Calendar.second)).toList
    match places with
    | none => whole
    | some p =>
      let digits := Timestamp.padded 9 (time % Calendar.second).toNat
      if p = 0 then whole else whole ++ '.' :: (digits ++ List.replicate (p - 9) '0').take p
  let full (time : Int) : List Char :=
    match places with
    | none => timeText time
    | some p =>
      let digits := Timestamp.padded 9 (time % Calendar.second).toNat
      Calendar.format time 64 "%Y-%m-%d %H:%M:%S".toList ++ (if p = 0 then [] else '.' :: digits.take p) ++ " +0000".toList
  let numbers := match n.content with
    | .device kind => deviceNumbers kind
    | _ => (0, 0)
  match letter with
  | 'n' => path
  | 'N' =>
    match n.content with
    | .link target => spread (quoted path ++ " -> " ++ quoted (spread (String.ofList target)))
    | _ => spread (quoted path)
  | 's' => shown (sizeOf n.content)
  | 'F' => (kindText n.content).toList
  | 'f' => Nat.toDigits 16 (kindBits n.content ||| n.mode)
  | 'a' => Mode.digits n.mode
  | 'A' => modeText n
  | 'b' => shown (blocksOf n.content * 2)
  | 'B' => "512".toList
  | 'o' => "4096".toList
  | 'h' => shown links
  | 'i' => inode number
  | 'd' => "65024".toList
  | 'D' => "fe00".toList
  | 'm' => ['/']
  | 't' => Nat.toDigits 16 numbers.1
  | 'T' => Nat.toDigits 16 numbers.2
  | 'U' | 'G' => ownerOf n
  | 'u' | 'g' => shown (ownerNumber n)
  | 'x' | 'y' | 'z' | 'w' => full n.changed
  | 'X' | 'Y' | 'Z' | 'W' => seconds n.changed
  | '%' => ['%']
  | _ => ['?']

/-- A format with what its letters stand for. Every unit of fuel pays for a character. -/
def filledIn (path : List Char) (n : Node) (number links : Nat) : Nat → List Char → List Char
  | 0, _ => []
  | _ + 1, [] => []
  | fuel + 1, '%' :: rest =>
    let flags := rest.takeWhile fun c => ['-', '+', ' ', '#', '0', '\''].contains c
    let behind := rest.drop flags.length
    let digits := behind.takeWhile Char.isDigit
    let behind := behind.drop digits.length
    let (places, behind) : Option Nat × List Char := match behind with
      | '.' :: more =>
        let found := more.takeWhile Char.isDigit
        (some (((String.ofList found).toNat?).getD 9), more.drop found.length)
      | _ => (none, behind)
    match behind with
    | [] => ['%']
    | letter :: more =>
      let text := facet path n number links places letter
      let text := match places with
        | some p => if "nNFAUG".toList.contains letter then text.take p else text
        | none => text
      let width := ((String.ofList digits).toNat?).getD 0
      let zeros := flags.contains '0' && !("nNFAUGxyzw".toList.contains letter)
      let text := if flags.contains '#' && letter = 'a' then '0' :: text else text
      let pad := List.replicate (width - text.length) (if zeros then '0' else ' ')
      (if flags.contains '-' then text ++ pad else pad ++ text) ++ filledIn path n number links fuel more
  | fuel + 1, c :: rest => c :: filledIn path n number links fuel rest

/-- All that is told of a file if nothing else is asked for. -/
def report (path : List Char) (n : Node) (number links : Nat) : List Char :=
  let name := match n.content with
    | .link target => path ++ " -> ".toList ++ spread (String.ofList target)
    | _ => path
  let pad (width : Nat) (s : List Char) : List Char := toLeft width s
  let at_ (letter : Char) : List Char := facet path n number links none letter
  let owner (number : Nat) (name : List Char) : List Char := '(' :: toRight 5 (shown number) ++ '/' :: toRight 8 name ++ [')']
  "  File: ".toList ++ name ++ "\n  Size: ".toList ++ pad 10 (at_ 's') ++ "\tBlocks: ".toList ++ pad 10 (at_ 'b')
    ++ " IO Block: ".toList ++ pad 6 (at_ 'o') ++ ' ' :: at_ 'F' ++ "\nDevice: 254,0\tInode: ".toList ++ pad 11 (at_ 'i')
    ++ " Links: ".toList ++ at_ 'h' ++ (match n.content with
      | .device kind => "     Device type: ".toList ++ shown (deviceNumbers kind).1 ++ ',' :: shown (deviceNumbers kind).2
      | _ => [])
    ++ "\nAccess: (".toList ++ Mode.fullDigits n.mode ++ '/' :: modeText n ++ ")  Uid: ".toList
    ++ owner (ownerNumber n) (ownerOf n) ++ "   Gid: ".toList ++ owner (ownerNumber n) (ownerOf n)
    ++ "\nAccess: ".toList ++ timeText n.changed ++ "\nModify: ".toList ++ timeText n.changed ++ "\nChange: ".toList
    ++ timeText n.changed ++ "\n Birth: ".toList ++ timeText n.changed ++ ['\n']

/-- What there is to tell of files, as far as a format asks for it. -/
def stat (c : Call) : Done :=
  c.with "stat" 1 "fLt" "cp" [("format", 'c'), ("printf", 'p'), ("dereference", 'L'), ("terse", 't'), ("file-system", 'f')] fun o =>
    if o.operands.isEmpty then c.missing "stat" "missing operand" 1
    else Call.each { c with args := o.operands } fun c path =>
      match if o.has 'L' then c.disk.locate (pathOf path) else c.disk.locateSelf (pathOf path) with
      | .error fault => (c.done 1).complain 1 ("stat: cannot statx " ++ quoted path ++ ": " ++ fault.text)
      | .ok place =>
        match c.disk.nodeAt? place, c.disk.numberAt? place with
        | some n, some number =>
          let fill (format : List Char) : List Char := filledIn path n number (c.disk.linkCount place) (format.length + 1) format
          match o.value? 'p', o.value? 'c' with
          | some format, _ => c.wrote (fill (unescape (format.length + 1) format).1)
          | none, some format => c.wrote (fill format ++ ['\n'])
          | none, none =>
            if o.has 't' then c.wrote (fill "%n %s %b %f %u %g 65024 %i %h %t %T %X %Y %Z %W %o".toList ++ ['\n'])
            else c.wrote (report path n number (c.disk.linkCount place))
        | _, _ => c.done 1

/-! ## Space -/

/-- How much space something takes, with what is in it, and the rows that are told of it. Every unit of fuel
    pays for a directory around. -/
def usage (o : Options) (disk : Disk) (most : Nat) : Nat → (depth : Nat) → List Char → Place → Nat × List (Nat × List Char)
  | 0, _, _, _ => (0, [])
  | fuel + 1, depth, path, place =>
    let content := (disk.at? place).getD (.file [])
    let own := if o.has 'b' || o.has 'A' then sizeOf content else blocksOf content * 1024
    if disk.isDirectoryAt place then
      let inner := (namesAt disk place).map fun name =>
        usage o disk most fuel (depth + 1) (within path name) (place ++ [String.ofList (pathOf name)])
      let total := (inner.map (·.1)).foldl (· + ·) own
      (total, inner.flatMap (·.2) ++ if depth ≤ most then [(total, path)] else [])
    else (own, if depth = 0 ∨ (o.has 'a' && depth ≤ most) then [(own, path)] else [])

/-- The space that files take. -/
def du (c : Call) : Done :=
  let long : Options.LongNames :=
    [("all", 'a'), ("bytes", 'b'), ("total", 'c'), ("human-readable", 'h'), ("summarize", 's'), ("apparent-size", 'A'),
      ("max-depth", 'd')]
  c.with "du" 1 "0abcDHhklLmPsSx" "dtBX" long fun o =>
    let operands := if o.operands.isEmpty then [['.']] else o.operands
    let most := if o.has 's' then 0 else ((o.value? 'd').bind fun s => (String.ofList s).toNat?).getD 1000
    let text (n : Nat) : List Char :=
      if o.has 'h' then readable 1024 n
      else if o.has 'b' then shown n
      else if o.has 'm' then shown ((n + 1048575) / 1048576)
      else shown ((n + 1023) / 1024)
    let row (entry : Nat × List Char) : List Char := text entry.1 ++ '\t' :: entry.2 ++ ['\n']
    let (d, total) := operands.foldl (fun (state : Done × Nat) path =>
      let (d, total) := state
      match c.disk.locateSelf (pathOf path) with
      | .error fault => (d.complain 1 ("du: cannot access " ++ quoted path ++ ": " ++ fault.text), total)
      | .ok place =>
        let (n, rows) := usage o c.disk most 1000 0 path place
        (d.write (rows.flatMap row), total + n)) (c.done 0, 0)
    if o.has 'c' then d.write (row (total, "total".toList)) else d

end DiagramStudio.Script.Listing
