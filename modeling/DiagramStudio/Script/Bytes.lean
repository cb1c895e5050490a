import DiagramStudio.Script.FileTool
import DiagramStudio.Script.TextTool

/-!
Programs that scripts call for the bytes of files: what shows them in numbers, copies some of them, and
changes how many there are.
-/

namespace DiagramStudio.Script.Bytes

open TextTool (natural?)

/-! ## Bytes shown in numbers -/

/-- How groups of bytes are shown. -/
structure Style where
  /-- How many bytes make up a group. -/
  size : Nat
  /-- How wide the shown group is, without what parts it from others. -/
  width : Nat
  text : List Nat → List Char
  /-- The characters are shown once more at the end of the row. -/
  trails : Bool

namespace Style

/-- The names of characters that cannot be seen. -/
def names : List String :=
  ["nul", "soh", "stx", "etx", "eot", "enq", "ack", "bel", "bs", "ht", "nl", "vt", "ff", "cr", "so", "si",
    "dle", "dc1", "dc2", "dc3", "dc4", "nak", "syn", "etb", "can", "em", "sub", "esc", "fs", "gs", "rs", "us",
    "sp"]

/-- Digits with zeros in front, up to a width. -/
def filled (width : Nat) (digits : List Char) : List Char :=
  List.replicate (width - digits.length) '0' ++ digits

/-- The number that bytes spell, the lowest first. -/
def number (bytes : List Nat) : Nat := bytes.foldr (fun b n => b + 256 * n) 0

/-- A byte as a character, as far as it can be seen. -/
def character (b : Nat) : List Char :=
  match b with
  | 0 => ['\\', '0']
  | 7 => ['\\', 'a']
  | 8 => ['\\', 'b']
  | 9 => ['\\', 't']
  | 10 => ['\\', 'n']
  | 11 => ['\\', 'v']
  | 12 => ['\\', 'f']
  | 13 => ['\\', 'r']
  | _ => if 32 ≤ b ∧ b < 127 then [Char.ofNat b] else filled 3 (Nat.toDigits 8 b)

def characters : Style := ⟨1, 3, fun bytes => character (number bytes), false⟩

/-- Bytes by the names of their characters, the highest bit left out. -/
def named : Style :=
  let text (bytes : List Nat) : List Char :=
    let b := number bytes % 128
    match names[b]? with
    | some name => name.toList
    | none => if b = 127 then "del".toList else [Char.ofNat b]
  ⟨1, 3, text, false⟩

def hexadecimal (size : Nat) : Style :=
  ⟨size, 2 * size, fun bytes => filled (2 * size) (Nat.toDigits 16 (number bytes)), false⟩

def octal (size : Nat) : Style :=
  let width := (8 * size + 2) / 3
  ⟨size, width, fun bytes => filled width (Nat.toDigits 8 (number bytes)), false⟩

/-- How many digits the greatest number of so many bytes has. -/
def digitCount (size : Nat) : Nat := (shown (256 ^ size - 1)).length

def unsigned (size : Nat) : Style := ⟨size, digitCount size, fun bytes => shown (number bytes), false⟩

def signed (size : Nat) : Style :=
  let text (bytes : List Nat) : List Char :=
    let n := number bytes
    if 256 ^ size ≤ 2 * n then '-' :: shown (256 ^ size - n) else shown n
  ⟨size, (shown (256 ^ size / 2)).length + 1, text, false⟩

/-- The style that a letter and a size name. -/
def ofLetter? (letter : Char) (size : Nat) : Option Style :=
  match letter with
  | 'x' => some (hexadecimal size)
  | 'o' => some (octal size)
  | 'u' => some (unsigned size)
  | 'd' => some (signed size)
  | _ => none

/-- The styles that letters name, each with a size behind it unless it needs none. Every unit of fuel
    pays for a style. -/
def read : Nat → List Char → Option (List Style)
  | 0, _ => none
  | _ + 1, [] => some []
  | fuel + 1, c :: rest =>
    let digits := rest.takeWhile Char.isDigit
    let (size?, behind) : Option Nat × List Char :=
      if !digits.isEmpty then (natural? digits, rest.drop digits.length)
      else
        match rest with
        | 'C' :: more => (some 1, more)
        | 'S' :: more => (some 2, more)
        | 'I' :: more => (some 4, more)
        | 'L' :: more => (some 8, more)
        | _ => (some 4, rest)
    let found : Option (Style × List Char) :=
      match c with
      | 'c' => some (characters, rest)
      | 'a' => some (named, rest)
      | _ =>
        match size?.filter fun n => [1, 2, 4, 8].contains n with
        | some size => (ofLetter? c size).map fun style => (style, behind)
        | none => none
    match found with
    | none => none
    | some (style, 'z' :: more) => (read fuel more).map ({ style with trails := true } :: ·)
    | some (style, more) => (read fuel more).map (style :: ·)

/-- How wide a row of so many bytes is. -/
def rowWidth (s : Style) (count : Nat) : Nat := count / s.size * (s.width + 1)

/-- Bytes in groups of so many. Every unit of fuel pays for a group. -/
def grouped (size : Nat) : Nat → List Nat → List (List Nat)
  | 0, _ => []
  | _ + 1, [] => []
  | fuel + 1, bytes => bytes.take size :: grouped size fuel (bytes.drop size)

/-- A row of bytes shown, as wide as the widest style makes rows of so many bytes. -/
def row (s : Style) (count widest : Nat) (bytes : List Nat) : List Char :=
  let places := count / s.size
  let spare := widest - s.rowWidth count
  -- What is spare goes in front of the groups, as evenly as whole columns allow.
  let ahead (place : Nat) : Nat :=
    spare * (places - place) / places - spare * (places - place - 1) / places
  let cells := (grouped s.size bytes.length bytes).zipIdx.map fun (group, place) =>
    let text := s.text group
    List.replicate (ahead place + 1 + s.width - text.length) ' ' ++ text
  let out := cells.flatten
  if s.trails then
    let seen := bytes.map fun b => if 32 ≤ b ∧ b < 127 then Char.ofNat b else '.'
    out ++ List.replicate (widest - out.length) ' ' ++ "  >".toList ++ seen ++ ['<']
  else out

end Style

/-- The place of a byte as it is shown in front of a row. -/
def address (base : Char) (n : Nat) : List Char :=
  match base with
  | 'd' => Style.filled 7 (shown n)
  | 'x' => Style.filled 6 (Nat.toDigits 16 n)
  | 'n' => []
  | _ => Style.filled 7 (Nat.toDigits 8 n)

/-- Rows of bytes shown from a place on. A row that is like the one before is left out, and the first of
    those has a mark in its stead; `left` says that one has been left out. -/
def dump (styles : List Style) (base : Char) (all : Bool) (count : Nat) :
    (before : Option (List Nat)) → (left : Bool) → Nat → List (List Nat) → List Char
  | _, _, place, [] =>
    let last := address base place
    if last.isEmpty then [] else last ++ ['\n']
  | before, left, place, bytes :: more =>
    let behind := place + bytes.length
    if !all && before = some bytes && bytes.length = count && !more.isEmpty then
      (if left then [] else ['*', '\n']) ++ dump styles base all count before true behind more
    else
      let widest := (styles.map fun s => s.rowWidth count).foldl max 0
      let lead := address base place
      let lines := styles.zipIdx.map fun (s, i) =>
        (if i = 0 then lead else List.replicate lead.length ' ') ++ s.row count widest bytes ++ ['\n']
      lines.flatten ++ dump styles base all count (some bytes) false behind more

/-- The letters that name a style each, and the style. -/
def shortStyles : List (Char × String) :=
  [('a', "a"), ('b', "o1"), ('c', "c"), ('d', "u2"), ('i', "d4"), ('l', "d8"), ('o', "o2"), ('s', "d2"),
    ('x', "x2")]

def od (c : Call) : Done :=
  let long : Options.LongNames :=
    [("address-radix", 'A'), ("format", 't'), ("read-bytes", 'N'), ("skip-bytes", 'j'), ("output-duplicates", 'v')]
  c.with "od" 1 "abcdilosxv" "AtNj" long fun o =>
    let asked := o.given.filterMap fun (letter, value) =>
      match letter with
      | ['t'] => some value
      | [l] => (entryFor? l shortStyles).map String.toList
      | _ => none
    let asked := if asked.isEmpty then ["o2".toList] else asked
    match asked.mapM fun s => Style.read (s.length + 1) s with
    | none =>
      let wrong := (asked.find? fun s => (Style.read (s.length + 1) s).isNone).getD []
      let letter := (wrong.find? fun c => !"acdoux".toList.contains c && !c.isDigit).getD 'q'
      (c.done 1).complain 1
        ("od: invalid character '" ++ letter.toString ++ "' in type string " ++ quoted wrong)
    | some styles =>
      let base := ((o.value? 'A').bind List.head?).getD 'o'
      let skipped := ((o.value? 'j').bind natural?).getD 0
      let (text, d) := c.whole 1 (fileComplaint "od") o.operands
      let text := text.drop skipped
      let text := match (o.value? 'N').bind natural? with
        | some n => text.take n
        | none => text
      let rows := Style.grouped 16 (text.length + 1) (text.map Char.toNat)
      if text.isEmpty && d.status != 0 then d
      else d.write (dump styles.flatten base (o.has 'v') 16 none false skipped rows)

/-! ## Bytes copied -/

/-- A number of bytes, which may have a unit. -/
def size? (s : List Char) : Option Nat :=
  let digits := s.takeWhile Char.isDigit
  let unit? : Option Nat := match s.drop digits.length with
    | [] => some 1
    | ['c'] => some 1
    | ['w'] => some 2
    | ['b'] => some 512
    | ['k'] => some 1024
    | ['K'] => some 1024
    | ['M'] => some (1024 ^ 2)
    | ['G'] => some (1024 ^ 3)
    | ['k', 'B'] => some 1000
    | ['K', 'B'] => some 1000
    | ['M', 'B'] => some (1000 ^ 2)
    | _ => none
  match natural? digits, unit? with
  | some n, some unit => some (n * unit)
  | _, _ => none

/-- The settings that words give by name. -/
def settings (args : List (List Char)) : List (String × List Char) :=
  args.filterMap fun arg => (Text.cut? (· == '=') arg).map fun (name, value) => (String.ofList name, value)

/-- What is told of blocks: how many were whole, and whether one was not. -/
def records (count block : Nat) (what : String) : String :=
  toString (count / block) ++ "+" ++ (if count % block = 0 then "0" else "1") ++ " records " ++ what ++ "\n"

/-- Some blocks of a file copied. -/
def dd (c : Call) : Done :=
  let given := settings c.args
  let fail (what : String) : Done := (c.done 1).complain 1 ("dd: " ++ what)
  let known := ["if", "of", "bs", "ibs", "obs", "cbs", "count", "skip", "seek", "conv", "status", "iflag", "oflag"]
  match c.args.find? fun arg => !(settings [arg]).any fun entry => known.contains entry.1 with
  | some arg => fail ("unrecognized operand " ++ quoted arg ++ "\n" ++ tryHelp "dd")
  | none =>
    let numbers := given.filter fun entry => ["bs", "ibs", "obs", "count", "skip", "seek"].contains entry.1
    match numbers.find? fun entry => (size? entry.2).isNone || (entry.1.contains "bs" && size? entry.2 = some 0) with
    | some (_, value) => fail ("invalid number: " ++ quoted value)
    | none =>
      let number (name : String) (default : Nat) : Nat :=
        ((entryFor? name given).bind size?).getD default
      let block := number "bs" (number "ibs" 512)
      let source := ((entryFor? "if" given).map c.held).getD (.ok c.input, [])
      match source with
      | (.error fault, _) =>
        fail ("failed to open " ++ quoted ((entryFor? "if" given).getD []) ++ ": " ++ fault.text)
      | (.ok text, input) =>
        let text := text.drop (number "skip" 0 * block)
        let text := match (entryFor? "count" given).bind size? with
          | some n => text.take (n * block)
          | none => text
        let told := records text.length block "in" ++ records text.length (number "bs" (number "obs" 512)) "out"
        let rate := toString text.length ++ (if text.length = 1 then " byte" else " bytes")
          ++ " copied, 0 s, 0 B/s\n"
        let err := match (entryFor? "status" given).map String.ofList with
          | some "none" => ""
          | some "noxfer" => told
          | _ => told ++ rate
        let d : Done := { c.done 0 with input, err := err.toList }
        match entryFor? "of" given with
        | none => d.write text
        | some target =>
          let there := (((c.disk.read (pathOf target)).toOption).map charsOf).getD []
          let ahead := number "seek" 0 * block
          let keeps := entryFor? "conv" given = some "notrunc".toList
          let front := (there.take ahead) ++ List.replicate (ahead - there.length) '\x00'
          let behind := if keeps then there.drop (ahead + text.length) else []
          match c.disk.write (pathOf target) (bytesOf (front ++ text ++ behind)) with
          | .ok disk => { d with disk }
          | .error fault => fail ("failed to open " ++ quoted target ++ ": " ++ fault.text)

/-! ## How many bytes there are -/

/-- A file made so long, or by so much longer or shorter. -/
def truncate (c : Call) : Done :=
  c.with "truncate" 1 "co" "sr" [("size", 's'), ("no-create", 'c')] fun o =>
    match o.value? 's', o.operands with
    | none, _ => c.missing "truncate" "you must specify either '--size' or '--reference'" 1
    | some _, [] => c.missing "truncate" "missing file operand" 1
    | some given, operands =>
      let (sign, digits) : Option Char × List Char := match given with
        | '+' :: rest => (some '+', rest)
        | '-' :: rest => (some '-', rest)
        | rest => (none, rest)
      match size? digits with
      | none => (c.done 1).complain 1 ("truncate: Invalid number: " ++ quoted given)
      | some n =>
        Call.each { c with args := operands } fun c path =>
          let there := ((c.disk.read (pathOf path)).toOption).getD []
          let size := match sign with
            | some '+' => there.length + n
            | some _ => there.length - n
            | none => n
          if o.has 'c' && !c.disk.leads (pathOf path) then c.done 0
          else
            match c.disk.write (pathOf path) (there.take size ++ List.replicate (size - there.length) 0) with
            | .ok disk => { c.done 0 with disk }
            | .error fault =>
              (c.done 1).complain 1 ("truncate: cannot open " ++ quoted path ++ " for writing: " ++ fault.text)

end DiagramStudio.Script.Bytes
