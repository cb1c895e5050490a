import DiagramStudio.Script.TextTool

/-!
Files cut into parts that are written to files of their own.
-/

namespace DiagramStudio.Script.Splitting

/-! ## Parts -/

/-- A text in parts of so many characters. Every unit of fuel pays for a part. -/
def bySize (size : Nat) : Nat → List Char → List (List Char)
  | 0, _ => []
  | _ + 1, [] => []
  | fuel + 1, s => s.take size :: bySize size fuel (s.drop size)

/-- The lines of a text with what ends them. -/
def wholeLines (sign : Char) (s : List Char) : List (List Char) :=
  let parts := Text.pieces (· == sign) s
  let ended := parts.dropLast.map (· ++ [sign])
  match parts.getLast? with
  | some [] | none => ended
  | some last => ended ++ [last]

/-- Lines in parts of at most so many characters, of which a longer one is cut. -/
def byLineSize (size : Nat) (lines : List (List Char)) : List (List Char) :=
  let (parts, current) := lines.foldl (fun (acc : List (List Char) × List Char) line =>
    let (parts, current) := acc
    if current.length + line.length ≤ size then (parts, current ++ line)
    else
      let parts := if current.isEmpty then parts else current :: parts
      let pieces := bySize size (line.length + 1) line
      (pieces.dropLast.reverse ++ parts, pieces.getLastD [])) ([], [])
  (if current.isEmpty then parts else current :: parts).reverse

/-- Parts of the same size, of which the last one has what is left over. -/
def inParts (count : Nat) (s : List Char) : List (List Char) :=
  let size := s.length / count
  let more := s.length % count
  let start (k : Nat) : Nat := size * k + min k more
  (List.range count).map fun k => (s.drop (start k)).take (start (k + 1) - start k)

/-- Parts of about the same size, of which each has whole lines: those that begin in it. -/
def inLineParts (count : Nat) (lines : List (List Char)) (length : Nat) : List (List Char) :=
  let size := length / count
  let more := length % count
  let finish (k : Nat) : Nat := size * (k + 1) + min (k + 1) more
  let starts := (lines.foldl (fun (acc : List (List Char × Nat) × Nat) line =>
    ((line, acc.2) :: acc.1, acc.2 + line.length)) ([], 0)).1.reverse
  let part (n : Nat) : Nat := ((List.range count).find? fun k => n < finish k).getD (count - 1)
  (List.range count).map fun k => ((starts.filter fun e => part e.2 == k).map (·.1)).flatten

/-- Lines dealt out one after another. -/
def inTurns (count : Nat) (lines : List (List Char)) : List (List Char) :=
  (List.range count).map fun k => ((lines.zipIdx.filter fun e => e.2 % count == k).map (·.1)).flatten

/-! ## Names -/

/-- A number in digits of an alphabet, in so many places. -/
def spelled (digits : Array Char) : Nat → Nat → List Char
  | 0, _ => []
  | places + 1, n => spelled digits places (n / digits.size) ++ [digits.getD (n % digits.size) 'a']

/-- The ending of the name of a part: if the places are not told there get to be more of them, each time the
    first digit is the last one of all. -/
def ending (digits : Array Char) (grows : Bool) : Nat → Nat → Nat → Option (List Char)
  | 0, _, _ => none
  | fuel + 1, places, n =>
    if !grows then if n < digits.size ^ places then some (spelled digits places n) else none
    else
      let plain := (digits.size - 1) * digits.size ^ (places - 1)
      if n < plain then some (spelled digits places n)
      else (ending digits grows fuel (places + 1) (n - plain)).map (digits.getD (digits.size - 1) 'z' :: ·)

/-! ## The program -/

/-- A size with a unit. -/
def size? (s : List Char) : Option Nat :=
  let digits := s.takeWhile Char.isDigit
  let unit : Option Nat := match String.ofList (s.drop digits.length) with
    | "" => some 1
    | "b" => some 512
    | "K" | "k" | "KiB" => some 1024
    | "KB" | "kB" => some 1000
    | "M" | "m" | "MiB" => some (1024 ^ 2)
    | "MB" => some (1000 ^ 2)
    | "G" | "GiB" => some (1024 ^ 3)
    | "GB" => some (1000 ^ 3)
    | _ => none
  match unit, (String.ofList digits).toNat? with
  | some u, some (n + 1) => some ((n + 1) * u)
  | _, _ => none

/-- The parts that options ask for, and the number of one that alone is to be shown. -/
def parts (o : Options) (text : List Char) : Except String (List (List Char) × Option Nat) :=
  let sign := match o.value? 't' with
    | some [c] => c
    | some ['\\', '0'] => '\x00'
    | _ => '\n'
  let lines := wholeLines sign text
  let groups (n : Nat) : List (List Char) :=
    (List.range ((lines.length + n - 1) / n)).map fun k => ((lines.drop (k * n)).take n).flatten
  match o.value? 'l', o.value? 'b', o.value? 'C', o.value? 'n' with
  | none, none, none, none => .ok (groups 1000, none)
  | some s, none, none, none =>
    match size? s with
    | some n => .ok (groups n, none)
    | none => .error ("invalid number of lines: " ++ quoted s)
  | none, some s, none, none =>
    match size? s with
    | some n => .ok (bySize n (text.length + 1) text, none)
    | none => .error ("invalid number of bytes: " ++ quoted s)
  | none, none, some s, none =>
    match size? s with
    | some n => .ok (byLineSize n lines, none)
    | none => .error ("invalid number of lines: " ++ quoted s)
  | none, none, none, some s =>
    let (cut, rest) : (Nat → List (List Char)) × List Char := match s with
      | 'l' :: '/' :: rest => ((inLineParts · lines text.length), rest)
      | 'r' :: '/' :: rest => ((inTurns · lines), rest)
      | rest => ((inParts · text), rest)
    match (Text.pieces (· == '/') rest).map size? with
    | [some n] => .ok (cut n, none)
    | [some k, some n] =>
      if k ≤ n then .ok (cut n, some (k - 1)) else .error ("invalid chunk number: " ++ quoted (shown k))
    | _ => .error ("invalid number of chunks: " ++ quoted rest)
  | _, _, _, _ => .error ("cannot split in more than one way\n" ++ tryHelp "split")

def longNames : Options.LongNames :=
  [("lines", 'l'), ("bytes", 'b'), ("line-bytes", 'C'), ("number", 'n'), ("suffix-length", 'a'), ("additional-suffix", 's'),
    ("numeric-suffixes", 'd'), ("hex-suffixes", 'x'), ("elide-empty-files", 'e'), ("verbose", 'v'), ("separator", 't'),
    ("unbuffered", 'u')]

/-- Words in which a number of lines is spelled as an option. -/
def normalized (args : List (List Char)) : List (List Char) :=
  args.map fun word =>
    match word with
    | '-' :: d :: rest => if (d :: rest).all Char.isDigit then "-l".toList ++ d :: rest else word
    | _ => word

def split (c : Call) : Done :=
  Call.with { c with args := normalized c.args } "split" 1 "dexvu" "lbCnast" longNames fun o =>
    let fail (what : String) : Done := (c.done 1).complain 1 ("split: " ++ what)
    match o.operands with
    | _ :: _ :: extra :: _ => c.missing "split" ("extra operand " ++ quoted extra) 1
    | operands =>
      let source := operands.headD hyphen
      let prefix_ := operands.getD 1 ['x']
      let (found, input) := c.held source
      match found with
      | .error fault =>
        match fault with
        | .isDirectory => (c.done 1).complain 1 (fileComplaint "split" source fault)
        | fault => fail ("cannot open " ++ quoted source ++ " for reading: " ++ fault.text)
      | .ok text =>
        match parts o text with
        | .error what => fail what
        | .ok (found, some k) => { c.done 0 with input, out := found.getD k [] }
        | .ok (found, none) =>
          let found := if o.has 'e' then found.filter (!·.isEmpty) else found
          let digits := if o.has 'x' then "0123456789abcdef" else if o.has 'd' then "0123456789"
            else "abcdefghijklmnopqrstuvwxyz"
          let from_ := ((((o.value? 'd').orElse fun _ => o.value? 'x').bind fun s => (String.ofList s).toNat?)).getD 0
          let length? := (o.value? 'a').bind fun s => (String.ofList s).toNat?
          let grows := length?.isNone && from_ = 0
          let suffix := (o.value? 's').getD []
          (found.zipIdx.foldl (fun (acc : Done × Bool) (part, i) =>
            let (d, stopped) := acc
            if stopped then acc
            else
              match ending digits.toList.toArray grows 8 (length?.getD 2) (from_ + i) with
              | none => (d.complain 1 "split: output file suffixes exhausted", true)
              | some letters =>
                let name := prefix_ ++ letters ++ suffix
                let d := if o.has 'v' then d.write (spread ("creating file " ++ quoted name ++ "\n")) else d
                match d.disk.write (pathOf name) (bytesOf part) with
                | .ok disk => ({ d with disk }, false)
                | .error fault => (d.complain 1 (fileComplaint "split" name fault), true))
            ({ c.done 0 with input }, false)).1

end DiagramStudio.Script.Splitting
