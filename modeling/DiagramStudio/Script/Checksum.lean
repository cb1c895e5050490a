import DiagramStudio.Script.Digest
import DiagramStudio.Script.Tool

/-!
Programs that tell files apart by digests and sums, and check digests that were told before.
-/

namespace DiagramStudio.Script.Checksum

open Digest

/-! ## Rows -/

/-- A name in which what could be mistaken for the end of a line is spelled out; and whether anything is. -/
def escapedName (name : List Char) : List Char × Bool :=
  let escaped := name.flatMap fun c =>
    match c with
    | '\\' => ['\\', '\\']
    | '\n' => ['\\', 'n']
    | '\r' => ['\\', 'r']
    | c => [c]
  (escaped, escaped.length != name.length)

/-- How rows are written. -/
structure Style where
  /-- The name of the digest stands in front. -/
  tagged : Bool
  binary : Bool
  /-- Rows end in a zero byte. -/
  zero : Bool

/-- The row of a file. -/
def row (k : Kind) (s : Style) (name digest : List Char) : List Char :=
  let (shown, odd) := if s.zero then (name, false) else escapedName name
  let body := if s.tagged then k.name.toList ++ " (".toList ++ shown ++ ") = ".toList ++ digest
    else digest ++ [' ', if s.binary then '*' else ' '] ++ shown
  (if odd then ['\\'] else []) ++ body ++ [if s.zero then '\x00' else '\n']

/-- A name with what was spelled out put back. -/
def unescapedName : List Char → List Char
  | '\\' :: 'n' :: rest => '\n' :: unescapedName rest
  | '\\' :: 'r' :: rest => '\r' :: unescapedName rest
  | '\\' :: c :: rest => c :: unescapedName rest
  | c :: rest => c :: unescapedName rest
  | [] => []

def isHex (c : Char) : Bool := c.isDigit || ('a' ≤ c && c ≤ 'f') || ('A' ≤ c && c ≤ 'F')

/-- The name and the digest in a row, if it is one of a kind. -/
def readRow? (k : Kind) (line : List Char) : Option (List Char × List Char) :=
  let (odd, line) := match line with
    | '\\' :: rest => (true, rest)
    | _ => (false, line)
  let named (name : List Char) : List Char := if odd then unescapedName name else name
  let size := 2 * k.bytes
  let whole (digest : List Char) : Bool := digest.length == size && digest.all isHex
  let tag := k.name.toList ++ " (".toList
  match Text.dropFront? tag line with
  | some rest =>
    let digest := rest.drop (rest.length - size)
    match Text.dropBack? ") = ".toList (rest.take (rest.length - size)) with
    | some name => if whole digest then some (named name, digest) else none
    | none => none
  | none =>
    let digest := line.take size
    match whole digest, line.drop size with
    | true, ' ' :: ' ' :: name => if name.isEmpty then none else some (named name, digest)
    | true, ' ' :: '*' :: name => if name.isEmpty then none else some (named name, digest)
    | _, _ => none

/-! ## Checks -/

/-- What has been found by checks so far. -/
structure Tally where
  done : Done
  good : Nat
  wrong : Nat
  unread : Nat
  odd : Nat

/-- The rows of one file checked. -/
def checkFile (tool : String) (o : Options) (kindOf : List Char → Option (Kind × List Char × List Char))
    (label : String) (d : Done) (path text : List Char) : Done :=
  let warns := o.has 'w'
  let tells := !o.has 'S'
  let complain (d : Done) (what : String) : Done := if tells then d.complain d.status (tool ++ ": " ++ what) else d
  let t := (rows text).1.zipIdx.foldl (fun (t : Tally) (line, i) =>
    match kindOf line with
    | none =>
      if line.isEmpty || line.head? = some '#' then t
      else
        let d := if warns then
            t.done.complain t.done.status (tool ++ ": " ++ quotedIfNeeded path ++ ": " ++ toString (i + 1)
              ++ ": improperly formatted " ++ label ++ " checksum line")
          else t.done
        { t with done := d, odd := t.odd + 1 }
    | some (k, name, digest) =>
      let (found, input) := (t.done.call []).held name
      let d := { t.done with input }
      let tell (d : Done) (what : String) : Done :=
        if tells then d.write ((escapedName name).1 ++ spread (": " ++ what ++ "\n")) else d
      match found with
      | .error fault =>
        if o.has 'm' && fault = .notFound then t
        else
          let d := d.complain d.status (fileComplaint tool name fault)
          { t with done := tell d "FAILED open or read", unread := t.unread + 1 }
      | .ok s =>
        if hex (k.act (bytesOf s)) == digest.map Char.toLower then
          { t with done := if o.has 'q' then d else tell d "OK", good := t.good + 1 }
        else { t with done := tell d "FAILED", wrong := t.wrong + 1 }) ⟨d, 0, 0, 0, 0⟩
  let any := 0 < t.good + t.wrong + t.unread
  if !any && !(o.has 'm' && t.odd = 0) then
    { (t.done.complain 1 (tool ++ ": " ++ quotedIfNeeded path ++ ": no properly formatted checksum lines found")) with
      status := 1 }
  else
    let count (n : Nat) (one several : String) (d : Done) : Done :=
      if n = 0 then d
      else complain d ("WARNING: " ++ toString n ++ " " ++ (if n = 1 then one else several))
    let d := count t.odd "line is improperly formatted" "lines are improperly formatted" t.done
    let d := count t.unread "listed file could not be read" "listed files could not be read" d
    let d := count t.wrong "computed checksum did NOT match" "computed checksums did NOT match" d
    let d := if o.has 'm' && t.good + t.wrong = 0 then complain d (quotedIfNeeded path ++ ": no file was verified") else d
    let failed := t.wrong + t.unread != 0 || (o.has 'X' && t.odd != 0) || (o.has 'm' && t.good + t.wrong = 0)
    { d with status := if failed then 1 else d.status }

/-! ## Programs -/

def longNames : Options.LongNames :=
  [("binary", 'b'), ("text", 't'), ("check", 'c'), ("warn", 'w'), ("zero", 'z'), ("tag", 'T'), ("quiet", 'q'),
    ("status", 'S'), ("ignore-missing", 'm'), ("strict", 'X'), ("algorithm", 'a'), ("untagged", 'u'), ("length", 'l')]

/-- A complaint about options that do not go together, if there is one. -/
def clash? (o : Options) : Option String :=
  if o.has 'c' then if o.has 'T' then some "the --tag option is meaningless when verifying checksums" else none
  else
    ([('m', "ignore-missing"), ('S', "status"), ('w', "warn"), ('q', "quiet"), ('X', "strict")].find? fun entry => o.has entry.1).map
      fun entry => "the --" ++ entry.2 ++ " option is meaningful only when verifying checksums"

/-- Digests of one kind, told or checked. -/
def digests (tool : String) (k : Kind) (o : Options) (tagged : Bool) (c : Call) : Done :=
  match clash? o with
  | some what => c.missing tool what 1
  | none =>
    if o.has 'c' then
      c.eachFile 1 (fileComplaint tool) o.operands
        (checkFile tool o (fun line => (readRow? k line).map fun (name, digest) => (k, name, digest)) k.name)
    else
      let style : Style := ⟨tagged, o.has 'b', o.has 'z'⟩
      c.eachFile 1 (fileComplaint tool) o.operands fun d name s =>
        d.write (row k style name (hex (k.act (bytesOf s))))

/-- A program that tells digests of one kind. -/
def digestTool (tool algorithm : String) (c : Call) : Done :=
  match entryFor? algorithm kinds with
  | none => c.done 1
  | some k =>
    c.with tool 1 "bctwz" (if algorithm = "blake2b" then "l" else "") longNames fun o =>
      match (o.value? 'l').map fun s => (String.ofList s).toNat? with
      | some (some bits) =>
        if bits % 8 != 0 then
          (c.done 1).complain 1 (tool ++ ": invalid length: " ++ quoted ((o.value? 'l').getD []) ++ "\n" ++ tool
            ++ ": length is not a multiple of 8")
        else
          let size := if bits = 0 then 64 else bits / 8
          digests tool ⟨"BLAKE2b-" ++ toString bits, size, blake2b size⟩ o (o.has 'T') c
      | some none => (c.done 1).complain 1 (tool ++ ": invalid length: " ++ quoted ((o.value? 'l').getD []))
      | none => digests tool k o (o.has 'T') c

/-- A sum with the number of blocks, and the name if there is one. -/
def sumRow (turning : Bool) (name s : List Char) (named : Bool) : List Char :=
  let behind := if named then ' ' :: name else []
  let bytes := bytesOf s
  if turning then
    let digits := shown (turningSum bytes)
    let blocks := shown ((s.length + 1023) / 1024)
    List.replicate (5 - digits.length) '0' ++ digits ++ ' ' :: List.replicate (5 - blocks.length) ' ' ++ blocks ++ behind ++ ['\n']
  else shown (plainSum bytes) ++ ' ' :: shown ((s.length + 511) / 512) ++ behind ++ ['\n']

def sum (c : Call) : Done :=
  c.with "sum" 1 "rs" "" [("sysv", 's')] fun o =>
    let turning := (o.given.reverse.head?.map (·.1)) != some ['s']
    c.eachFile 1 (fileComplaint "sum") o.operands fun d name s =>
      d.write (sumRow turning name s !o.operands.isEmpty)

/-- The kinds of sums and digests that can be asked for by name. -/
def algorithms : List String := ["bsd", "sysv", "crc"] ++ kinds.map (·.1) ++ ["sm3"]

def cksum (c : Call) : Done :=
  c.with "cksum" 1 "cwz" "al" longNames fun o =>
    let named := !o.operands.isEmpty
    let each (text : List Char → List Char → List Char) : Done :=
      c.eachFile 1 (fileComplaint "cksum") o.operands fun d name s => d.write (text name s)
    let check (line : List Char) : Option (Kind × List Char × List Char) :=
      kinds.findSome? fun (_, k) =>
        match Text.dropFront? k.name.toList line with
        | some _ => (readRow? k line).map fun (name, digest) => (k, name, digest)
        | none => none
    match (o.value? 'a').map String.ofList with
    | none =>
      if o.has 'c' then c.eachFile 1 (fileComplaint "cksum") o.operands (checkFile "cksum" o check "digest")
      else each fun name s =>
        shown (crc (bytesOf s)) ++ ' ' :: shown s.length ++ (if named then ' ' :: name else []) ++ ['\n']
    | some "crc" => each fun name s =>
        shown (crc (bytesOf s)) ++ ' ' :: shown s.length ++ (if named then ' ' :: name else []) ++ ['\n']
    | some "bsd" => each fun name s => sumRow true name s named
    | some "sysv" => each fun name s => sumRow false name s named
    | some name =>
      match entryFor? name kinds with
      | some k => digests "cksum" k o (!o.has 'u') c
      | none =>
        c.missing "cksum" ("invalid argument " ++ quoted name.toList ++ " for '--algorithm'\nValid arguments are:\n"
          ++ "\n".intercalate (algorithms.map fun a => "  - '" ++ a ++ "'")) 1

end DiagramStudio.Script.Checksum
