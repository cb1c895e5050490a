import DiagramStudio.Script.Tool

/-!
Files as programs see them: the parts of paths, where paths lead, and the programs that only show what
files hold or how paths read.
-/

namespace DiagramStudio.Script.FileTool

/-! ## Paths -/

/-- The last name of a path, separators behind it left out. -/
def lastName (path : List Char) : List Char :=
  let kept := (path.reverse.dropWhile (· == '/')).reverse
  if kept.isEmpty then path.take 1 else (kept.reverse.takeWhile (· != '/')).reverse

/-- The path of the directory around a path. -/
def around (path : List Char) : List Char :=
  let strip (s : List Char) : List Char := (s.reverse.dropWhile (· == '/')).reverse
  let kept := strip path
  if kept.isEmpty then (if path.isEmpty then ['.'] else ['/'])
  else if kept.contains '/' then
    let outer := strip ((kept.reverse.dropWhile (· != '/')).reverse)
    if outer.isEmpty then ['/'] else outer
  else ['.']

/-- The path of a name in the directory at a path. -/
def within (directory name : List Char) : List Char :=
  if directory.getLast? = some '/' then directory ++ name else directory ++ '/' :: name

def placeOf? (disk : Disk) (path : List Char) : Option Place := (disk.locate (pathOf path)).toOption

/-- The place of what a path names, even if that is a link. -/
def ownPlace? (disk : Disk) (path : List Char) : Option Place := (disk.locateSelf (pathOf path)).toOption

def isDirectory (disk : Disk) (path : List Char) : Bool := disk.isDirectory (pathOf path)

def isLink (disk : Disk) (path : List Char) : Bool :=
  match (ownPlace? disk path).bind disk.at? with
  | some (.link _) => true
  | _ => false

/-- The place that a path names, whether anything stands there or not; a link at its end is not followed. -/
def goalOf (disk : Disk) (path : List Char) : Except SystemFault Place :=
  match disk.target (pathOf path) with
  | .error fault => .error fault
  | .ok ⟨directory, none, _⟩ => .ok directory
  | .ok ⟨directory, some name, trailing⟩ =>
    match disk.child directory name with
    | .error fault => .error fault
    | .ok place =>
      if trailing && (disk.at? place).isSome && !isDirectory disk path then .error .notDirectory else .ok place

/-- The place that a path names, where something new is to stand. -/
def freeGoal (disk : Disk) (path : List Char) : Except SystemFault Place :=
  match goalOf disk path with
  | .error fault => .error fault
  | .ok place =>
    if (disk.at? place).isSome then .error .exists_
    else if disk.changeable place.dropLast then .ok place
    else .error .notPermitted

/-- The names in the directory at a place, in order. -/
def namesAt (disk : Disk) (place : Place) : List (List Char) := ((disk.listAt place).map spread).mergeSort

/-- What is told of something that goes from one path to another. -/
def arrow (source target : List Char) : List Char := spread (quoted source ++ " -> " ++ quoted target ++ "\n")

/-! ## What files hold -/

/-- A byte as it is shown if it cannot be seen. -/
def visible (tabs : Bool) (c : Char) : List Char :=
  let b := c.toNat
  let low (b : Nat) : List Char :=
    if b < 32 then ['^', Char.ofNat (b + 64)] else if b = 127 then ['^', '?'] else [Char.ofNat b]
  if c = '\n' ∨ (c = '\t' ∧ !tabs) then [c]
  else if b < 128 then low b
  else 'M' :: '-' :: low (b - 128)

/-- Rows of which those that are empty and follow another one are left out; `empty` says that the one
    before was. -/
def squeezed : (empty : Bool) → List (List Char) → List (List Char)
  | _, [] => []
  | empty, row :: more =>
    if empty && row.isEmpty then squeezed true more else row :: squeezed row.isEmpty more

/-- Rows with their numbers; those that are empty may go without. -/
def numbered (filledOnly : Bool) : Nat → List (List Char) → List (List Char)
  | _, [] => []
  | n, row :: more =>
    if filledOnly && row.isEmpty then row :: numbered filledOnly n more
    else
      let digits := shown n
      (List.replicate (6 - digits.length) ' ' ++ digits ++ '\t' :: row) :: numbered filledOnly (n + 1) more

def cat (c : Call) : Done :=
  let long : Options.LongNames :=
    [("number-nonblank", 'b'), ("number", 'n'), ("squeeze-blank", 's'), ("show-nonprinting", 'v'), ("show-ends", 'E'),
      ("show-tabs", 'T'), ("show-all", 'A')]
  c.with "cat" 1 "benstuvAET" "" long fun o =>
    let isOutput (operand : List Char) : Bool :=
      operand != hyphen && c.output?.isSome && ((placeOf? c.disk operand).bind c.disk.numberAt?) == c.output?
    let d := c.eachFile 1 (fileComplaint "cat") o.operands fun d operand s =>
      if isOutput operand && !s.isEmpty then
        d.complain 1 ("cat: " ++ quotedIfNeeded operand ++ ": input file is output file")
      else d.write s
    let any (letters : String) : Bool := letters.toList.any o.has
    if !any "benstvAET" then d
    else
      let (lines, ended) := rows d.out
      let lines := if o.has 's' then squeezed false lines else lines
      let shows := any "vAet"
      let tabs := any "TAt"
      let lines := if shows || tabs then
          lines.map fun row => row.flatMap fun ch =>
            if ch = '\t' then (if tabs then ['^', 'I'] else [ch]) else if shows then visible tabs ch else [ch]
        else lines
      let ends := any "EAe"
      let lines := if any "nb" then numbered (o.has 'b') 1 lines else lines
      let close (row : List Char) : List Char :=
        if row.getLast? = some '\r' then row.dropLast ++ ['^', 'M', '$'] else row ++ ['$']
      let lines := if !ends then lines
        else if ended then lines.map close
        else lines.dropLast.map close ++ (lines.getLast?.map ([·])).getD []
      { d with out := ofRowsEnded lines ended }

/-- What is written to the output is also written to files. -/
def tee (c : Call) : Done :=
  c.with "tee" 1 "aip" "" [("append", 'a'), ("ignore-interrupts", 'i')] fun o =>
    let d := { c.done 0 with input := [], out := c.input }
    o.operands.foldl (fun d path =>
      let before := if o.has 'a' then ((d.disk.read (pathOf path)).toOption).getD [] else []
      match d.disk.write (pathOf path) (before ++ bytesOf c.input) with
      | .ok disk => { d with disk }
      | .error fault => d.complain 1 (fileComplaint "tee" path fault)) d

/-! ## How paths read -/

/-- What ends a row that a program shows. -/
def rowEnd (o : Options) : Char := if o.has 'z' then '\x00' else '\n'

def basename (c : Call) : Done :=
  c.with "basename" 1 "az" "s" [("multiple", 'a'), ("suffix", 's'), ("zero", 'z')] fun o =>
    let strip (suffix name : List Char) : List Char :=
      if suffix.length < name.length then (Text.dropBack? suffix name).getD name else name
    match o.operands with
    | [] => c.missing "basename" "missing operand" 1
    | names =>
      if o.has 'a' || o.has 's' then
        c.wrote (names.flatMap fun n => strip ((o.value? 's').getD []) (lastName n) ++ [rowEnd o])
      else
        match names with
        | [name] => c.wrote (lastName name ++ [rowEnd o])
        | [name, suffix] => c.wrote (strip suffix (lastName name) ++ [rowEnd o])
        | _ :: _ :: extra :: _ => c.missing "basename" ("extra operand " ++ quoted extra) 1
        | [] => c.done 0

def dirname (c : Call) : Done :=
  c.with "dirname" 1 "z" "" [("zero", 'z')] fun o =>
    if o.operands.isEmpty then c.missing "dirname" "missing operand" 1
    else c.wrote (o.operands.flatMap fun path => around path ++ [rowEnd o])

/-- The path from the root of what a path leads to. -/
def fullPath (place : Place) : List Char :=
  '/' :: ['/'].intercalate (place.map spread)

/-- The place that names lead to from a place, whether anything is there or not; links are followed as far
    as they lead somewhere. -/
def unchecked (disk : Disk) : Place → List (List Char) → Place
  | place, [] => place
  | place, name :: more =>
    if Path.isEmptyStep name then unchecked disk place more
    else if name = Path.above then unchecked disk place.dropLast more
    else
      let next := match disk.walk Disk.linkMax place [name] with
        | .ok next => next
        | .error _ => place ++ [String.ofList name]
      unchecked disk next more

/-- The place that a path leads to, of which only the last name may be missing. -/
def resolvedFrom (disk : Disk) : Nat → Place → List Char → Except SystemFault Place
  | 0, _, _ => .error .tooManyLinks
  | links + 1, here, path =>
    match disk.targetFrom here path with
    | .error fault => .error fault
    | .ok ⟨directory, none, _⟩ => .ok directory
    | .ok ⟨directory, some name, trailing⟩ =>
      match disk.child directory name with
      | .error fault => .error fault
      | .ok place =>
        match disk.at? place with
        | some (.link target) => resolvedFrom disk links directory target
        | some .directory => .ok place
        | some _ => if trailing then .error .notDirectory else .ok place
        | none => .ok place

/-- The place that a path leads to: it has to be there, or only the directory around it, or nothing. -/
def resolved (o : Options) (disk : Disk) (path : List Char) : Except SystemFault Place :=
  if o.has 'e' then disk.locate (pathOf path)
  else if o.has 'm' then .ok (unchecked disk (disk.start (pathOf path)) (Path.names (pathOf path)))
  else
    match Disk.pathFault? (pathOf path) with
    | some fault => .error fault
    | none => resolvedFrom disk Disk.linkMax disk.here (pathOf path)

/-- The path that leads from one place to another. -/
def relative (base place : Place) : List Char :=
  let common := ((base.zip place).takeWhile fun (a, b) => a == b).length
  let names := List.replicate (base.length - common) Path.above ++ (place.drop common).map spread
  if names.isEmpty then ['.'] else ['/'].intercalate names

def realpath (c : Call) : Done :=
  let long : Options.LongNames :=
    [("canonicalize-existing", 'e'), ("canonicalize-missing", 'm'), ("logical", 'L'), ("physical", 'P'), ("quiet", 'q'),
      ("strip", 's'), ("no-symlinks", 's'), ("zero", 'z'), ("relative-to", 't'), ("relative-base", 'b')]
  c.with "realpath" 1 "eLmPqsz" "tb" long fun o =>
    if o.operands.isEmpty then c.missing "realpath" "missing operand" 1
    else Call.each { c with args := o.operands } fun c path =>
      match resolved o c.disk path with
      | .ok place =>
        let text := match (o.value? 't').bind fun base => (resolved o c.disk base).toOption with
          | some base => relative base place
          | none => fullPath place
        c.wrote (text ++ [rowEnd o])
      | .error fault =>
        if o.has 'q' then c.done 1 else (c.done 1).complain 1 (fileComplaint "realpath" path fault)

def readlink (c : Call) : Done :=
  let long : Options.LongNames :=
    [("canonicalize", 'f'), ("canonicalize-existing", 'e'), ("canonicalize-missing", 'm'), ("no-newline", 'n'),
      ("quiet", 'q'), ("silent", 's'), ("verbose", 'v'), ("zero", 'z')]
  c.with "readlink" 1 "efmnqsvz" "" long fun o =>
    if o.operands.isEmpty then c.missing "readlink" "missing operand" 1
    else Call.each { c with args := o.operands } fun c path =>
      let found : Except SystemFault (List Char) :=
        if o.has 'f' || o.has 'e' || o.has 'm' then (resolved o c.disk path).map fullPath
        else
          match c.disk.locateSelf (pathOf path) with
          | .error fault => .error fault
          | .ok place =>
            match c.disk.at? place with
            | some (.link target) => .ok (spread (String.ofList target))
            | _ => .error .invalid
      match found with
      | .ok text => c.wrote (text ++ if o.has 'n' && o.operands.length = 1 then [] else [rowEnd o])
      | .error fault =>
        if o.has 'v' then (c.done 1).complain 1 (fileComplaint "readlink" path fault) else c.done 1

/-! ## Files compared -/

/-- Two files compared byte by byte. -/
def cmp (c : Call) : Done :=
  let long : Options.LongNames :=
    [("silent", 's'), ("quiet", 's'), ("print-bytes", 'b'), ("verbose", 'l'), ("bytes", 'n'), ("ignore-initial", 'i')]
  match Options.read "bclsv".toList "in".toList long (c.args.length + 1) c.args with
  | .error fault => (c.done 2).complain 2 ("cmp: " ++ fault.message ++ "\ncmp: Try 'cmp --help' for more information.")
  | .ok o =>
    let missing (after : String) : Done :=
      (c.done 2).complain 2
        ("cmp: missing operand after " ++ after ++ "\ncmp: Try 'cmp --help' for more information.")
    match if o.operands.length = 1 then o.operands ++ [hyphen] else o.operands with
    | [left, right] =>
      let (a, input) := c.held left
      let (b, _) := { c with input }.held right
      let fail (path : List Char) (fault : SystemFault) : Done :=
        if o.has 's' then c.done 2 else (c.done 2).complain 2 (fileComplaint "cmp" path fault)
      match a, b with
      | .error fault, _ => fail left fault
      | _, .error fault => fail right fault
      | .ok a, .ok b =>
        let number (letter : Char) : Option Nat := (o.value? letter).bind fun s => (String.ofList s).toNat?
        let skipped := (number 'i').getD 0
        let cut (s : List Char) : List Char :=
          let s := s.drop skipped
          match number 'n' with
          | some n => s.take n
          | none => s
        let (a, b) := (cut a, cut b)
        let octal (ch : Char) : List Char :=
          let digits := Nat.toDigits 8 ch.toNat
          List.replicate (3 - digits.length) ' ' ++ digits
        if a = b then c.done 0
        else if o.has 's' then c.done 1
        else
          let common := ((a.zip b).takeWhile fun (x, y) => x == y).length
          let line := 1 + (a.take common).count '\n'
          let shorter := min a.length b.length
          let short := if a.length ≤ b.length then left else right
          let eof : String := "cmp: EOF on " ++ quotedIfNeeded short
            ++ (if shorter = 0 then " which is empty"
              else
                " after byte " ++ toString shorter ++ (if o.has 'l' then ""
                  else if (a.take common).getLast? = some '\n' then ", line " ++ toString (line - 1)
                  else ", in line " ++ toString line))
          if o.has 'l' then
            let width := (shown (max a.length b.length)).length
            let found := ((a.zip b).zipIdx 1).filter fun ((x, y), _) => x != y
            let row (entry : (Char × Char) × Nat) : List Char :=
              let digits := shown entry.2
              List.replicate (width - digits.length) ' ' ++ digits ++ ' ' :: octal entry.1.1
                ++ ' ' :: octal entry.1.2 ++ ['\n']
            let d := { c.done 1 with out := found.flatMap row }
            if a.length = b.length then d else d.complain 1 eof
          else if common = shorter then (c.done 1).complain 1 eof
          else
            let bytes := if o.has 'b' then
                match a[common]?, b[common]? with
                | some x, some y =>
                  " is " ++ String.ofList (octal x) ++ " " ++ told (visible true x) ++ " "
                    ++ String.ofList (octal y) ++ " " ++ told (visible true y)
                | _, _ => ""
              else ""
            let unit := if o.has 'b' then "byte " else "char "
            { c.done 1 with out := spread (told left ++ " " ++ told right ++ " differ: " ++ unit
                ++ toString (common + 1) ++ ", line " ++ toString line ++ bytes ++ "\n") }
    | [] => missing "'cmp'"
    | [left] => missing (quoted left)
    | _ => c.missing "cmp" "extra operand" 2

end DiagramStudio.Script.FileTool
