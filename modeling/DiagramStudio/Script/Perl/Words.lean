import DiagramStudio.Script.Calendar
import DiagramStudio.Script.Perl.Access

/-!
The words that programs in Perl call: those for texts, numbers, lists and tables, for what is opened, and for the file
system.
-/

namespace DiagramStudio.Script.Perl

open Work

/-! ## Handles -/

/-- The handle that a value stands for. -/
def handleOf (v : Value) : Work (Option Nat) := do
  let named (s : List Char) : Work (Option Nat) := do
    let name := (Text.dropFront? "main::".toList s).getD s
    return entryFor? name (← get).handleNames
  match v with
  | .refer .handle n => return some n
  | .refer .scalar id =>
    match ← cell id with
    | .refer .handle n => return some n
    | v => named (← textOf v)
  | v => named (← textOf v)

/-- The handle that an expression stands for. -/
def handleIn (run : Runner) (e : Expr) : Work (Option Nat) := do
  match e with
  | .call name [] false => handleOf (.text name)
  | e => handleOf (← valueOf run e)

/-- The handle that is opened by an expression, which is made if it is not there. -/
def handleFor (run : Runner) (e : Expr) : Work Nat := do
  let named (name : List Char) : Work Nat := do
    match ← handleOf (.text name) with
    | some n => return n
    | none =>
      let n ← newHandle (closedHandle name)
      modify fun s => { s with handleNames := (name, n) :: s.handleNames }
      return n
  match e with
  | .call name [] false => named name
  | .text name => named name
  | e =>
    let id := ((← cellsIn run e).head?).getD 0
    match ← cell id with
    | .missing =>
      let name := match e with
        | .variable_ v => v.sigil :: v.name
        | .declare _ _ [v] => v.sigil :: v.name
        | _ => "__ANONIO__".toList
      let n ← newHandle (closedHandle name)
      setCell id (.refer .handle n)
      return n
    | v =>
      match ← handleOf v with
      | some n => return n
      | none => named (← textOf v)

/-- Something opened by the words of a call. -/
def openWord (l : Launcher) (run : Runner) (args : List Expr) : Work Value := do
  match args with
  | [] => return .missing
  | target :: more =>
    let words ← more.mapM fun e => valueOf run e
    let texts ← words.mapM textOf
    let n ← handleFor run target
    let like (other : List Char) (writes : Bool) : Work Value := do
      let name := (Text.dropFront? ['='] other).getD other
      let found ← if name.all Char.isDigit && !name.isEmpty then pure (((String.ofList name).toNat?).filter (· < 3))
        else handleOf (.text name)
      match found with
      | none => return .ofBool false
      | some k =>
        flush n
        flush k
        let h ← handle k
        let own ← handle n
        setHandle n (if writes then { own with outlet := h.outlet, pending := [] } else { own with input := h.input })
        return .ofBool true
    match texts, words with
    | [], _ => return .ofBool false
    | [text], _ =>
      match (text.dropWhile Awk.isGap) with
      | '>' :: '&' :: other => like other true
      | '<' :: '&' :: other => like other false
      | _ =>
        let (purpose, name) := purposeOf text
        return .ofBool (← openFor l n purpose name)
    | mode :: name :: more, _ =>
      let plain := (mode.takeWhile (· != ':')).filter (· != ' ')
      let second : Option Value := words[1]?
      if plain = ">&".toList ∨ plain = ">>&".toList ∨ plain = ">&=".toList then
        match second with
        | some (.refer kind k) =>
          match ← handleOf (.refer kind k) with
          | some k =>
            flush n
            flush k
            let h ← handle k
            setHandle n { (← handle n) with outlet := h.outlet, pending := [] }
            return .ofBool true
          | none => return .ofBool false
        | _ => like name true
      else
        match Purpose.ofMode? plain, second with
        | none, _ => die ("Unknown open() mode '".toList ++ mode ++ ['\''])
        | some .read, some (.refer .scalar id) =>
          setHandle n { (← handle n) with input := some (← textOf (← cell id)), lines := 0 }
          return .ofBool true
        | some .write, some (.refer .scalar id) =>
          setCell id (.text [])
          setHandle n { (← handle n) with outlet := .cell id }
          return .ofBool true
        | some .append, some (.refer .scalar id) =>
          setHandle n { (← handle n) with outlet := .cell id }
          return .ofBool true
        | some purpose, _ => return .ofBool (← openFor l n purpose ([' '].intercalate (name :: more)))

/-! ## The file system -/

/-- Something done to the file system; what comes of it. -/
def onDisk (act : Disk → Except SystemFault Disk) : Work Bool := do
  match act (← outside get).disk with
  | .ok disk =>
    outside (modify fun m => { m with disk })
    return true
  | .error fault =>
    setFault fault
    return false

def unlinkOne (path : List Char) (d : Disk) : Except SystemFault Disk := do
  let place ← d.locateSelf (pathOf path)
  if d.isDirectoryAt place then .error .isDirectory
  else if !d.changeable place.dropLast then .error .notPermitted
  else return d.remove place

def removeDirectoryOne (path : List Char) (d : Disk) : Except SystemFault Disk := do
  let place ← d.locateSelf (pathOf path)
  if !d.isDirectoryAt place then .error .notDirectory
  else if !(d.listAt place).isEmpty then .error .notEmpty
  else if !d.changeable place.dropLast then .error .notPermitted
  else return d.remove place

def renameOne (source goal : List Char) (d : Disk) : Except SystemFault Disk := do
  let from_ ← d.locateSelf (pathOf source)
  if !d.changeable from_.dropLast then .error .notPermitted
  else
    match d.locateSelf (pathOf goal) with
    | .ok place =>
      if place = from_ then return d
      else if d.isDirectoryAt place ∧ !d.isDirectoryAt from_ then .error .isDirectory
      else if !d.changeable place.dropLast then .error .notPermitted
      else return (d.remove place).move from_ place
    | .error .notFound =>
      let made ← d.write (pathOf goal) []
      let place ← made.locateSelf (pathOf goal)
      return (made.remove place).move from_ place
    | .error fault => .error fault

def changeModeOne (mode : Nat) (path : List Char) (d : Disk) : Except SystemFault Disk := do
  let place ← d.locate (pathOf path)
  match d.numberAt? place, d.nodeAt? place with
  | some number, some n => if n.owned then return d.setNode number { n with mode } else .error .notOwner
  | _, _ => .error .notFound

/-- What a test tells of a file. -/
def fileTest (letter : Char) (path : List Char) : Work Value := do
  let d := (← outside get).disk
  let found := if letter = 'l' then d.locateSelf (pathOf path) else d.locate (pathOf path)
  match found with
  | .error fault =>
    setFault fault
    return .missing
  | .ok place =>
    match d.nodeAt? place with
    | none => return .missing
    | some n =>
      let size := match n.content with
        | .file bytes => bytes.length
        | .directory => 4096
        | _ => 0
      match letter with
      | 'e' => return .ofBool true
      | 'f' => return .ofBool (match n.content with
          | .file _ => true
          | _ => false)
      | 'd' => return .ofBool (match n.content with
          | .directory => true
          | _ => false)
      | 'l' => return .ofBool (match n.content with
          | .link _ => true
          | _ => false)
      | 's' => return if size = 0 then .both 0 [] else .ofNat size
      | 'z' => return .ofBool (size = 0)
      | 'r' | 'R' => return .ofBool (n.allows .read)
      | 'w' | 'W' => return .ofBool (n.allows .write)
      | 'x' | 'X' => return .ofBool (n.allows .enter)
      | 'o' | 'O' => return .ofBool n.owned
      | _ => return .ofBool false

/-- How many of a list something could be done to. -/
def countDone (act : List Char → Work Bool) : List (List Char) → Work Nat
  | [] => return 0
  | path :: more => do
    let one ← act path
    let rest ← countDone act more
    return (if one then 1 else 0) + rest

/-! ## Texts -/

/-- The place at which a part is found first in a text, from a place on. -/
def indexOf? (part : List Char) : (fuel : Nat) → (place : Nat) → List Char → Option Nat
  | 0, _, _ => none
  | fuel + 1, place, s =>
    if part.isPrefixOf s then some place
    else
      match s with
      | [] => none
      | _ :: rest => indexOf? part fuel (place + 1) rest

def placeOf (n : Option Nat) : Value :=
  match n with
  | some n => .ofNat n
  | none => .whole (-1)

/-- The bounds of a part of a text, counted from its end if they are below zero; nothing if it begins outside. -/
def partBounds? (size : Nat) (start : Int) (length : Option Int) : Option (Nat × Nat) :=
  let low : Int := if start < 0 then start + size else start
  let high : Int := match length with
    | none => size
    | some n => if n < 0 then size + n else low + n
  if (size : Int) < low ∨ (low < 0 ∧ high < 0) then none
  else
    let first := (max low 0).toNat
    some (first, (min (max high first) size).toNat)

/-- The number that digits of a base spell at the front of a text. -/
def basedNumber (s : List Char) : Value :=
  let body := (s.dropWhile Awk.isGap).filter (· != '_')
  match body.map Char.toLower with
  | '0' :: 'x' :: rest => .ofNat (Expression.numberIn 16 (rest.takeWhile Expression.isHexDigit))
  | 'x' :: rest => .ofNat (Expression.numberIn 16 (rest.takeWhile Expression.isHexDigit))
  | '0' :: 'b' :: rest => .ofNat (Expression.numberIn 2 (rest.takeWhile fun c => c == '0' || c == '1'))
  | rest => .ofNat (Expression.numberIn 8 (rest.takeWhile fun c => '0' ≤ c && c ≤ '7'))

/-- The parts of a time. -/
def timeParts (seconds : Int) : List Value :=
  let t := Timestamp.ofSeconds seconds
  let day := (t.dayOfYear : Int)
  [(t.second : Int), t.minute, t.hour, t.day, t.month - 1, t.year - 1900, (t.weekday : Int), day, 0].map Value.whole

def timeText (seconds : Int) : Value :=
  let format := "%a %b %e %H:%M:%S %Y".toList
  .text (Calendar.format (seconds * Calendar.second) (format.length + 1) format)

/-- A list in which values occur once, but for later ones. -/
def onceEach (vs : List Value) : List Value :=
  (vs.foldl (fun (state : List Value × List (List Char)) v =>
    if state.2.contains v.toText then state else (v :: state.1, v.toText :: state.2)) ([], [])).1.reverse

/-- A text in rows. Every unit of fuel pays for one. -/
def inRows (end_ : List Char) : Nat → List Char → List Char
  | 0, _ => []
  | fuel + 1, s => if s.isEmpty then [] else s.take 76 ++ end_ ++ inRows end_ fuel (s.drop 76)

/-- The function of a module called with values, if there is one of that name. -/
def moduleWord? (name : List Char) (vs : List Value) : Option (List Value) :=
  let one (v : Value) : Option (List Value) := some [v]
  let first := vs.headD .missing
  let second := vs.getD 1 .missing
  let best (better : Value → Value → Bool) : Option (List Value) :=
    match vs with
    | [] => one .missing
    | v :: more => one (more.foldl (fun best v => if better v best then v else best) v)
  let less (a b : Value) : Bool := a.order? b == some .lt
  let lessText (a b : Value) : Bool := compare a.toText b.toText == .lt
  match String.ofList name with
  | "sum" => if vs.isEmpty then one .missing else one (vs.foldl Value.add (.whole 0))
  | "sum0" => one (vs.foldl Value.add (.whole 0))
  | "product" => one (vs.foldl Value.multiply (.whole 1))
  | "max" => (best fun v best => less best v).map (·.map Value.toNumber)
  | "min" => (best less).map (·.map Value.toNumber)
  | "maxstr" => best fun v best => lessText best v
  | "minstr" => best lessText
  | "uniq" => some (onceEach vs)
  | "shuffle" => some vs
  | "floor" => one (.real (Float.floor first.toFloat))
  | "ceil" => one (.real (Float.ceil first.toFloat))
  | "fmod" =>
    let (x, y) := (first.toFloat, second.toFloat)
    let q := x / y
    one (.real (x - (if q < 0 then Float.ceil q else Float.floor q) * y))
  | "pow" => one (.real (Float.pow first.toFloat second.toFloat))
  | "looks_like_number" => one (.ofBool (match first with
      | .missing => false
      | .text s => Value.looksNumeric s
      | .refer .. => false
      | _ => true))
  | "blessed" => one .missing
  | "reftype" => one (match first with
      | .refer kind _ => .text (Value.Kind.name kind).toList
      | _ => .missing)
  | "basename" =>
    let s := (first.toText.reverse.dropWhile (· == '/'))
    one (.text (s.takeWhile (· != '/')).reverse)
  | "dirname" =>
    let s := (first.toText.reverse.dropWhile (· == '/')).dropWhile (· != '/')
    let front := (s.dropWhile (· == '/')).reverse
    one (.text (if s.isEmpty then ['.'] else if front.isEmpty then ['/'] else front))
  | "strftime" =>
    let format := first.toText
    match (vs.drop 1).map Value.toInt with
    | second :: minute :: hour :: day :: month :: year :: _ =>
      let seconds := Timestamp.daysOf (year + 1900) (month + 1) day * 86400 + hour * 3600 + minute * 60 + second
      one (.text (Calendar.format (seconds * Calendar.second) (format.length + 1) format))
    | _ => one (.text format)
  | "encode_base64" =>
    let text := Text.Base64.encode .standard (bytesOf first.toText)
    let end_ := (vs.getD 1 (.text ['\n'])).toText
    one (.text (inRows end_ (text.length + 1) text))
  | "decode_base64" =>
    one (.text (((Text.Base64.decode? .standard (first.toText.filter fun c => !Awk.isGap c)).map charsOf).getD []))
  | _ => none

end DiagramStudio.Script.Perl
