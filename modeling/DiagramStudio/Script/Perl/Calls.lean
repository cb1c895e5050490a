import DiagramStudio.Script.Perl.Grammar
import DiagramStudio.Script.Perl.Words

/-!
The words of Perl carried out with what stands behind them, and functions called.
-/

namespace DiagramStudio.Script.Perl

open Work

/-! ## Warnings -/

/-- What an operator is called. -/
def operatorName (op : String) : String :=
  (entryFor? op
    [("+", "addition (+)"), ("-", "subtraction (-)"), ("*", "multiplication (*)"), ("/", "division (/)"),
      ("%", "modulus (%)"), ("**", "exponentiation (**)"), (".", "concatenation (.) or string"), ("x", "repeat (x)"),
      ("==", "numeric eq (==)"), ("!=", "numeric ne (!=)"), ("<", "numeric lt (<)"), (">", "numeric gt (>)"),
      ("<=", "numeric le (<=)"), (">=", "numeric ge (>=)"), ("<=>", "numeric comparison (<=>)"), ("eq", "string eq"),
      ("ne", "string ne"), ("lt", "string lt"), ("gt", "string gt"), ("le", "string le"), ("ge", "string ge"),
      ("cmp", "string comparison (cmp)"), ("&", "bitwise and (&)"), ("|", "bitwise or (|)"), ("^", "bitwise xor (^)"),
      ("<<", "left bitshift (<<)"), (">>", "right bitshift (>>)")]).getD op

/-- The operators for texts. -/
def isTextual (op : String) : Bool := [".", "x", "eq", "ne", "lt", "gt", "le", "ge", "cmp"].contains op

/-- What holds a value, as warnings name it. -/
def nameIn (run : Runner) (e : Expr) : Work (List Char) := do
  match e with
  | .variable_ v => return ' ' :: v.sigil :: v.name
  | .declare _ false [v] => return ' ' :: v.sigil :: v.name
  | .item (.variable_ v) (.whole i) => return " $".toList ++ v.name ++ '[' :: (toString i).toList ++ [']']
  | .item (.variable_ v) _ => return " within @".toList ++ v.name
  | .entry (.variable_ v) key =>
    return " $".toList ++ v.name ++ "\x7b\"".toList ++ (← textIn run key) ++ "\"\x7d".toList
  | _ => return []

/-- A value that is used without being there is told of, if that is asked for. -/
def noteMissing (run : Runner) (what : String) (e : Expr) (v : Value) : Work Unit := do
  if (← get).warns && !v.isSet then
    complain ("Use of uninitialized value".toList ++ (← nameIn run e) ++ " in ".toList ++ what.toList ++ (← placeText))

/-- A text that spells no number is told of where one is needed. -/
def noteNumber (run : Runner) (what : String) (e : Expr) (v : Value) : Work Unit := do
  if (← get).warns then
    match v with
    | .missing => noteMissing run what e v
    | .text s =>
      if !Value.looksNumeric s then
        complain ("Argument \"".toList ++ s ++ "\" isn't numeric in ".toList ++ what.toList ++ (← placeText))
    | _ => return

/-- What is told of the operands of an operator. -/
def noteOperands (run : Runner) (op : String) (left right : Expr) (a b : Value) : Work Unit := do
  if (← get).warns then
    let name := operatorName op
    if op = "x" then
      noteMissing run name left a
      noteNumber run name right b
    else if isTextual op then
      noteMissing run name left a
      noteMissing run name right b
    else
      noteNumber run name right b
      noteNumber run name left a

/-- The values of expressions, of which those that are not there are told of. -/
def notedValues (run : Runner) (what : String) (es : List Expr) : Work (List Value) := do
  let found ← es.mapM fun e => do
    let vs ← listOf run e
    match vs with
    | [v] => noteMissing run what (match e with
        | .variable_ ⟨'@', name⟩ => .item (.variable_ ⟨'@', name⟩) (.whole 0)
        | e => e) v
    | vs =>
      for (v, i) in vs.zipIdx do
        noteMissing run what (match e with
          | .variable_ ⟨'@', name⟩ => .item (.variable_ ⟨'@', name⟩) (.whole i)
          | _ => .list []) v
    return vs
  return found.flatten

/-! ## Operators -/

/-- What an operator makes of two values. -/
def computed (op : String) (a b : Value) : Work Value := do
  let ordered (p : Ordering → Bool) : Work Value := return .ofBool ((a.order? b).any p)
  let texts (f : List Char → List Char → Value) : Work Value := return f (← textOf a) (← textOf b)
  let compared (p : Ordering → Bool) : Work Value := texts fun s t => .ofBool (p (compare s t))
  let bits (f : Nat → Nat → Nat) : Work Value := return .ofNat (f a.toBits b.toBits % 2 ^ 64)
  let sign (o : Ordering) : Value := .whole (match o with
    | .lt => -1
    | .eq => 0
    | .gt => 1)
  match op with
  | "+" => return a.add b
  | "-" => return a.subtract b
  | "*" => return a.multiply b
  | "/" =>
    match a.divide? b with
    | some v => return v
    | none => die "Illegal division by zero".toList
  | "%" =>
    match a.remainder? b with
    | some v => return v
    | none => die "Illegal modulus zero".toList
  | "**" => return a.power b
  | "." => texts fun s t => .text (s ++ t)
  | "x" =>
    let s ← textOf a
    return .text (List.replicate b.toNat s).flatten
  | "==" => ordered (· == .eq)
  | "!=" => return .ofBool ((a.order? b) != some .eq)
  | "<" => ordered (· == .lt)
  | ">" => ordered (· == .gt)
  | "<=" => ordered (· != .gt)
  | ">=" => ordered (· != .lt)
  | "<=>" => return ((a.order? b).map sign).getD .missing
  | "eq" => compared (· == .eq)
  | "ne" => compared (· != .eq)
  | "lt" => compared (· == .lt)
  | "gt" => compared (· == .gt)
  | "le" => compared (· != .gt)
  | "ge" => compared (· != .lt)
  | "cmp" => texts fun s t => sign (compare s t)
  | "&" => bits (· &&& ·)
  | "|" => bits (· ||| ·)
  | "^" => bits (· ^^^ ·)
  | "<<" => return .ofNat (a.toBits * 2 ^ (min b.toNat 64) % 2 ^ 64)
  | ">>" => return .ofNat (a.toBits / 2 ^ (min b.toNat 64))
  | "xor" => return .ofBool (a.isTrue != b.isTrue)
  | _ => return .missing

/-- All values from one to another. -/
def rangeOf (low high : Value) : Work (List Value) := do
  let isNumber (v : Value) : Bool := match v with
    | .text s => s.isEmpty || Value.looksNumeric s
    | _ => true
  if isNumber low then
    let (a, b) := (low.toInt, high.toInt)
    return (List.range (b + 1 - a).toNat).map fun (i : Nat) => .whole (a + (i : Int))
  else
    let last ← textOf high
    let rec go (fuel : Nat) (v : Value) : List Value :=
      match fuel with
      | 0 => []
      | fuel + 1 =>
        if last.length < v.toText.length then []
        else if v.toText = last then [v] else v :: go fuel v.next
    return go 100000 low

/-! ## Functions -/

/-- How deep functions can be called. -/
def callMax : Nat := 5000

/-- A function called with cells. -/
def callCode (run : Runner) (wantsList : Bool) (code : Nat) (ids : List Nat) : Work (List Value) := do
  let s ← get
  if s.depth = 0 then die "Deep recursion".toList
  match s.codes[code]? with
  | none => die "Not a CODE reference".toList
  | some c =>
    let args ← newArray ids.toArray
    let slot : Variable := ⟨'@', ['_']⟩
    let before := entryFor? slot s.globals
    bindGlobal slot args
    modify fun s => { s with known := c.known, wantsList, inFunction := true, depth := s.depth - 1 }
    let leave : Work Unit := do
      match before with
      | some id => bindGlobal slot id
      | none => modify fun s => { s with globals := withoutEntry slot s.globals }
      modify fun now => { now with known := s.known, wantsList := s.wantsList, inFunction := s.inFunction, depth := s.depth
                                   matched := s.matched, line := s.line }
    let result ← tryCatch (enclosed (run (.body wantsList c.body))) fun stop => do
      match stop with
      | .returned vs => return vs
      | stop =>
        leave
        throw stop
    leave
    return if wantsList then result else result.getLast?.toList

/-- The function that a value stands for. -/
def codeOf? (v : Value) : Work (Option Nat) := do
  match v with
  | .refer .code id => return some id
  | .text name => return entryFor? name (← get).functions
  | _ => return none

/-- A function called by its name. -/
def callNamed (run : Runner) (wantsList : Bool) (name : List Char) (args : List Expr) : Work (List Value) := do
  let short := (Text.dropFront? "main::".toList name).getD name
  match entryFor? short (← get).functions with
  | some code => callCode run wantsList code (← args.mapM (cellsIn run)).flatten
  | none =>
    let last := (short.reverse.takeWhile (· != ':')).reverse
    let known := (← get).imported.contains short || last.length < short.length
    let fail : Work (List Value) := die ("Undefined subroutine &".toList ++ (if short.contains ':' then short else
      "main::".toList ++ short) ++ " called".toList)
    if known then
      match moduleWord? last (← valuesOf run args) with
      | some vs => return vs
      | none => fail
    else fail

/-! ## Texts printed -/

/-- Values in a format. -/
def formatIn (vs : List Value) : Work (List Char) := do
  match vs with
  | [] => return []
  | f :: args =>
    let format ← textOf f
    let shown ← args.mapM fun v => do return (v, ← textOf v)
    return Value.formatted shown (format.length + 1) format shown

/-- What `die` and `warn` say. -/
def complaintOf (vs : List Value) (usual : String) : Work (List Char) := do
  let text := (← vs.mapM textOf).flatten
  let text := if text.isEmpty then usual.toList else text
  if text.getLast? = some '\n' then return text else return text ++ (← placeText)

/-! ## Words -/

/-- The function that is called on an occasion, if there is one. -/
def hook? (name : String) : Work (Option Nat) := do
  match entryFor? name.toList (← hash (← globalOf ⟨'%', "SIG".toList⟩)) with
  | some id => codeOf? (← cell id)
  | none => return none

/-- The array that a word works on. -/
def arrayFor (run : Runner) (e : Expr) : Work Nat := arrayIn run e

/-- The array that words work on if none is told. -/
def usualArray : Work Nat := do
  if (← get).inFunction then slotOf ⟨'@', ['_']⟩ else globalOf ⟨'@', "ARGV".toList⟩

def isHash : Expr → Bool
  | .variable_ v => v.sigil == '%'
  | .behind sigil _ => sigil == '%'
  | _ => false

/-- What each key of a table has, or each place of an array. -/
def keysOf (run : Runner) (e : Expr) : Work (List Value × List Nat × Nat) := do
  if isHash e then
    let n ← hashIn run e
    let entries ← hash n
    return (entries.map fun entry => .text entry.1, entries.map (·.2), n)
  else
    let n ← arrayIn run e
    let ids := (← array n).toList
    return ((List.range ids.length).map Value.ofNat, ids, n)

/-- Without a line feed at the end: what is left, and how much has gone. -/
def chomped (s : List Char) : List Char × Nat :=
  if s.getLast? = some '\n' then (s.dropLast, 1) else (s, 0)

/-- Words for single texts and numbers. -/
def simpleWord? (name : String) (v : Value) (s : List Char) : Option Value :=
  let real (f : Float → Float) : Option Value := some (.real (f v.toFloat))
  match name with
  | "length" => some (if v.isSet then .ofNat s.length else .missing)
  | "lc" | "fc" => some (.text (s.map Char.toLower))
  | "uc" => some (.text (s.map Char.toUpper))
  | "lcfirst" => some (.text (match s with
      | c :: rest => c.toLower :: rest
      | [] => []))
  | "ucfirst" => some (.text (match s with
      | c :: rest => c.toUpper :: rest
      | [] => []))
  | "chr" => some (.text [Char.ofNat v.toNat])
  | "ord" => some (.ofNat ((s.head?.map Char.toNat).getD 0))
  | "int" => some (match v.toNumber with
      | .real x => if x == x && !x.isInf then (if x < 0 then .real (Float.ceil x) else .real (Float.floor x)) else .real x
      | v => v)
  | "abs" => some (match v.toNumber with
      | .real x => .real (Float.abs x)
      | v => .ofNat v.toInt.natAbs)
  | "sin" => real Float.sin
  | "cos" => real Float.cos
  | "exp" => real Float.exp
  | "hex" =>
    let body := s.filter (· != '_')
    let body := (Text.dropFront? ['0', 'x'] body).getD body
    some (.ofNat (Expression.numberIn 16 (body.takeWhile Expression.isHexDigit)))
  | "oct" => some (basedNumber s)
  | "quotemeta" => some (.text (quotedMeta s))
  | "ref" => some (match v with
      | .refer kind _ => .text (Value.Kind.name kind).toList
      | _ => .text [])
  | _ => none

/-- The patterns at which a text is cut. -/
inductive Cutter where
  | words
  | pattern (e : Expression.Named)

/-- The text of a pattern with its names filled in. -/
def filledIn (run : Runner) (parts : List Piece) : Work (List Char) := do
  let what := match parts with
    | [.value _] => "string"
    | _ => operatorName "."
  let filled ← parts.mapM fun p => do
    match p with
    | .plain s => return Filled.text s
    | .mark c => return .mark c
    | .value e =>
      let v ← valueOf run e
      noteMissing run what e v
      return .text (← textOf v)
    | .values e =>
      let texts ← (← notedValues run "join or string" [e]).mapM textOf
      return .text ((← textOf (← global "\"")).intercalate texts)
  return joined [] none filled

/-- The pattern that pieces make up. -/
def patternIn (run : Runner) (parts : List Piece) (letters : Letters) : Work Expression.Named := do
  match parts with
  | [.value e] =>
    match ← valueOf run e with
    | .refer .pattern id =>
      match (← get).patterns[id]? with
      | some (p, _) => return p
      | none => compile [] letters
    | v => compile (← textOf v) letters
  | parts => compile (← filledIn run parts) letters

/-- A text cut by what a call tells. -/
def splitWord (run : Runner) (args : List Expr) : Work (List Value) := do
  let text ← match args[1]? with
    | some e => textIn run e
    | none => textOf (← cell (← globalOf topic))
  let limit ← match args[2]? with
    | some e => pure (← valueOf run e).toInt
    | none => pure 0
  let cutter ← match args.head? with
    | none => pure Cutter.words
    | some (.match_ none [.plain [' ']] []) => pure (Cutter.pattern (← compile [' '] []))
    | some (.match_ none pattern letters) =>
      let text ← filledIn run pattern
      pure (Cutter.pattern (← compile text (if text = ['^'] then 'm' :: letters else letters)))
    | some (.text [' ']) => pure Cutter.words
    | some e =>
      match ← valueOf run e with
      | .refer .pattern id =>
        match (← get).patterns[id]? with
        | some (p, _) => pure (Cutter.pattern p)
        | none => pure Cutter.words
      | v =>
        let s ← textOf v
        if s = [' '] then pure Cutter.words else pure (Cutter.pattern (← compile s []))
  match cutter with
  | .words => return splitWords text limit
  | .pattern e => return split e text limit

/-- A value between two bounds that looks like chance. -/
def chance : Work Float := do
  let s ← get
  let next := (s.seed * 6364136223846793005 + 1442695040888963407) % 2 ^ 64
  set { s with seed := next }
  return Float.ofNat (next / 2 ^ 11) / Float.ofNat (2 ^ 53)

/-- Words for lists and tables. -/
def listWord? (run : Runner) (wantsList : Bool) (name : String) (args : List Expr) : Work (Option (List Value)) := do
  let one (v : Value) : Work (Option (List Value)) := return some [v]
  let first : Expr := args.headD (.list [])
  let isGiven := match args with
    | [] | [.list []] => false
    | _ => true
  let arrayHere : Work Nat := if isGiven then arrayFor run first else usualArray
  let taken (fromBack : Bool) : Work (Option (List Value)) := do
    let n ← arrayHere
    let ids ← array n
    if ids.isEmpty then one .missing
    else if fromBack then
      setArray n ids.pop
      one (← cell (ids.getD (ids.size - 1) 0))
    else
      setArray n (ids.extract 1 ids.size)
      one (← cell (ids.getD 0 0))
  match name with
  | "push" =>
    let n ← arrayFor run first
    let new ← newCells (← valuesOf run (args.drop 1))
    setArray n ((← array n) ++ new.toArray)
    one (.ofNat (← array n).size)
  | "unshift" =>
    let n ← arrayFor run first
    let new ← newCells (← valuesOf run (args.drop 1))
    setArray n (new.toArray ++ (← array n))
    one (.ofNat (← array n).size)
  | "pop" => taken true
  | "shift" => taken false
  | "splice" =>
    let n ← arrayFor run first
    let ids := (← array n).toList
    let numbers ← (args.drop 1).take 2 |>.mapM fun e => do return (← valueOf run e).toInt
    let low := match numbers with
      | i :: _ => (place? (ids.length + 1) (if i < 0 then i - 1 else i)).getD ids.length
      | [] => 0
    let count := match numbers with
      | _ :: k :: _ => if k < 0 then ((ids.length : Int) - low + k).toNat else k.toNat
      | _ => ids.length
    let new ← newCells (← valuesOf run (args.drop 3))
    setArray n (ids.take low ++ new ++ ids.drop (low + count)).toArray
    let gone ← ((ids.drop low).take count).mapM cell
    return some (if wantsList then gone else gone.getLast?.toList)
  | "keys" =>
    let (keys, _, n) ← keysOf run first
    modify fun s => { s with visited := withoutEntry n s.visited }
    return some (if wantsList then keys else [.ofNat keys.length])
  | "values" =>
    let (_, ids, n) ← keysOf run first
    modify fun s => { s with visited := withoutEntry n s.visited }
    if wantsList then return some (← ids.mapM cell) else one (.ofNat ids.length)
  | "each" =>
    let (keys, ids, n) ← keysOf run first
    let i := (entryFor? n (← get).visited).getD 0
    match keys[i]?, ids[i]? with
    | some k, some id =>
      modify fun s => { s with visited := withEntry n (i + 1) s.visited }
      if wantsList then return some [k, ← cell id] else one k
    | _, _ =>
      modify fun s => { s with visited := withoutEntry n s.visited }
      return some []
  | "delete" =>
    let gone (h : Expr) (keys : List Value) : Work (List Value) := do
      let n ← hashIn run h
      keys.mapM fun k => do
        let key ← textOf k
        let entries ← hash n
        setHash n (withoutEntry key entries)
        match entryFor? key entries with
        | some id => cell id
        | none => return .missing
    match first with
    | .entry h k => return some (← gone h [← valueOf run k])
    | .entries h list => return some (← gone h (← listOf run list))
    | .localized (.entry h k) => return some (← gone h [← valueOf run k])
    | .item a i =>
      let n ← arrayIn run a
      let ids ← array n
      match place? ids.size (← valueOf run i).toInt with
      | some k =>
        let v ← match ids[k]? with
          | some id => cell id
          | none => pure .missing
        if k + 1 = ids.size then setArray n ids.pop
        else
          let id ← newCell .missing
          setArray n (ids.setIfInBounds k id)
        one v
      | none => one .missing
    | _ => one .missing
  | "exists" =>
    match first with
    | .call name _ _ => one (.ofBool (entryFor? name (← get).functions).isSome)
    | e => one (.ofBool (← cellThere? run e).isSome)
  | "defined" =>
    match first with
    | .call name _ _ => one (.ofBool (entryFor? name (← get).functions).isSome)
    | .item .. | .entry .. =>
      match ← cellThere? run first with
      | some id => one (.ofBool (← cell id).isSet)
      | none => one (.ofBool false)
    | .variable_ ⟨'@', name⟩ => one (.ofBool !(← array (← slotOf ⟨'@', name⟩)).isEmpty)
    | e =>
      let v ← if isGiven then valueOf run e else cell (← globalOf topic)
      one (.ofBool v.isSet)
  | "scalar" => one (← valueOf run first)
  | "undef" =>
    if isGiven then
      match first with
      | .variable_ ⟨'@', _⟩ | .behind '@' _ => setArray (← arrayIn run first) #[]
      | .variable_ ⟨'%', _⟩ | .behind '%' _ => setHash (← hashIn run first) []
      | e =>
        for id in ← cellsIn run e do
          setCell id .missing
    one .missing
  | "reverse" =>
    let vs ← valuesOf run args
    if wantsList then return some vs.reverse
    else
      let text ← if args.isEmpty then textOf (← cell (← globalOf topic)) else pure (← vs.mapM textOf).flatten
      one (.text text.reverse)
  | "join" =>
    let vs ← notedValues run "join or string" args
    let texts ← vs.mapM textOf
    one (.text ((texts.headD []).intercalate texts.tail))
  | "split" =>
    let parts ← splitWord run args
    return some (if wantsList then parts else [.ofNat parts.length])
  | "sprintf" => one (.text (← formatIn (← notedValues run "sprintf" args)))
  | "chomp" | "chop" =>
    let ids ← if isGiven then pure (← args.mapM (cellsIn run)).flatten else pure [← globalOf topic]
    let results ← ids.mapM fun id => do
      let s ← textOf (← cell id)
      if name = "chomp" then
        let (kept, n) := chomped s
        if 0 < n then setCell id (.text kept)
        return Value.ofNat n
      else
        setCell id (.text s.dropLast)
        return .text (s.getLast?.toList)
    one (if name = "chomp" then results.foldl Value.add (.whole 0) else results.getLast?.getD .missing)
  | "wantarray" => one (.ofBool (← get).wantsList)
  | "pos" =>
    let id ← if isGiven then cellOf run first else globalOf topic
    one (match entryFor? id (← get).positions with
      | some n => .ofNat n
      | none => .missing)
  | _ => return none

/-- Words for what is opened, other programs, and the file system. -/
def systemWord? (l : Launcher) (run : Runner) (wantsList : Bool) (name : String) (args : List Expr) :
    Work (Option (List Value)) := do
  let one (v : Value) : Work (Option (List Value)) := return some [v]
  let first : Expr := args.headD (.list [])
  let isGiven := match args with
    | [] | [.list []] => false
    | _ => true
  let texts : Work (List (List Char)) := do (← valuesOf run args).mapM textOf
  let subject : Work (List Char) := if isGiven then textIn run first else do textOf (← cell (← globalOf topic))
  let number (n : Nat) : Work Int := do
    match args[n]? with
    | some e => return (← valueOf run e).toInt
    | none => return 0
  match name with
  | "open" => one (← openWord l run args)
  | "close" | "closedir" =>
    match ← handleIn run first with
    | some n => one (.ofBool (← closeHandle l n))
    | none => one (.ofBool false)
  | "eof" =>
    let n? ← match args with
      | [] => do
        match (← get).lastRead with
        | some n => pure (some n)
        | none => pure none
      | [.list []] => pure (some filesHandle)
      | e :: _ => handleIn run e
    match n? with
    | none => one (.ofBool true)
    | some n =>
      if n = filesHandle then
        let h ← handle n
        let left := !(h.input.getD []).isEmpty
        let more ← filesLeft
        one (.ofBool (!left && (args.isEmpty || more.isEmpty)))
      else one (.ofBool (← isAtEnd n))
  | "readline" =>
    match ← handleIn run first with
    | some n =>
      if wantsList then return some ((← allLines n lineMax).map Value.text)
      else one (((← nextLine n).map Value.text).getD .missing)
    | none => return some []
  | "getc" =>
    match ← (if isGiven then handleIn run first else pure (some inputHandle)) with
    | some n =>
      match ← leftOf n with
      | some (c :: rest) =>
        setHandle n { (← handle n) with input := some rest }
        one (.text [c])
      | _ => one .missing
    | none => one .missing
  | "opendir" =>
    let path ← match args.drop 1 with
      | e :: _ => textIn run e
      | [] => pure []
    let d := (← outside get).disk
    match d.locate (pathOf path) with
    | .ok place =>
      if d.isDirectoryAt place then
        let n ← handleFor run first
        setHandle n { (← handle n) with names := ['.'] :: ['.', '.'] :: (d.listAt place).map spread, input := some [] }
        one (.ofBool true)
      else
        setFault .notDirectory
        one (.ofBool false)
    | .error fault =>
      setFault fault
      one (.ofBool false)
  | "readdir" =>
    match ← handleIn run first with
    | none => return some []
    | some n =>
      let h ← handle n
      if wantsList then
        setHandle n { h with names := [] }
        return some (h.names.map Value.text)
      else
        setHandle n { h with names := h.names.tail }
        one ((h.names.head?.map Value.text).getD .missing)
  | "binmode" => one (.whole 1)
  | "fileno" =>
    match ← handleIn run first with
    | some n => one (.ofNat n)
    | none => one .missing
  | "select" =>
    match args with
    | [e] =>
      let before := (← get).chosen
      match ← handleIn run e with
      | some n => modify fun s => { s with chosen := n }
      | none => pure ()
      one (.refer .handle before)
    | [_, _, _, e] =>
      let time ← valueOf run e
      outside (Act.rest (Awk.truncated (time.toFloat * 1000000000)))
      one (.whole 0)
    | _ => one (.refer .handle (← get).chosen)
  | "sleep" =>
    flush output
    let n ← number 0
    outside (Act.rest (n * Calendar.second))
    one (.whole n)
  | "usleep" =>
    outside (Act.rest ((← number 0) * 1000))
    one (.whole 0)
  | "time" => one (.whole ((← outside get).disk.now / Calendar.second))
  | "times" => return some [.real 0, .real 0, .real 0, .real 0]
  | "localtime" | "gmtime" =>
    let seconds ← if isGiven then number 0 else pure ((← outside get).disk.now / Calendar.second)
    return some (if wantsList then timeParts seconds else [timeText seconds])
  | "system" => one (.whole (← system l (← texts)))
  | "exec" =>
    let status ← system l (← texts)
    if status < 0 then one (.ofBool false) else throw (.exit (status / 256).toNat)
  | "kill" =>
    match ← valuesOf run args with
    | signal :: processes =>
      let signal := (Signal.ofWord? ((Text.dropFront? "SIG".toList (← textOf signal)).getD (← textOf signal))).getD 0
      for p in processes do
        outside (modify fun m => m.strike p.toNat signal)
      outside (Act.rest 0)
      one (.ofNat processes.length)
    | [] => one (.whole 0)
  | "chdir" =>
    let path ← subject
    one (.ofBool (← onDisk fun d => do
      let place ← d.locate (pathOf path)
      if d.isDirectoryAt place then return { d with here := place } else .error .notDirectory))
  | "mkdir" =>
    let path ← subject
    one (.ofBool (← onDisk fun d => d.makeDirectory (pathOf path)))
  | "rmdir" =>
    let path ← subject
    one (.ofBool (← onDisk (removeDirectoryOne path)))
  | "unlink" =>
    let paths ← if isGiven then texts else pure [← subject]
    one (.ofNat (← countDone (fun path => onDisk (unlinkOne path)) paths))
  | "rename" =>
    match ← texts with
    | [source, goal] => one (.ofBool (← onDisk (renameOne source goal)))
    | _ => one (.ofBool false)
  | "chmod" =>
    match ← valuesOf run args with
    | mode :: paths =>
      let paths ← paths.mapM textOf
      one (.ofNat (← countDone (fun path => onDisk (changeModeOne mode.toNat path)) paths))
    | [] => one (.whole 0)
  | "readlink" =>
    let d := (← outside get).disk
    match (d.locateSelf (pathOf (← subject))).toOption.bind d.at? with
    | some (.link target) => one (.text (spread (String.ofList target)))
    | _ => one .missing
  | "symlink" =>
    match ← texts with
    | [target, path] =>
      one (.ofBool (← onDisk fun d => do
        match d.locateSelf (pathOf path) with
        | .ok _ => .error .exists_
        | .error _ =>
          let made ← d.write (pathOf path) []
          let place ← made.locateSelf (pathOf path)
          return (made.remove place).put place (.link (pathOf target))))
    | _ => one (.ofBool false)
  | "stat" | "lstat" =>
    let d := (← outside get).disk
    match d.locate (pathOf (← subject)) with
    | .error fault =>
      setFault fault
      return some []
    | .ok place =>
      match d.nodeAt? place with
      | none => return some []
      | some n =>
        let size := match n.content with
          | .file bytes => bytes.length
          | _ => 4096
        let kind := match n.content with
          | .directory => 0o040000
          | _ => 0o100000
        let changed : Int := n.changed / Calendar.second
        return some ([1, 1, kind + n.mode, d.linkCount place, 0, 0, 0, size].map Value.ofNat
          ++ [changed, changed, changed, 4096, ((size + 511) / 512 : Nat)].map Value.whole)
  | "umask" => one (.ofNat (← outside get).disk.mask)
  | "wait" | "waitpid" => one (.whole (-1))
  | _ => return none

/-- A word called with what stands behind it. -/
def callWord (l : Launcher) (run : Runner) (wantsList : Bool) (name : String) (args : List Expr) : Work (List Value) := do
  let isGiven := match args with
    | [] | [.list []] => false
    | _ => true
  let first : Expr := args.headD (.list [])
  let value (n : Nat) : Work Value := do
    match args[n]? with
    | some e => valueOf run e
    | none => return .missing
  match ← listWord? run wantsList name args with
  | some vs => return vs
  | none =>
  match ← systemWord? l run wantsList name args with
  | some vs => return vs
  | none =>
  match name with
  | "die" =>
    let v ← match ← valuesOf run args with
      | [.refer kind id] => pure (Value.refer kind id)
      | vs => do pure (.text (← complaintOf vs "Died"))
    match ← hook? "__DIE__" with
    | some code =>
      let _ ← callCode run false code [← newCell v]
    | none => pure ()
    throw (.died v)
  | "warn" =>
    let text ← complaintOf (← valuesOf run args) "Warning: something's wrong"
    match ← hook? "__WARN__" with
    | some code =>
      let _ ← callCode run false code [← newCell (.text text)]
    | none => complain text
    return [.whole 1]
  | "exit" =>
    let n ← if isGiven then pure (← value 0).toInt else pure 0
    throw (.exit (n % 256).toNat)
  | "index" =>
    let (s, part) := (← textOf (← value 0), ← textOf (← value 1))
    let start ← if args.length < 3 then pure 0 else pure (min (← value 2).toNat s.length)
    return [placeOf (indexOf? part (s.length + 2) start (s.drop start))]
  | "rindex" =>
    let (s, part) := (← textOf (← value 0), ← textOf (← value 1))
    let last ← if args.length < 3 then pure (s.length : Int) else pure (← value 2).toInt
    let found := ((List.range (s.length + 1)).filter fun (i : Nat) => (i : Int) ≤ last && part.isPrefixOf (s.drop i)).getLast?
    return [placeOf found]
  | "substr" =>
    let s ← textOf (← value 0)
    let start := (← value 1).toInt
    let length ← if args.length < 3 then pure none else do
      match ← value 2 with
      | .missing => pure none
      | v => pure (some v.toInt)
    match partBounds? s.length start length with
    | none => return [.missing]
    | some (low, high) =>
      if args.length = 4 then
        let new ← textOf (← value 3)
        match (← cellsIn run first).head? with
        | some id => setCell id (.text (s.take low ++ new ++ s.drop high))
        | none => pure ()
      return [.text ((s.drop low).take (high - low))]
  | "atan2" => return [.real (Float.atan2 (← value 0).toFloat (← value 1).toFloat)]
  | "sqrt" =>
    let v ← if isGiven then value 0 else cell (← globalOf topic)
    if v.toFloat < 0 then die ("Can't take sqrt of ".toList ++ (← textOf v.toNumber))
    return [.real (Float.sqrt v.toFloat)]
  | "log" =>
    let v ← if isGiven then value 0 else cell (← globalOf topic)
    if v.toFloat ≤ 0 then die ("Can't take log of ".toList ++ (← textOf v.toNumber))
    return [.real (Float.log v.toFloat)]
  | "rand" =>
    let most ← if isGiven then pure (← value 0).toFloat else pure 1
    return [.real ((← chance) * (if most == 0 then 1 else most))]
  | "srand" =>
    let seed := (← value 0).toNat
    modify fun s => { s with seed }
    return [.ofNat seed]
  | "__LINE__" => return [← value 0]
  | "__FILE__" => return [.text (← get).file]
  | "__PACKAGE__" => return [.text "main".toList]
  | "require" | "lock" | "bless" => return [.whole 1]
  | "caller" =>
    let s ← get
    return if s.inFunction then [.text "main".toList, .text s.file, .ofNat s.line] else []
  | name =>
    let v ← if isGiven then value 0 else cell (← globalOf topic)
    if !(["length", "ref", "lock", "study"].contains name) then
      noteMissing run name (if isGiven then first else .variable_ topic) v
    match simpleWord? name v (← textOf v) with
    | some v => return [v]
    | none => return [.missing]

end DiagramStudio.Script.Perl
