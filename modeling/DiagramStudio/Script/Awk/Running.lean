import DiagramStudio.Script.Calendar
import DiagramStudio.Script.Awk.Grammar
import DiagramStudio.Script.Awk.State

/-!
Programs that go through lines carried out.
-/

namespace DiagramStudio.Script.Awk

open Work

/-- What can be carried out: an expression for its value, or a statement. -/
inductive Node where
  | value (e : Expr)
  | statement (s : Statement)
deriving Inhabited

/-- What carries out what stands within something. -/
abbrev Self := Node → Work Value

/-! ## Expressions -/

/-- The text that an expression searches for. -/
def patternOf (self : Self) (e : Expr) : Work Regular := do
  match e with
  | .regex s => return regexOf s
  | .group [.regex s] => return regexOf s
  | e => return regexOf (← textOf (← self (.value e)))

def power (x y : Float) : Float := Float.pow x y

/-- What is left of a division, with the sign of what is divided. -/
def remainder (x y : Float) : Float :=
  match whole? x, whole? y with
  | some a, some b => if b = 0 then 0 / 0 else if a < 0 ∧ a.tmod b = 0 then 0 else Float.ofInt (a.tmod b)
  | _, _ =>
    let q := x / y
    let whole := if q < 0 then Float.ceil q else Float.floor q
    if y == 0 then 0 / 0 else if whole.isInf then (if y.isInf then x else 0) else x - whole * y

def calculated (op : Arithmetic) (x y : Float) : Float :=
  match op with
  | .add => x + y
  | .subtract => x - y
  | .multiply => x * y
  | .divide => x / y
  | .remainder => remainder x y
  | .power => power x y

def holds (op : Comparison) (o : Ordering) : Bool :=
  match op with
  | .less => o == .lt
  | .lessEqual => o != .gt
  | .equal => o == .eq
  | .notEqual => o != .eq
  | .greater => o == .gt
  | .greaterEqual => o != .lt

def values (self : Self) (es : List Expr) : Work (List Value) := es.mapM fun e => self (.value e)

/-- A value put where an expression names it. -/
def assignTo (self : Self) (target : Expr) (v : Value) : Work Unit := do
  match target with
  | .variable_ name => setValue name v
  | .item name indexes =>
    let i ← indexOf (← values self indexes)
    let n ← tableOf name
    setTable n ((← table n).put i v)
  | .field place =>
    let n ← fieldPlace (← self (.value place)).toNumber
    setField n v
  | .group [inner] =>
    match inner with
    | .variable_ name => setValue name v
    | _ => return
  | _ => return

/-- A line is what an expression names, or the record. -/
def takeLine (self : Self) (target : Option Expr) (line : List Char) : Work Unit := do
  match target with
  | some e => assignTo self e (.input line)
  | none => setRecord (.input line)

/-- The format and the values of a call filled in. -/
def filledIn (caller : String) (args : List Value) : Work (List Char) := do
  match args with
  | [] => fault ("no format in ".toList ++ caller.toList)
  | f :: rest =>
    let inner ← innerFormat
    let format ← textOf f
    let (out, problem) := formatted (format.length + 1) 1 format (rest.map (Value.shownBy inner))
    match problem with
    | none => return out
    | some problem =>
      let place := caller.toList ++ "(\"".toList ++ format ++ "\")".toList
      if caller = "printf" then modify fun s => { s with pending := out :: s.pending }
      match problem with
      | .tooFew => fault ("not enough arguments passed to ".toList ++ place)
      | .improper n => fault ("improper conversion(number ".toList ++ (toString n).toList ++ ") in ".toList ++ place)

/-- The part of a text from a place on, counted from one; places in front of the text count as well. -/
def part (s : List Char) (start : Float) (length : Option Float) : List Char :=
  let low := truncated (Float.round start)
  let rest := s.drop (max low 1 - 1).toNat
  match length with
  | none => rest
  | some n => rest.take (max (truncated (Float.round n) + min (low - 1) 0) 0).toNat

/-- The next number of a row that looks like chance, and the number to go on with. -/
def chance (seed : Nat) : Float × Nat :=
  let next := (seed * 6364136223846793005 + 1442695040888963407) % 2 ^ 64
  (Float.ofNat (next / 2 ^ 11) / Float.ofNat (2 ^ 53), next)

/-- Something of the language called by its name. -/
def callBuiltin (shell : Shelled) (self : Self) (name : String) (args : List Expr) : Work Value := do
  let value (n : Nat) : Work Value := do
    match args[n]? with
    | some e => self (.value e)
    | none => return .missing
  let text (n : Nat) : Work (List Char) := do textOf (← value n)
  let number (n : Nat) : Work Float := return (← value n).toNumber
  let real (x : Float) : Work Value := return .number x
  let replace (all : Bool) : Work Value := do
    let e ← match args[0]? with
      | some e => patternOf self e
      | none => pure .empty
    let by_ ← text 1
    let target := args.getD 2 (.field (.number 0))
    let s ← textOf (← self (.value target))
    let (out, n) := replaced e s.toArray by_ all (s.length + 2) 0 false
    if 0 < n then assignTo self target (.text out)
    return .ofNat n
  match name with
  | "length" =>
    match args with
    | [] => return .ofNat (← textOf (← get).record.whole).length
    | [.variable_ table_] =>
      match ← slotOf table_ with
      | .table n => return .ofNat (← table n).size
      | .fresh n => return .ofNat (← table n).size
      | _ => return .ofNat (← textOf (← valueOf table_)).length
    | _ => return .ofNat (← text 0).length
  | "sub" => replace false
  | "gsub" => replace true
  | "index" =>
    let (s, part) := (← text 0, ← text 1)
    match Text.cutAt? part s with
    | some (front, _) => return .ofNat (if s.isEmpty && part.isEmpty then 0 else front.length + 1)
    | none => return .number 0
  | "split" =>
    let s ← text 0
    let sep ← match args.drop 2 with
      | [] => separator
      | .regex e :: _ => pure (Separator.regex (regexOf e))
      | e :: _ => do
        let given ← self (.value e)
        pure (Separator.ofText (← textOf given))
    match args.drop 1 with
    | .variable_ name :: _ =>
      let n ← tableOf name
      let parts := sep.cut false s
      setTable n (Table.ofParts parts)
      return .ofNat parts.length
    | _ => return .number 0
  | "substr" =>
    let s ← text 0
    let start ← number 1
    let length ← if args.length < 3 then pure none else pure (some (← number 2))
    return .text (part s start length)
  | "sprintf" => return .text (← filledIn "sprintf" (← values self args))
  | "sin" => real (Float.sin (← number 0))
  | "cos" => real (Float.cos (← number 0))
  | "atan2" => real (Float.atan2 (← number 0) (← number 1))
  | "exp" => real (Float.exp (← number 0))
  | "log" => real (Float.log (← number 0))
  | "sqrt" => real (Float.sqrt (← number 0))
  | "int" =>
    let x ← number 0
    real (if x < 0 then Float.ceil x else Float.floor x)
  | "rand" =>
    let (x, seed) := chance (← get).seed
    modify fun s => { s with seed }
    real x
  | "srand" =>
    let before := (← get).seed
    let seed ← if args.isEmpty then pure ((← outside get).disk.now / Calendar.second) else pure (truncated (← number 0))
    modify fun s => { s with seed := seed.toNat }
    return .ofNat before
  | "close" => return .ofInt (← close shell (← text 0))
  | "system" => return .ofNat (statusOf (← run shell (← text 0)))
  | "match" =>
    let s ← text 0
    let e ← match args[1]? with
      | some e => patternOf self e
      | none => pure .empty
    let (start, length) : Int × Int := match found? e s with
      | some (front, matched, _) => (front.length + 1, matched.length)
      | none => (0, -1)
    setGlobal "RSTART" (.ofInt start)
    setGlobal "RLENGTH" (.ofInt length)
    return .ofInt start
  | "tolower" => return .text ((← text 0).map Char.toLower)
  | "toupper" => return .text ((← text 0).map Char.toUpper)
  | "fflush" =>
    flushAll
    return .number 0
  | "systime" => return .ofInt ((← outside get).disk.now / Calendar.second)
  | "strftime" =>
    let format ← if args.isEmpty then pure "%c".toList else text 0
    let time ← if args.length < 2 then pure ((← outside get).disk.now / Calendar.second) else pure (truncated (← number 1))
    return .text (Calendar.format (time * Calendar.second) (format.length + 1) format)
  | "mktime" =>
    let parts := (Text.words isWhite (← text 0)).map fun w => truncated (numberFront w).1
    match parts with
    | year :: month :: day :: hour :: minute :: second :: _ =>
      return .ofInt (Timestamp.daysOf year month day * 86400 + hour * 3600 + minute * 60 + second)
    | _ => return .number (-1)
  | _ => return .missing

/-- The arguments of a call: names that have not been used yet may get to be tables. -/
def argumentOf (self : Self) (e : Expr) : Work Slot := do
  match e with
  | .variable_ name =>
    match ← slotOf name with
    | .table n => return .table n
    | .fresh n => return .fresh n
    | .scalar .missing =>
      if name = "NF".toList then return .scalar (← valueOf name)
      else
        let s ← get
        let n := s.nextTable
        set { s with nextTable := n + 1, tables := (n, Table.empty) :: s.tables }
        setSlot name (.fresh n)
        return .fresh n
    | .scalar _ => return .scalar (← valueOf name)
  | e => return .scalar (← self (.value e))

/-- A function called. -/
def callFunction (self : Self) (name : List Char) (args : List Expr) : Work Value := do
  match entryFor? name (← get).functions with
  | none => fault ("function ".toList ++ name ++ " never defined".toList)
  | some f =>
    let given ← args.mapM (argumentOf self)
    let s ← get
    if s.depth = 0 then fault "function call nesting too deep".toList
    let before := s.locals
    let locals := f.params.zipIdx.map fun (param, i) => (param, given.getD i (.scalar .missing))
    set { s with locals, depth := s.depth - 1 }
    let result ← tryCatch (do
        let _ ← self (.statement (.block f.body))
        return Value.missing) (fun stop => do
      match stop with
      | .returned v => return v
      | stop =>
        modify fun s => { s with locals := before, depth := s.depth + 1 }
        throw stop)
    modify fun s => { s with locals := before, depth := s.depth + 1 }
    return result

/-- The next line of what is known by a name: what is left of it is found and kept. -/
def lineFrom (text : List Char) : Work (Option (List Char × List Char)) := return cutRecord (← globalText "RS") text

/-- The value of an expression. -/
def evaluate (shell : Shelled) (self : Self) (e : Expr) : Work Value := do
  let value (e : Expr) : Work Value := self (.value e)
  let number (e : Expr) : Work Float := return (← value e).toNumber
  match e with
  | .number x => return .number x
  | .text s => return .text s
  | .regex s => return .ofBool (isFound (regexOf s) (← textOf (← get).record.whole))
  | .variable_ name => valueOf name
  | .item name indexes =>
    let i ← indexOf (← values self indexes)
    itemOf (← tableOf name) i
  | .field place => fieldAt (← fieldPlace (← number place))
  | .assign none target v =>
    let v ← value v
    assignTo self target v
    return v
  | .assign (some op) target v =>
    let y ← number v
    let x ← number target
    let v : Value := .number (calculated op x y)
    assignTo self target v
    return v
  | .choose test yes no => if (← value test).isTrue then value yes else value no
  | .both left right =>
    if (← value left).isTrue then return .ofBool (← value right).isTrue else return .ofBool false
  | .either left right =>
    if (← value left).isTrue then return .ofBool true else return .ofBool (← value right).isTrue
  | .not e => return .ofBool !(← value e).isTrue
  | .inside indexes name =>
    let i ← indexOf (← values self indexes)
    let n ← tableOf name
    let t ← table n
    setTable n (t.touched i)
    return .ofBool (t.has i)
  | .found negated subject pattern =>
    let s ← textOf (← value subject)
    return .ofBool (isFound (← patternOf self pattern) s != negated)
  | .arithmetic op left right =>
    let x ← number left
    return .number (calculated op x (← number right))
  | .compare op left right =>
    let x ← value left
    let y ← value right
    return .ofBool (holds op (x.compare (← innerFormat) y))
  | .joined left right =>
    let s ← textOf (← value left)
    return .text (s ++ (← textOf (← value right)))
  | .negative e => return .number (-(← number e))
  | .positive e => return .number (← number e)
  | .step before up target =>
    let x ← number target
    let next := if up then x + 1 else x - 1
    assignTo self target (.number next)
    return .number (if before then next else x)
  | .builtin name args => callBuiltin shell self name args
  | .call name args => callFunction self name args
  | .group [e] => value e
  | .group parts => return .text ((← globalText "SUBSEP").intercalate (← (← values self parts).mapM textOf))
  | .line target =>
    match ← nextRecord fileMax with
    | none => return .number 0
    | some line =>
      takeLine self target line
      return .number 1
  | .lineOfFile target path =>
    let name ← textOf (← value path)
    let s ← get
    let opened : Option (List Char) ← match entryFor? name s.files with
      | some rest => pure (some rest)
      | none =>
        if name = ['-'] ∨ name = "/dev/stdin".toList then pure (some (← outside (Shell.wholeInput 0)))
        else pure (((← outside get).disk.read (pathOf name)).toOption.map charsOf)
    match opened with
    | none => return .number (-1)
    | some text =>
      match ← lineFrom text with
      | none =>
        modify fun s => { s with files := withEntry name [] s.files }
        return .number 0
      | some (line, rest) =>
        modify fun s => { s with files := withEntry name rest s.files }
        takeLine self target line
        return .number 1
  | .lineOfCommand target command =>
    let name ← textOf (← value command)
    let (text, status) ← match (← get).commands.find? (·.1 == name) with
      | some (_, rest, status) => pure (rest, status)
      | none => outputOf shell name
    let keep (rest : List Char) : Work Unit := modify fun s =>
      { s with commands := (name, rest, status) :: s.commands.filter (·.1 != name) }
    match ← lineFrom text with
    | none =>
      keep []
      return .number 0
    | some (line, rest) =>
      keep rest
      takeLine self target line
      return .number 1

/-! ## Statements -/

/-- Others may go on from time to time. -/
def breathe (count : Nat) : Work Unit := if count % 256 = 0 then outside (Act.rest 0) else return

/-- A loop: its body, and what comes after each time, while a test holds. Every unit of fuel pays for a round. -/
def rounds (test : Work Bool) (body after : Work Unit) : Nat → Work Unit
  | 0 => return
  | fuel + 1 => do
    breathe fuel
    if ← test then
      let goes ← tryCatch (do
          body
          return true) (fun stop => do
        match stop with
        | .continued => return true
        | .broken => return false
        | stop => throw stop)
      if goes then
        after
        rounds test body after fuel

/-- How many rounds a loop can have. -/
def roundMax : Nat := 10 ^ 7

/-- A body for each key of a table. -/
def eachKey (name : List Char) (body : Work Unit) : List (List Char) → Work Unit
  | [] => return
  | key :: more => do
    setValue name (.input key)
    let goes ← tryCatch (do
        body
        return true) (fun stop => do
      match stop with
      | .continued => return true
      | .broken => return false
      | stop => throw stop)
    if goes then eachKey name body more

/-- A text as it is printed. -/
def outputText (v : Value) : Work (List Char) := do
  match v with
  | .number x => return numeral (← globalText "OFMT") x
  | v => textOf v

/-- A statement carried out. -/
def perform (self : Self) (s : Statement) : Work Unit := do
  let value (e : Expr) : Work Value := self (.value e)
  let act (s : Statement) : Work Unit := do
    let _ ← self (.statement s)
  let holds_ (e : Expr) : Work Bool := return (← value e).isTrue
  match s with
  | .expr e =>
    let _ ← value e
  | .print isFormat args goal =>
    let found ← values self args
    let text ← if isFormat then filledIn "printf" found
      else do
        let parts ← if args.isEmpty then pure [← textOf (← get).record.whole] else found.mapM outputText
        pure ((← globalText "OFS").intercalate parts ++ (← globalText "ORS"))
    match goal with
    | none => modify fun s => { s with pending := text :: s.pending }
    | some (kind, path) =>
      let name ← textOf (← value path)
      send kind name text
  | .if_ test yes no =>
    if ← holds_ test then act yes
    else
      match no with
      | some s => act s
      | none => return
  | .while_ test body => rounds (holds_ test) (act body) (return) roundMax
  | .repeat_ body test =>
    let goes ← tryCatch (do
        act body
        return true) (fun stop => do
      match stop with
      | .continued => return true
      | .broken => return false
      | stop => throw stop)
    if goes then rounds (holds_ test) (act body) (return) roundMax
  | .for_ first test next body =>
    match first with
    | some s => act s
    | none => pure ()
    let condition : Work Bool := match test with
      | some e => holds_ e
      | none => return true
    let after : Work Unit := match next with
      | some s => act s
      | none => return
    rounds condition (act body) after roundMax
  | .each name table_ body =>
    let n ← tableOf table_
    let t ← table n
    setTable n t.listed
    eachKey name (act body) t.keys
  | .block body =>
    for s in body do
      act s
  | .next => quit .next
  | .nextFile => quit .nextFile
  | .exit status =>
    match status with
    | some e =>
      let n := truncated (← value e).toNumber
      modify fun s => { s with status := (n % 256).toNat }
    | none => pure ()
    quit .exit
  | .return_ e =>
    match e with
    | some e =>
      let v ← value e
      quit (.returned v)
    | none => quit (.returned .missing)
  | .break_ => quit .broken
  | .continue_ => quit .continued
  | .delete table_ indexes =>
    let n ← tableOf table_
    match indexes with
    | none => setTable n Table.empty
    | some es =>
      let i ← indexOf (← values self es)
      setTable n ((← table n).remove i)

/-- An expression or a statement carried out. Every unit of fuel pays for one around. -/
def runNode (shell : Shelled) : Nat → Self
  | 0, _ => fault "program too deep".toList
  | fuel + 1, .value e => evaluate shell (runNode shell fuel) e
  | fuel + 1, .statement s => do
    perform (runNode shell fuel) s
    return .missing

/-! ## Programs -/

/-- How deep programs can go. -/
def depthFuel : Nat := 10 ^ 6

/-- A rule for the record, if its occasion is there. `n` is the number of the rule. -/
def applyRule (self : Self) (n : Nat) (rule : Rule) : Work Unit := do
  let isTrue (e : Expr) : Work Bool := return (← self (.value e)).isTrue
  let applies ← match rule.occasion with
    | .first | .last => pure false
    | .always => pure true
    | .where_ e => isTrue e
    | .range start finish =>
      let entered ← if (← get).ranges.contains n then pure true else isTrue start
      if entered then
        if ← isTrue finish then modify fun s => { s with ranges := s.ranges.filter (· != n) }
        else modify fun s => { s with ranges := n :: s.ranges.filter (· != n) }
      pure entered
  if applies then
    let body := rule.body.getD [.print false [] none]
    let _ ← self (.statement (.block body))

def applyRules (self : Self) : List (Rule × Nat) → Work Unit
  | [] => return
  | (rule, n) :: more => do
    applyRule self n rule
    applyRules self more

/-- All records, one after another. Every unit of fuel pays for one. -/
def records (self : Self) (rules : List (Rule × Nat)) : Nat → Work Unit
  | 0 => return
  | fuel + 1 => do
    breathe fuel
    match ← nextRecord fileMax with
    | none => return
    | some line =>
      setRecord (.input line)
      tryCatch (applyRules self rules) (fun stop => do
        match stop with
        | .next => return
        | .nextFile => modify fun s => { s with input := none }
        | stop => throw stop)
      records self rules fuel

/-- The whole of a program. -/
def whole (shell : Shelled) (p : Program) : Work Unit := do
  let self := runNode shell depthFuel
  let bodies (pick : Occasion → Bool) : List (List Statement) :=
    (p.rules.filter fun r => pick r.occasion).filterMap (·.body)
  let firsts := bodies fun o => match o with
    | .first => true
    | _ => false
  let lasts := bodies fun o => match o with
    | .last => true
    | _ => false
  let rules := (p.rules.filter fun r => match r.occasion with
    | .first | .last => false
    | _ => true).zipIdx
  let untilExit (act : Work Unit) : Work Bool := tryCatch (do
      act
      return true) (fun stop => do
    match stop with
    | .fault what => throw (.fault what)
    | _ => return false)
  let goes ← untilExit do
    for body in firsts do
      let _ ← self (.statement (.block body))
  let goes ← if goes && !(rules.isEmpty && lasts.isEmpty) then untilExit (records self rules roundMax) else pure goes
  let _ := goes
  let _ ← untilExit do
    for body in lasts do
      let _ ← self (.statement (.block body))

/-! ## The program itself -/

/-- What a call asks for. -/
structure Setup where
  separator? : Option (List Char)
  settings : List (List Char × List Char)
  files : List (List Char)
  /-- Words behind the options. -/
  words : List (List Char)

/-- The options of a call; or what is said of them. Every unit of fuel pays for a word. -/
def Setup.read : Nat → List (List Char) → Setup → Except (List Char) Setup
  | 0, _, s => .ok s
  | fuel + 1, args, s =>
    let lacking (letter : Char) : Except (List Char) Setup := .error ("option -".toList ++ letter :: " lacks argument".toList)
    let valued (letter : Char) (value : List Char) (rest : List (List Char)) : Except (List Char) Setup :=
      match letter with
      | 'F' => Setup.read fuel rest { s with separator? := some value }
      | 'f' => Setup.read fuel rest { s with files := s.files ++ [value] }
      | 'v' =>
        match Work.assignment? value with
        | some setting => Setup.read fuel rest { s with settings := s.settings ++ [setting] }
        | none => .error ("improper assignment: -v ".toList ++ value)
      | _ => Setup.read fuel rest s
    match args with
    | [] => .ok { s with words := [] }
    | ['-', '-'] :: rest => .ok { s with words := rest }
    | ['-'] :: rest => .ok { s with words := ['-'] :: rest }
    | ('-' :: letter :: value) :: rest =>
      if letter = 'F' ∨ letter = 'f' ∨ letter = 'v' ∨ letter = 'W' then
        match value, rest with
        | [], [] => lacking letter
        | [], next :: rest => valued letter next rest
        | value, rest => valued letter value rest
      else .error ("not an option: -".toList ++ letter :: value)
    | words => .ok { s with words }

/-- The variables that a program begins with. -/
def firstGlobals : List (List Char × Slot) :=
  [("NF", Value.number 0), ("NR", .number 0), ("FNR", .number 0), ("FS", .text [' ']), ("OFS", .text [' ']),
    ("ORS", .text ['\n']), ("RS", .text ['\n']), ("FILENAME", .missing), ("SUBSEP", .text ['\x1c']), ("RSTART", .number 0),
    ("RLENGTH", .number (-1)), ("CONVFMT", .text "%.6g".toList), ("OFMT", .text "%.6g".toList)].map
    fun (name, v) => (name.toList, .scalar v)

/-- The state in which a program begins. -/
def firstState (name : List Char) (p : Program) (s : Setup) (words : List (List Char))
    (told : List (List Char × List Char)) : State :=
  let args := name :: words
  let table (entries : List (List Char × List Char)) : Table :=
    entries.foldl (fun t (key, value) => t.put ⟨key, none⟩ (.input value)) Table.empty
  let argTable := (args.zipIdx).foldl (fun (t : Table) (word, i) =>
    t.put ⟨(toString i).toList, some (i : Int)⟩ (.input word)) Table.empty
  let sep := match s.separator? with
    | some value => [("FS".toList, Slot.scalar (.text (Work.unescaped (value.length + 1) value)))]
    | none => []
  let entries := firstGlobals ++ [("ARGC".toList, .scalar (.ofNat args.length)), ("ARGV".toList, .table 0),
    ("ENVIRON".toList, .table 1)]
  let settings := s.settings.map fun (name, value) => (name, Slot.scalar (.input value))
  { functions := p.functions
    globals := (sep ++ settings).foldl (fun all (name, slot) => withEntry name slot all) entries
    locals := [], tables := [(0, argTable), (1, table told)], nextTable := 2
    record := ⟨.input [], none⟩, pending := [], outlets := [], files := [], commands := [], input := none, nextWord := 1
    anyFile := false, ranges := [], seed := 0, status := 0, depth := 1000 }

/-- A program that goes through lines is carried out. -/
def awk (shell : Shelled) (name : List Char) (told : List (List Char × List Char)) (args : List (List Char)) :
    Act Unit := do
  let fail (what : List Char) : Act Unit := modify fun m =>
    { m.emit 2 ("mawk: ".toList ++ what ++ ['\n']) with status := 2 }
  match Setup.read (args.length + 1) args ⟨none, [], [], []⟩ with
  | .error what => fail what
  | .ok s =>
    let m ← get
    let isInput (path : List Char) : Bool := path == ['-'] || path == "/dev/stdin".toList
    let input ← if s.files.any isInput then Shell.wholeInput 0 else pure []
    let texts : Except (List Char) (List (List Char)) := s.files.mapM fun path =>
      if isInput path then .ok input
      else
        match m.disk.read (pathOf path) with
        | .ok bytes => .ok (charsOf bytes)
        | .error fault => .error ("cannot open \"".toList ++ path ++ "\" (".toList ++ fault.text.toList ++ [')'])
    match texts, s.files, s.words with
    | .error what, _, _ => fail what
    | .ok _, [], [] =>
      modify fun m => { m.emit 2 "Usage: mawk [Options] [Program] [file ...]\n".toList with status := 2 }
    | .ok texts, files, words =>
      let (body, words) := if files.isEmpty then (words.headD [], words.tail) else (['\n'].intercalate texts, words)
      match Program.read body with
      | .error fault => fail fault.message
      | .ok p =>
        let all : Work Unit := do
          whole shell p
          closeAll shell
        let start := firstState name p s words told
        let (result, after) ← StateT.run (ExceptT.run all) start
        match result with
        | .error (.fault what) =>
          fail what
          let _ ← StateT.run (ExceptT.run (closeAll shell)) after
          modify fun m => { m with status := 2 }
        | _ => modify fun m => { m with status := after.status }

end DiagramStudio.Script.Awk
