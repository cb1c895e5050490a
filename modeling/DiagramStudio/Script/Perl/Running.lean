import DiagramStudio.Script.Perl.Calls

/-!
Programs in Perl carried out: expressions for one value or for many, patterns that are searched for, and statements.
-/

namespace DiagramStudio.Script.Perl

open Work

/-! ## Patterns -/

/-- The cell that a pattern is searched for in. -/
def targetCell (run : Runner) (target : Option Expr) : Work Nat := do
  match target with
  | some e => cellOf run e
  | none => slotOf topic

/-- A pattern searched for. -/
def search (run : Runner) (wantsList : Bool) (target : Option Expr) (pattern : List Piece) (letters : Letters) :
    Work (List Value) := do
  let id ← targetCell run target
  let e ← patternIn run pattern letters
  noteMissing run "pattern match (m//)" (target.getD (.variable_ topic)) (← cell id)
  let text ← textOf (← cell id)
  let chars := text.toArray
  let keep (m : Matched) : Work Unit := modify fun s => { s with matched := some m }
  if letters.contains 'g' then
    let start := (entryFor? id (← get).positions).getD 0
    if wantsList then
      let found := findAll e text chars (chars.size + 2) start
      match found.getLast? with
      | some m => keep m
      | none => pure ()
      modify fun s => { s with positions := withoutEntry id s.positions }
      return found.flatMap fun m => if m.count = 0 then [.text m.whole] else m.values
    else
      match if chars.size < start then none else find e text chars start with
      | some m =>
        let m? := if m.high = m.low ∧ m.high = start ∧ 0 < start then find e text chars (start + 1) else some m
        match m? with
        | some m =>
          keep m
          modify fun s => { s with positions := withEntry id m.high s.positions }
          return [.ofBool true]
        | none =>
          modify fun s => { s with positions := withoutEntry id s.positions }
          return [.ofBool false]
      | none =>
        if !letters.contains 'c' then modify fun s => { s with positions := withoutEntry id s.positions }
        return [.ofBool false]
  else
    match find e text chars 0 with
    | none => return if wantsList then [] else [.ofBool false]
    | some m =>
      keep m
      return if wantsList then (if m.count = 0 then [.whole 1] else m.values) else [.ofBool true]

/-- The text with what stands in place of matches, and how many there were. Every unit of fuel pays for one. -/
def replacedFrom (fill : Work (List Char)) (e : Expression.Named) (all : Bool) (text : List Char) (chars : Array Char) :
    Nat → (from_ low : Nat) → Work (List Char × Nat)
  | 0, from_, _ => return (text.drop from_, 0)
  | fuel + 1, from_, low => do
    match if chars.size < low then none else find e text chars low with
    | none => return (text.drop from_, 0)
    | some m =>
      modify fun s => { s with matched := some m }
      let new ← fill
      let front := (text.drop from_).take (m.low - from_) ++ new
      if all then
        let next := if m.high = m.low then m.high + 1 else m.high
        let kept := (text.drop m.high).take (next - m.high)
        let (more, n) ← replacedFrom fill e all text chars fuel (min next text.length) next
        return (front ++ kept ++ more, n + 1)
      else return (front ++ text.drop m.high, 1)

def substitute (run : Runner) (target : Option Expr) (pattern : List Piece) (replacement : Expr) (letters : Letters) :
    Work (List Value) := do
  let id ← targetCell run target
  let e ← patternIn run pattern (letters.filter (· != 'e'))
  noteMissing run "substitution (s///)" (target.getD (.variable_ topic)) (← cell id)
  let text ← textOf (← cell id)
  let chars := text.toArray
  let fill : Work (List Char) := match replacement with
    | .block body => enclosed do
      textOf (((← run (.body false body)).getLast?).getD .missing)
    | replacement => textIn run replacement
  let (out, n) ← replacedFrom fill e (letters.contains 'g') text chars (chars.size + 2) 0 0
  if letters.contains 'r' then return [.text out]
  else
    if 0 < n then setCell id (.text out)
    return [if n = 0 then .ofBool false else .ofNat n]

/-! ## Lists in order -/

/-- Two ordered lists as one. Every unit of fuel pays for a value. -/
def merged (precedes : Nat → Nat → Work Bool) : Nat → List Nat → List Nat → Work (List Nat)
  | 0, xs, ys => return xs ++ ys
  | _ + 1, [], ys => return ys
  | _ + 1, xs, [] => return xs
  | fuel + 1, x :: xs, y :: ys => do
    if ← precedes y x then return y :: (← merged precedes fuel (x :: xs) ys)
    else return x :: (← merged precedes fuel xs (y :: ys))

/-- A list in order; what is equal stays as it is. Every unit of fuel halves it once. -/
def ordered (precedes : Nat → Nat → Work Bool) : Nat → List Nat → Work (List Nat)
  | 0, xs => return xs
  | fuel + 1, xs => do
    if xs.length < 2 then return xs
    else
      let half := xs.length / 2
      let front ← ordered precedes fuel (xs.take half)
      let back ← ordered precedes fuel (xs.drop half)
      merged precedes (xs.length + 1) front back

/-- Names of everything for a while. -/
def withGlobals {α : Type} (vars : List Variable) (act : Work α) : Work α := do
  let before ← vars.mapM globalOf
  let leave : Work Unit := do
    for (v, id) in vars.zip before do
      bindGlobal v id
  let result ← tryCatch act fun stop => do
    leave
    throw stop
  leave
  return result

def sortedCells (run : Runner) (order : Option Expr) (ids : List Nat) : Work (List Nat) := do
  match order with
  | none =>
    let texts ← ids.mapM fun id => do return (← textOf (← cell id), id)
    return (texts.mergeSort fun x y => compare x.1 y.1 != .gt).map (·.2)
  | some order =>
    let (a, b) : Variable × Variable := (⟨'$', ['a']⟩, ⟨'$', ['b']⟩)
    withGlobals [a, b] do
      let precedes (x y : Nat) : Work Bool := do
        bindGlobal a x
        bindGlobal b y
        let v ← match order with
          | .block body => do
            pure (((← enclosed (run (.body false body))).getLast?).getD .missing)
          | order => valueOf run order
        return v.toInt < 0 || v.toFloat < 0
      ordered precedes (ids.length + 1) ids

/-- What is done for each value of a list. -/
def bodyValues (run : Runner) (wantsList : Bool) (body : Expr) : Work (List Value) :=
  match body with
  | .block body => enclosed (run (.body wantsList body))
  | e => run (.value wantsList e)

def through (run : Runner) (wantsList : Bool) (kind : String) (body : Expr) (list : List Expr) : Work (List Value) := do
  let ids := (← list.mapM (cellsIn run)).flatten
  let test (id : Nat) : Work Bool := do
    bindGlobal topic id
    return (((← bodyValues run false body).getLast?).getD .missing).isTrue
  let many (vs : List Value) : List Value := if wantsList then vs else [.ofNat vs.length]
  withGlobals [topic] do
    match kind with
    | "map" =>
      let found ← ids.mapM fun id => do
        bindGlobal topic id
        bodyValues run true body
      return many found.flatten
    | "grep" => return many (← (← ids.filterM test).mapM cell)
    | "first" =>
      match ← ids.findM? test with
      | some id => return [← cell id]
      | none => return [.missing]
    | "any" => return [.ofBool (← ids.anyM test)]
    | "all" => return [.ofBool (← ids.allM test)]
    | "none" => return [.ofBool !(← ids.anyM test)]
    | _ =>
      let (a, b) : Variable × Variable := (⟨'$', ['a']⟩, ⟨'$', ['b']⟩)
      match ids with
      | [] => return [.missing]
      | id :: more =>
        withGlobals [a, b] do
          let last ← more.foldlM (fun acc id => do
            bindGlobal a acc
            bindGlobal b id
            newCell (((← bodyValues run false body).getLast?).getD .missing)) id
          return [← cell last]

/-! ## Output -/

def print (run : Runner) (kind : String) (target : Option Expr) (args : List Expr) : Work (List Value) := do
  let n? ← match target with
    | none => do
      pure (some (← get).chosen)
    | some (.block body) => do
      handleOf (((← enclosed (run (.body false body))).getLast?).getD .missing)
    | some e => handleIn run e
  let args := if args.isEmpty then [.variable_ topic] else args
  let vs ← notedValues run kind args
  match n? with
  | none => return [.ofBool false]
  | some n =>
    if kind = "printf" then return [.ofBool (← send n (← formatIn vs))]
    else
      let texts ← vs.mapM textOf
      let text := (← textOf (← global ",")).intercalate texts
      let text := text ++ (← textOf (← global "\\")) ++ (if kind = "say" then ['\n'] else [])
      return [.ofBool (← send n text)]

/-! ## Expressions -/

/-- A variable's value that is computed. -/
def computedValue (name : List Char) : Work Value := do
  let s ← get
  match name with
  | ['$'] => return .ofNat (← outside get).process
  | ['.'] =>
    match s.lastRead.bind fun n => s.handles[n]? with
    | some h => return .ofNat h.lines
    | none => return .missing
  | name => return (matchedValue? name s.matched).getD .missing

/-- The words of a text, which may be patterns for names of files. -/
def namesFor (text : List Char) : Work (List Value) := do
  let m ← outside get
  let words := Text.words Awk.isGap text
  return words.flatMap fun w =>
    let isPattern := w.any fun c => c == '*' || c == '?' || c == '['
    let found := globbed m (w.map fun c => (⟨c, false⟩ : Letter))
    if isPattern && found == [w] then [] else found.map Value.text

/-- Something assigned. -/
def assign (run : Runner) (wantsList : Bool) (op : Option String) (target value : Expr) : Work (List Value) := do
  match op with
  | none =>
    match target with
    | .builtin "substr" args =>
      let v ← valueOf run value
      let length : Expr := .builtin "length" (args.take 1)
      let _ ← run (.value false (.builtin "substr" (args.take 3 ++ (if args.length < 3 then [length] else [])
        ++ [.text (← textOf v)])))
      return [v]
    | .lastOf a =>
      let v ← valueOf run value
      let n ← arrayIn run a
      let ids ← array n
      let size := (v.toInt + 1).toNat
      let more ← newCells (List.replicate (size - ids.size) .missing)
      setArray n ((ids ++ more.toArray).extract 0 size)
      return [v]
    | target =>
      if isListTarget target then
        let vs ← listOf run value
        fillList run target vs
        if wantsList then
          match target with
          | .declare .. => return vs
          | target => (← cellsIn run target).mapM cell
        else return [.ofNat vs.length]
      else
        let v ← valueOf run value
        let id ← cellOf run target
        setCell id v
        return [v]
  | some op =>
    match target with
    | .variable_ ⟨'@', _⟩ =>
      let n ← arrayIn run target
      let vs ← (← array n).toList.mapM cell
      if op = "x" then
        let times := (← valueOf run value).toNat
        fillArray n (List.replicate times vs).flatten
      return []
    | target =>
      let id ← cellOf run target
      let before ← cell id
      let short := match op with
        | "||" => before.isTrue
        | "&&" => !before.isTrue
        | "//" => before.isSet
        | _ => false
      if short then return [before]
      else
        let v ← valueOf run value
        let v ← if op = "||" ∨ op = "&&" ∨ op = "//" then pure v else do
          let lenient := ["+", "-", ".", "|", "^"].contains op
          noteOperands run op target value (if lenient && !before.isSet then .whole 0 else before) v
          computed op before v
        setCell id v
        return [v]

/-- The values of an expression; of one value there is one at most. -/
def evaluate (l : Launcher) (run : Runner) (wantsList : Bool) (e : Expr) : Work (List Value) := do
  let one (v : Value) : Work (List Value) := return [v]
  let spread (ids : List Nat) : Work (List Value) := do
    if wantsList then ids.mapM cell else return [.ofNat ids.length]
  match e with
  | .whole n => one (.ofInt n)
  | .real x => one (.real x)
  | .text s => one (.text s)
  | .filled parts => one (.text (← filledIn run parts))
  | .variable_ ⟨'$', name⟩ =>
    if isComputed name then one (← computedValue name) else one (← cell (← slotOf ⟨'$', name⟩))
  | .variable_ ⟨'@', name⟩ => spread (← array (← slotOf ⟨'@', name⟩)).toList
  | .variable_ ⟨'%', name⟩ =>
    let entries ← hash (← slotOf ⟨'%', name⟩)
    if wantsList then (← entryCells entries).mapM cell else one (.ofNat entries.length)
  | .variable_ _ => one .missing
  | .behind '@' inner =>
    match ← ledThere? run .array inner with
    | some id => spread (← array id).toList
    | none => spread []
  | .behind '%' inner =>
    let entries ← match ← ledThere? run .hash inner with
      | some id => hash id
      | none => pure []
    if wantsList then (← entryCells entries).mapM cell else one (.ofNat entries.length)
  | .behind _ inner => one (← cell (← behind run .scalar inner))
  | .item .. | .entry .. =>
    match ← cellThere? run e with
    | some id => one (← cell id)
    | none => one .missing
  | .items a list =>
    let ids ← array (← arrayIn run a)
    let found ← (← listOf run list).mapM fun i => do
      match (place? ids.size i.toInt).bind (ids[·]?) with
      | some id => cell id
      | none => return .missing
    return if wantsList then found else found.getLast?.toList
  | .entries h list =>
    let entries ← hash (← hashIn run h)
    let found ← (← listOf run list).mapM fun k => do
      match entryFor? (← textOf k) entries with
      | some id => cell id
      | none => return .missing
    return if wantsList then found else found.getLast?.toList
  | .picks list places =>
    let vs := (← listOf run list).toArray
    let found := (← listOf run places).map fun i => ((place? vs.size i.toInt).bind (vs[·]?)).getD .missing
    return if wantsList then (if vs.isEmpty then [] else found) else found.getLast?.toList
  | .lastOf a => one (.whole ((← array (← arrayIn run a)).size - 1))
  | .declare _ isList vars =>
    let ids ← cellsOf run e
    let isMany := isList || vars.any (·.sigil != '$')
    if isMany then return if wantsList then List.replicate ids.length .missing else [] else one .missing
  | .localized inner =>
    localize run inner
    return []
  | .assign op target value => assign run wantsList op target value
  | .binary "&&" left right | .binary "and" left right =>
    let v ← valueOf run left
    if v.isTrue then run (.value wantsList right) else one v
  | .binary "||" left right | .binary "or" left right =>
    let v ← valueOf run left
    if v.isTrue then one v else run (.value wantsList right)
  | .binary "//" left right =>
    let v ← valueOf run left
    if v.isSet then one v else run (.value wantsList right)
  | .binary "x" (.list parts) right =>
    if wantsList then
      let vs ← valuesOf run parts
      return (List.replicate (← valueOf run right).toNat vs).flatten
    else one (← computed "x" (← valueOf run (.list parts)) (← valueOf run right))
  | .binary op left right =>
    let a ← valueOf run left
    let b ← valueOf run right
    noteOperands run op left right a b
    one (← computed op a b)
  | .unary "!" inner => one (.ofBool !(← valueOf run inner).isTrue)
  | .unary "-" inner =>
    let v ← valueOf run inner
    noteMissing run "negation (-)" inner v
    one v.negate
  | .unary _ inner => one (.ofNat (2 ^ 64 - 1 - (← valueOf run inner).toBits))
  | .choose test yes no => run (.value wantsList (if (← valueOf run test).isTrue then yes else no))
  | .list parts =>
    if wantsList then valuesOf run parts
    else
      match parts.reverse with
      | [] => return []
      | last :: others =>
        for e in others.reverse do
          let _ ← run (.value false e)
        run (.value false last)
  | .arrayOf parts => one (.refer .array (← newArray (← newCells (← valuesOf run parts)).toArray))
  | .hashOf parts =>
    let n ← newHash []
    fillHash n (← valuesOf run parts)
    one (.refer .hash n)
  | .codeOf body =>
    let s ← get
    let id := s.codes.size
    modify fun s => { s with codes := s.codes.push ⟨"__ANON__".toList, body, s.known⟩ }
    one (.refer .code id)
  | .referTo inner =>
    match inner with
    | .variable_ ⟨'@', _⟩ | .behind '@' _ | .declare _ false [⟨'@', _⟩] => one (.refer .array (← arrayIn run inner))
    | .variable_ ⟨'%', _⟩ | .behind '%' _ | .declare _ false [⟨'%', _⟩] => one (.refer .hash (← hashIn run inner))
    | .call name [.variable_ ⟨'@', ['_']⟩] true =>
      match entryFor? name (← get).functions with
      | some id => one (.refer .code id)
      | none => one .missing
    | .list parts => return (← parts.mapM fun e => run (.value true (.referTo e))).flatten
    | inner => one (.refer .scalar (← cellOf run inner))
  | .step before up target =>
    let id ← cellOf run target
    let v ← cell id
    let next := if up then v.next else v.subtract (.whole 1)
    setCell id next
    one (if before then (if v.isSet then v else .whole 0) else next)
  | .range mark low high =>
    if wantsList then rangeOf (← valueOf run low) (← valueOf run high)
    else
      let holds (e : Expr) : Work Bool := do
        match e with
        | .whole n => return (← computedValue ['.']).toInt == n
        | e => return (← valueOf run e).isTrue
      let inside := (← get).entered.contains mark
      let begins ← if inside then pure true else holds low
      if begins then
        let ends ← holds high
        modify fun s => { s with entered := if ends then s.entered.filter (· != mark) else
          mark :: s.entered.filter (· != mark) }
      one (.ofBool begins)
  | .match_ target pattern letters => search run wantsList target pattern letters
  | .compiled pattern letters =>
    let text ← filledIn run pattern
    let p ← compile text letters
    let id := (← get).patterns.size
    modify fun s => { s with patterns := s.patterns.push (p, patternText text letters) }
    one (.refer .pattern id)
  | .substitute target pattern replacement letters => substitute run target pattern replacement letters
  | .translate target from_ to_ letters =>
    let id ← targetCell run target
    let text ← textOf (← cell id)
    let (out, n) := translated from_ to_ letters text
    if letters.contains 'r' then one (.text out)
    else
      if out ≠ text then setCell id (.text out)
      one (.ofNat n)
  | .call name [] false =>
    if (entryFor? name (← get).functions).isSome then callNamed run wantsList name [] else one (.text name)
  | .call name args _ => callNamed run wantsList name args
  | .callBehind inner args =>
    let v ← valueOf run inner
    match ← codeOf? v with
    | some code => callCode run wantsList code (← args.mapM (cellsIn run)).flatten
    | none =>
      match v with
      | .missing => die "Can't use an undefined value as a subroutine reference".toList
      | .refer .. => die "Not a CODE reference".toList
      | v => die ("Undefined subroutine &main::".toList ++ (← textOf v) ++ " called".toList)
  | .method object name args =>
    let v ← valueOf run object
    match ← handleOf v, String.ofList name with
    | some n, "print" | some n, "say" | some n, "printf" =>
      let vs ← valuesOf run args
      let text ← if name = "printf".toList then formatIn vs else do
        pure ((← vs.mapM textOf).flatten ++ (if name = "say".toList then ['\n'] else []))
      one (.ofBool (← send n text))
    | some n, "close" => one (.ofBool (← closeHandle l n))
    | some _, _ => one (.whole 1)
    | none, _ =>
      match v with
      | .missing => die ("Can't call method \"".toList ++ name ++ "\" on an undefined value".toList)
      | .refer .. => die ("Can't call method \"".toList ++ name ++ "\" on unblessed reference".toList)
      | v =>
        let package ← textOf v
        die ("Can't locate object method \"".toList ++ name ++ "\" via package \"".toList ++ package
          ++ "\" (perhaps you forgot to load \"".toList ++ package ++ "\"?)".toList)
  | .builtin "eval" args =>
    let text ← match args with
      | e :: _ => textIn run e
      | [] => textOf (← cell (← slotOf topic))
    let s ← get
    let manner : Manner := ⟨"(eval 1)".toList, 1, s.functions.map (·.1), false, []⟩
    match readProgram manner text with
    | .error fault =>
      setGlobal "@" (.text (fault.lines.map (· ++ ['\n'])).flatten)
      return if wantsList then [] else [.missing]
    | .ok body => run (.value wantsList (.trial body))
  | .builtin name args => callWord l run wantsList name args
  | .print kind target args => print run kind target args
  | .line target =>
    let n? ← match target with
      | none => pure (some filesHandle)
      | some e => handleIn run e
    match n? with
    | none => return if wantsList then [] else [.missing]
    | some n =>
      if n = Work.errors + 1 ∧ wantsList then return (← allLines n lineMax).map Value.text
      else if wantsList then return (← allLines n lineMax).map Value.text
      else
        match ← nextLine n with
        | some line => one (.text line)
        | none => one .missing
  | .names pattern => namesFor (← filledIn run pattern)
  | .sorted order list =>
    let ids := (← list.mapM (cellsIn run)).flatten
    (← sortedCells run order ids).mapM cell
  | .through kind body list => through run wantsList kind body list
  | .block body => enclosed (run (.body wantsList body))
  | .trial body =>
    let attempt : Work (List Value) := do
      let vs ← enclosed (run (.body wantsList body))
      setGlobal "@" (.text [])
      return vs
    let before ← get
    tryCatch attempt fun stop => do
      match stop with
      | .died v =>
        modify fun s => { s with known := before.known, depth := before.depth, inFunction := before.inFunction
                                 wantsList := before.wantsList }
        setGlobal "@" v
        return if wantsList then [] else [.missing]
      | stop => throw stop
  | .fileTest letter inner => one (← fileTest letter (← textIn run inner))
  | .command parts =>
    let (out, status) ← outputOf l (← filledIn run parts)
    setGlobal "?" (.whole status)
    match out with
    | none => return if wantsList then [] else [.missing]
    | some text =>
      if wantsList then
        let rec lines (fuel : Nat) (s : List Char) : List Value :=
          match fuel with
          | 0 => []
          | fuel + 1 =>
            match cutLine (some ['\n']) s with
            | some (line, rest) => .text line :: lines fuel rest
            | none => []
        return lines (text.length + 1) text
      else one (.text text)
  | .flow kind label => throw (.flow kind label)
  | .leave none => throw (.returned [])
  | .leave (some inner) =>
    let vs ← run (.value (← get).wantsList inner)
    throw (.returned vs)

/-! ## Statements -/

/-- A stop is for the loop with a label. -/
def isFor (label : List Char) (given : List Char) : Bool := given.isEmpty || given == label

/-- The body of a loop once; whether it goes on. -/
def round (label : List Char) (body : Work Unit) : Work Bool :=
  tryCatch (do
    body
    return true) fun stop => do
      match stop with
      | .flow "next" given => if isFor label given then return true else throw stop
      | .flow "last" given => if isFor label given then return false else throw stop
      | stop => throw stop

/-- Others may go on from time to time. -/
def breathe (count : Nat) : Work Unit := if count % 128 = 0 then outside (Act.rest 0) else return

/-- A loop while a test holds, with a step behind each time. Every unit of fuel pays for a round. -/
def rounds (label : List Char) (test : Work Bool) (body after : Work Unit) : Nat → Work Unit
  | 0 => return
  | fuel + 1 => do
    breathe fuel
    if ← test then
      if ← round label body then
        after
        rounds label test body after fuel

def roundMax : Nat := 10 ^ 8

/-- A body for each cell. -/
def eachCell (label : List Char) (bind : Nat → Work Unit) (body : Work Unit) : List Nat → Work Unit
  | [] => return
  | id :: more => do
    breathe id
    bind id
    if ← round label body then eachCell label bind body more

/-- The test of a loop: lines that are read are kept, and count if there are any. -/
def loopTest (test : Expr) : Expr :=
  let isReading : Expr → Bool
    | .line _ => true
    | .builtin "readline" _ | .builtin "readdir" _ | .builtin "shift" _ => true
    | _ => false
  match test with
  | .line _ => .builtin "defined" [.list [.assign none (.variable_ topic) test]]
  | .assign none target value =>
    if isReading value && !isListTarget target && !(match value with
        | .builtin "shift" _ => true
        | _ => false) then .builtin "defined" [.list [test]] else test
  | test => test

/-- A module is made use of. -/
def useModule (name : List Char) (names : List (List Char)) : Work Unit := do
  let short := String.ofList name
  if short = "strict" then modify fun s => { s with isStrict := true }
  else if short = "warnings" then modify fun s => { s with warns := true }
  else if ["POSIX", "MIME::Base64", "File::Basename"].contains short then
    modify fun s => { s with imported := moduleNames.map String.toList ++ s.imported }
  else modify fun s => { s with imported := names ++ s.imported }

/-- One statement; its values if it is the last one. -/
def perform (run : Runner) (wantsList : Bool) (st : Statement) : Work (List Value) := do
  let at_ (line : Nat) : Work Unit := modify fun s => if line = 0 then s else { s with line }
  let body (b : List Statement) : Work Unit := do
    let _ ← enclosed (run (.body false b))
  let isTrue (e : Expr) : Work Bool := return (← valueOf run e).isTrue
  match st with
  | .expr line e =>
    at_ line
    run (.value wantsList e)
  | .if_ line branches otherwise =>
    at_ line
    enclosed do
      let rec go (branches : List (Expr × List Statement)) : Work (List Value) := do
        match branches with
        | [] => enclosed (run (.body wantsList otherwise))
        | (test, b) :: more =>
          let v ← valueOf run test
          if v.isTrue then
            match b with
            | [.expr _ e] => run (.value wantsList e)
            | b => enclosed (run (.body wantsList b))
          else if more.isEmpty && otherwise.isEmpty then return [v] else go more
      go branches
  | .while_ line label until_ test b after =>
    enclosed do
      let holds : Work Bool := do
        at_ line
        match test with
        | none => return true
        | some e => return (← isTrue (loopTest e)) != until_
      rounds label holds (body b) (body after) roundMax
      return []
  | .for_ line label first test next b =>
    enclosed do
      at_ line
      match first with
      | some e =>
        let _ ← run (.value false e)
      | none => pure ()
      let holds : Work Bool := do
        at_ line
        match test with
        | none => return true
        | some e => isTrue (loopTest e)
      let after : Work Unit := do
        match next with
        | some e =>
          let _ ← run (.value false e)
        | none => return
      rounds label holds (body b) after roundMax
      return []
  | .each line label own v list b =>
    at_ line
    let ids ← cellsIn run list
    let b' : Work Unit := do
      match b with
      | [.expr _ e] =>
        at_ line
        let _ ← run (.value false e)
      | b => body b
    if own || (entryFor? v (← get).known).isSome then
      enclosed do
        let known := (← get).known
        eachCell label (fun id => modify fun s => { s with known := (v, id) :: known }) b' ids
    else withGlobals [v] (eachCell label (bindGlobal v) b' ids)
    return []
  | .block label b =>
    tryCatch (enclosed (run (.body wantsList b))) fun stop => do
      match stop with
      | .flow "next" given | .flow "last" given => if isFor label given then return [] else throw stop
      | stop => throw stop
  | .repeat_ line until_ b test =>
    body b
    let holds : Work Bool := do
      at_ line
      return (← isTrue test) != until_
    rounds [] holds (body b) (pure ()) roundMax
    return []
  | .function name b =>
    match entryFor? name (← get).functions with
    | some id => modify fun s => { s with codes := s.codes.setIfInBounds id ⟨name, b, s.known⟩ }
    | none => return []
    return []
  | .atEdge .. => return []
  | .use line name names =>
    at_ line
    useModule name names
    return []

/-- Statements one after another; the values of the last. -/
def performAll (run : Runner) (wantsList : Bool) : List Statement → Work (List Value)
  | [] => return []
  | [s] => perform run wantsList s
  | s :: more => do
    let _ ← perform run false s
    performAll run wantsList more

/-- The functions among statements are known before these are carried out. -/
def announce : List Statement → Work Unit
  | [] => return
  | st :: more => do
    match st with
    | .function name body =>
      let s ← get
      let id := s.codes.size
      set { s with codes := s.codes.push ⟨name, body, s.known⟩, functions := withEntry name id s.functions }
    | _ => pure ()
    announce more

/-- Something carried out. Every unit of fuel pays for one thing around. -/
def runNode (l : Launcher) : Nat → Runner
  | 0, _ => die "Out of memory!".toList
  | fuel + 1, .value wantsList e => do
    let vs ← evaluate l (runNode l fuel) wantsList e
    return if wantsList then vs else vs.getLast?.toList
  | fuel + 1, .cells e => return (← cellsOf (runNode l fuel) e).map fun id => .refer .scalar id
  | fuel + 1, .body wantsList statements => do
    announce statements
    performAll (runNode l fuel) wantsList statements

end DiagramStudio.Script.Perl
