import DiagramStudio.Script.Perl.Handles

/-!
The cells that expressions of programs in Perl lead to, which come into being when they are asked for, and the
setting of values.
-/

namespace DiagramStudio.Script.Perl

open Work

/-- What can be carried out: an expression for its value or its values, an expression for the cells that hold them,
    or statements. -/
inductive Node where
  | value (wantsList : Bool) (e : Expr)
  | cells (e : Expr)
  | body (wantsList : Bool) (statements : List Statement)

instance : Inhabited Node := ⟨.body false []⟩

/-- What carries out what stands within something. Cells are found as references to them. -/
abbrev Runner := Node → Work (List Value)

/-- The one value of an expression. -/
def valueOf (run : Runner) (e : Expr) : Work Value := do return ((← run (.value false e)).getLast?).getD .missing

def listOf (run : Runner) (e : Expr) : Work (List Value) := run (.value true e)

def valuesOf (run : Runner) (es : List Expr) : Work (List Value) := return (← es.mapM (listOf run)).flatten

def textIn (run : Runner) (e : Expr) : Work (List Char) := do textOf (← valueOf run e)

/-- The cells that references lead to. -/
def idsOf (vs : List Value) : List Nat := vs.filterMap fun v => match v with
  | .refer .scalar id => some id
  | _ => none

def cellsIn (run : Runner) (e : Expr) : Work (List Nat) := return idsOf (← run (.cells e))

/-! ## References -/

def Kind.sigil : Kind → Char
  | .array => '@'
  | .hash => '%'
  | .code => '&'
  | _ => '$'

def Kind.article (k : Kind) : List Char := (if k == .array then "an " else "a ").toList

/-- The expression names something that can hold a value. -/
def isPlace : Expr → Bool
  | .variable_ v => v.sigil == '$'
  | .item .. | .entry .. => true
  | .behind sigil _ => sigil == '$'
  | .declare _ false [v] => v.sigil == '$'
  | _ => false

/-- What a value leads to, if it is a reference of a kind, or the name of something. -/
def led (kind : Kind) (v : Value) : Work Nat := do
  match v with
  | .refer k id =>
    if k = kind then return id
    else die ("Not ".toList ++ Kind.article kind ++ (Value.Kind.name kind).toList ++ " reference".toList)
  | .missing => die ("Can't use an undefined value as ".toList ++ Kind.article kind ++ (Value.Kind.name kind).toList
      ++ " reference".toList)
  | v =>
    let s ← textOf v
    if (← get).isStrict then
      die ("Can't use string (\"".toList ++ s.take 32 ++ (if 32 < s.length then "\"...".toList else ['"']) ++ ") as ".toList
        ++ Kind.article kind ++ (Value.Kind.name kind).toList ++ " ref while \"strict refs\" in use".toList)
    else globalOf ⟨Kind.sigil kind, s⟩

/-- What an expression leads to; a place without a value gets one. -/
def behind (run : Runner) (kind : Kind) (e : Expr) : Work Nat := do
  let e := match e with
    | .block [.expr _ inner] => inner
    | e => e
  if isPlace e then
    match ← cellsIn run e with
    | id :: _ =>
      match ← cell id with
      | .missing =>
        let n ← newFor (Kind.sigil kind)
        setCell id (.refer kind n)
        return n
      | v => led kind v
    | [] => led kind .missing
  else led kind (← valueOf run e)

/-- What an expression leads to, if it has a value. -/
def ledThere? (run : Runner) (kind : Kind) (e : Expr) : Work (Option Nat) := do
  match ← valueOf run e with
  | .missing => if (← get).isStrict then return some (← led kind .missing) else return none
  | v => return some (← led kind v)

def declareOne (scope : Scope) (v : Variable) : Work Nat := do
  match scope with
  | .our =>
    let id ← globalOf v
    modify fun s => { s with known := withoutEntry v s.known }
    return id
  | _ => declare v

/-- Where what has been matched begins or ends, and where its groups do. -/
def matchedPlaces (pick : Nat × Nat → Nat) (m? : Option Matched) : List Value :=
  match m? with
  | none => []
  | some m => .ofNat (pick (m.low, m.high)) :: (List.range m.count).map fun i =>
      match m.groups.find? (·.1 == i + 1) with
      | some (_, g) => .ofNat (pick g)
      | none => .missing

def arrayIn (run : Runner) (e : Expr) : Work Nat := do
  match e with
  | .variable_ ⟨_, ['-']⟩ => newArray (← newCells (matchedPlaces (fun g => g.1) (← get).matched)).toArray
  | .variable_ ⟨_, ['+']⟩ => newArray (← newCells (matchedPlaces (fun g => g.2) (← get).matched)).toArray
  | .variable_ v => slotOf { v with sigil := '@' }
  | .behind _ e => behind run .array e
  | .declare scope _ [v] => declareOne scope v
  | e => behind run .array e

def hashIn (run : Runner) (e : Expr) : Work Nat := do
  match e with
  | .variable_ ⟨_, ['+']⟩ =>
    match (← get).matched with
    | none => newHash []
    | some m => newHash (← (m.names.filter fun entry => (m.group entry.2).isSet).mapM fun (name, n) => do
        return (name, ← newCell (m.group n)))
  | .variable_ v => slotOf { v with sigil := '%' }
  | .behind _ e => behind run .hash e
  | .declare scope _ [v] => declareOne scope v
  | e => behind run .hash e

/-- The place that an index stands for, if there is one. -/
def place? (size : Nat) (i : Int) : Option Nat :=
  if 0 ≤ i then some i.toNat else if 0 ≤ i + size then some (i + size).toNat else none

/-- The cell of an item, which is made if it is not there. -/
def itemCell (array_ : Nat) (i : Int) : Work Nat := do
  let ids ← array array_
  match place? ids.size i with
  | none => die ("Modification of non-creatable array value attempted, subscript ".toList ++ (toString i).toList)
  | some n =>
    if n < ids.size then return ids.getD n 0
    else
      let new ← newCells (List.replicate (n + 1 - ids.size) .missing)
      setArray array_ (ids ++ new.toArray)
      return new.getLast?.getD 0

/-- The cell of an entry, which is made if it is not there. -/
def entryCell (hash_ : Nat) (key : List Char) : Work Nat := do
  let entries ← hash hash_
  match entryFor? key entries with
  | some id => return id
  | none =>
    let id ← newCell .missing
    setHash hash_ (entries ++ [(key, id)])
    return id

/-- The cell of an item or an entry, if it is there. -/
def cellThere? (run : Runner) (e : Expr) : Work (Option Nat) := do
  match e with
  | .item a i =>
    let ids ← array (← arrayIn run a)
    return (place? ids.size (← valueOf run i).toInt).bind (ids[·]?)
  | .entry h k =>
    let entries ← hash (← hashIn run h)
    return entryFor? (← textIn run k) entries
  | _ => return none

/-- The names of variables whose values are computed. -/
def isComputed (name : List Char) : Bool :=
  (matchedValue? name none).isSome || [['$'], ['.']].contains name

/-- A value for the time of a block. -/
def localize (run : Runner) (e : Expr) : Work Unit := do
  let parts := match e with
    | .list parts => parts
    | e => [e]
  for e in parts do
    match e with
    | .variable_ v =>
      let before := entryFor? v (← get).globals
      let id ← newFor v.sigil
      modify fun s => { s with undo := .name v before :: s.undo }
      bindGlobal v id
    | .entry h k =>
      let n ← hashIn run h
      let key ← textIn run k
      let entries ← hash n
      modify fun s => { s with undo := .entry n key (entryFor? key entries) :: s.undo }
      setHash n (withEntry key (← newCell .missing) entries)
    | e =>
      match ← cellsIn run e with
      | id :: _ =>
        let before ← cell id
        modify fun s => { s with undo := .cell id before :: s.undo }
      | [] => return

/-- The cell that an expression names; for what names none there is a new one with its value. -/
def cellOf (run : Runner) (e : Expr) : Work Nat := do
  match e with
  | .variable_ ⟨'$', name⟩ => if isComputed name then newCell (← valueOf run e) else slotOf ⟨'$', name⟩
  | .item a i =>
    let n ← arrayIn run a
    itemCell n (← valueOf run i).toInt
  | .entry h k =>
    let n ← hashIn run h
    entryCell n (← textIn run k)
  | .behind '$' e => behind run .scalar e
  | .declare scope false [v] => declareOne scope v
  | .localized inner =>
    localize run inner
    return ((← cellsIn run inner).head?).getD 0
  | .assign _ target _ =>
    let _ ← run (.value false e)
    match target with
    | .declare _ _ [v] => slotOf v
    | target => return ((← cellsIn run target).head?).getD 0
  | .choose test yes no => return ((← cellsIn run (if (← valueOf run test).isTrue then yes else no)).head?).getD 0
  | .list [inner] => return ((← cellsIn run inner).head?).getD 0
  | .step false _ target =>
    let _ ← run (.value false e)
    return ((← cellsIn run target).head?).getD 0
  | e => newCell (← valueOf run e)

/-- The keys of entries with their values. -/
def entryCells (entries : List (List Char × Nat)) : Work (List Nat) :=
  return (← entries.mapM fun (key, id) => return [← newCell (.text key), id]).flatten

/-- The cells that hold the values of an expression. -/
def cellsOf (run : Runner) (e : Expr) : Work (List Nat) := do
  match e with
  | .variable_ ⟨'@', name⟩ => return (← array (← slotOf ⟨'@', name⟩)).toList
  | .variable_ ⟨'%', name⟩ => entryCells (← hash (← slotOf ⟨'%', name⟩))
  | .variable_ _ => return [← cellOf run e]
  | .behind '@' inner => return (← array (← behind run .array inner)).toList
  | .behind '%' inner => entryCells (← hash (← behind run .hash inner))
  | .behind '$' _ | .item .. | .entry .. => return [← cellOf run e]
  | .items a list =>
    let n ← arrayIn run a
    (← listOf run list).mapM fun i => itemCell n i.toInt
  | .entries h list =>
    let n ← hashIn run h
    (← listOf run list).mapM fun k => do entryCell n (← textOf k)
  | .list parts => return (← parts.mapM (cellsIn run)).flatten
  | .declare scope isList vars =>
    if isList || vars.any (·.sigil != '$') then
      let ids ← vars.mapM (declareOne scope)
      return (vars.zip ids).filterMap fun (v, id) => if v.sigil = '$' then some id else none
    else return [← cellOf run e]
  | .localized _ | .step false .. => return [← cellOf run e]
  | .assign _ target _ =>
    if isPlace target then return [← cellOf run e]
    else
      let vs ← listOf run e
      match target with
      | .declare _ _ vars =>
        return (← vars.mapM fun v => do
          let id ← slotOf v
          match v.sigil with
          | '@' => return (← array id).toList
          | '%' => entryCells (← hash id)
          | _ => return [id]).flatten
      | .variable_ _ | .list _ => cellsIn run target
      | _ => newCells vs
  | e => newCells (← listOf run e)

/-! ## Setting -/

def isListTarget : Expr → Bool
  | .list _ => true
  | .variable_ v => v.sigil == '@' || v.sigil == '%'
  | .behind sigil _ => sigil == '@' || sigil == '%'
  | .items .. | .entries .. => true
  | .declare _ isList vars => isList || vars.any (·.sigil != '$')
  | .localized e => isListTarget e
  | _ => false

def fillArray (n : Nat) (vs : List Value) : Work Unit := do setArray n (← newCells vs).toArray

/-- The entries that values make up by pairs. -/
def entriesOf : List Value → Work (List (List Char × Nat))
  | [] => return []
  | [k] => return [(← textOf k, ← newCell .missing)]
  | k :: v :: more => do
    let entry := (← textOf k, ← newCell v)
    return entry :: (← entriesOf more)

def fillHash (n : Nat) (vs : List Value) : Work Unit := do
  let entries ← entriesOf vs
  setHash n (entries.foldl (fun all (k, id) => withEntry k id all) [])

/-- A variable gets what it can hold of values; what is left. -/
def fillSlot (v : Variable) (id : Nat) (vs : List Value) : Work (List Value) := do
  match v.sigil with
  | '@' =>
    fillArray id vs
    return []
  | '%' =>
    fillHash id vs
    return []
  | _ =>
    setCell id (vs.headD .missing)
    return vs.tail

def fillSlots : List (Variable × Nat) → List Value → Work (List Value)
  | [], vs => return vs
  | (v, id) :: more, vs => do fillSlots more (← fillSlot v id vs)

/-- What an expression names gets what it can hold of values; what is left. -/
def fillOne (run : Runner) (target : Expr) (vs : List Value) : Work (List Value) := do
  match target with
  | .variable_ v => fillSlot v (← slotOf v) vs
  | .behind '@' e => fillSlot ⟨'@', []⟩ (← behind run .array e) vs
  | .behind '%' e => fillSlot ⟨'%', []⟩ (← behind run .hash e) vs
  | .declare scope _ vars =>
    let ids ← vars.mapM (declareOne scope)
    fillSlots (vars.zip ids) vs
  | .builtin "undef" [] => return vs.tail
  | target =>
    let ids ← cellsIn run target
    fillSlots (ids.map fun id => (topic, id)) vs

def fillEach (run : Runner) : List Expr → List Value → Work (List Value)
  | [], vs => return vs
  | e :: more, vs => do fillEach run more (← fillOne run e vs)

/-- A list of values set. -/
def fillList (run : Runner) (target : Expr) (vs : List Value) : Work Unit := do
  let inner ← match target with
    | .localized e => do
      localize run e
      pure e
    | e => pure e
  let parts := match inner with
    | .list parts => parts
    | e => [e]
  let _ ← fillEach run parts vs

end DiagramStudio.Script.Perl
