import DiagramStudio.Script.Shell
import DiagramStudio.Script.Perl.Value

/-!
What programs in Perl know while they run: values in numbered cells, what names stand for, what has been opened, and
what has been matched last.
-/

namespace DiagramStudio.Script.Perl

/-- A function with the names that it knows. -/
structure Code where
  name : List Char
  body : List Statement
  known : List (Variable × Nat)

instance : Inhabited Code := ⟨⟨[], [], []⟩⟩

/-- Where what is printed goes. -/
inductive Outlet where
  | nowhere
  | number (n : Nat)
  | file (path : List Char)
  | command (text : List Char)
  /-- The value of a cell. -/
  | cell (id : Nat)
deriving Repr, DecidableEq, Inhabited

/-- Something that has been opened. -/
structure Handle where
  name : List Char
  /-- What is left to be read; nothing if nothing can be read. -/
  input : Option (List Char)
  /-- The input of the program, which has not been read yet. -/
  isStandard : Bool
  lines : Nat
  outlet : Outlet
  /-- What has been printed and not been written, in pieces, the last first. -/
  pending : List (List Char)
  /-- How the command ended that it comes from. -/
  status : Nat
  /-- The names in a directory. -/
  names : List (List Char)
deriving Inhabited

/-- What has been matched, and where. -/
structure Matched where
  text : List Char
  low : Nat
  high : Nat
  groups : List (Nat × Nat × Nat)
  names : List (List Char × Nat)
  count : Nat
deriving Inhabited

/-- What is put back when a block is left. -/
inductive Undo where
  | name (v : Variable) (before : Option Nat)
  | cell (id : Nat) (before : Value)
  | entry (hash : Nat) (key : List Char) (before : Option Nat)
deriving Inhabited

structure State where
  cells : Array Value
  arrays : Array (Array Nat)
  hashes : Array (List (List Char × Nat))
  codes : Array Code
  patterns : Array (Expression.Named × List Char)
  /-- What names stand for everywhere, and what they stand for here. -/
  globals : List (Variable × Nat)
  known : List (Variable × Nat)
  functions : List (List Char × Nat)
  handles : Array Handle
  handleNames : List (List Char × Nat)
  /-- The handle to which is printed if nothing else is told. -/
  chosen : Nat
  undo : List Undo
  matched : Option Matched
  /-- Where matching goes on in the values of cells. -/
  positions : List (Nat × Nat)
  /-- The line that is carried out; zero stands for none. -/
  line : Nat
  file : List Char
  /-- The handle that was read last. -/
  lastRead : Option Nat
  wantsList : Bool
  inFunction : Bool
  warns : Bool
  /-- Texts do not stand for names. -/
  isStrict : Bool
  /-- Functions that modules have brought. -/
  imported : List (List Char)
  /-- How far tables have been gone through. -/
  visited : List (Nat × Nat)
  /-- Ranges that have been entered, by their marks. -/
  entered : List Nat
  /-- The files that are read one after another: those left, and whether there have been any. -/
  begun : Bool
  /-- The file that is changed in place, and the part of its name that is added to keep it. -/
  place : Option (List Char)
  changing : Option (List Char)
  seed : Nat
  depth : Nat
  lastStatus : Nat
deriving Inhabited

/-- Why something is not gone on with. -/
inductive Stop where
  | flow (kind : String) (label : List Char)
  | returned (values : List Value)
  | died (v : Value)
  | exit (status : Nat)
deriving Inhabited

abbrev Work := ExceptT Stop (StateT State Act)

/-- How other programs are started: by words, or by a text that a shell reads. -/
structure Launcher where
  /-- Nothing comes of it if there is no such program. -/
  words : List (List Char) → Act Unit
  shell : List Char → Act Unit
  canStart : Machine → List Char → Bool

namespace Work

/-- Something that is done outside. -/
def outside {α : Type} (act : Act α) : Work α := (liftM act : StateT State Act α)

/-! ## Cells -/

def newCell (v : Value) : Work Nat := do
  let s ← get
  let id := s.cells.size
  modify fun s => { s with cells := s.cells.push v }
  return id

def cell (id : Nat) : Work Value := return (← get).cells.getD id .missing

def setCell (id : Nat) (v : Value) : Work Unit := modify fun s =>
  { s with cells := s.cells.setIfInBounds id v
           positions := if s.positions.isEmpty then [] else withoutEntry id s.positions }

def newArray (ids : Array Nat) : Work Nat := do
  let id := (← get).arrays.size
  modify fun s => { s with arrays := s.arrays.push ids }
  return id

def array (id : Nat) : Work (Array Nat) := return (← get).arrays.getD id #[]

def setArray (id : Nat) (ids : Array Nat) : Work Unit := modify fun s =>
  { s with arrays := s.arrays.setIfInBounds id ids }

def newHash (entries : List (List Char × Nat)) : Work Nat := do
  let id := (← get).hashes.size
  modify fun s => { s with hashes := s.hashes.push entries }
  return id

def hash (id : Nat) : Work (List (List Char × Nat)) := return (← get).hashes.getD id []

def setHash (id : Nat) (entries : List (List Char × Nat)) : Work Unit := modify fun s =>
  { s with hashes := s.hashes.setIfInBounds id entries }

/-- New cells with values. -/
def newCells (vs : List Value) : Work (List Nat) := vs.mapM newCell

/-- What a name of a kind stands for from the start. -/
def newFor (sigil : Char) : Work Nat :=
  match sigil with
  | '@' => newArray #[]
  | '%' => newHash []
  | _ => newCell .missing

/-! ## Names -/

/-- What a name stands for. -/
def slotOf (v : Variable) : Work Nat := do
  let s ← get
  match entryFor? v s.known with
  | some id => return id
  | none =>
    match entryFor? v s.globals with
    | some id => return id
    | none =>
      let id ← newFor v.sigil
      modify fun s => { s with globals := (v, id) :: s.globals }
      return id

def globalOf (v : Variable) : Work Nat := do
  match entryFor? v (← get).globals with
  | some id => return id
  | none =>
    let id ← newFor v.sigil
    modify fun s => { s with globals := (v, id) :: s.globals }
    return id

def topic : Variable := ⟨'$', ['_']⟩

def scalarNamed (name : String) : Variable := ⟨'$', name.toList⟩

def global (name : String) : Work Value := do cell (← globalOf (scalarNamed name))

def setGlobal (name : String) (v : Value) : Work Unit := do setCell (← globalOf (scalarNamed name)) v

/-- A name stands for something else from now on. -/
def bindGlobal (v : Variable) (id : Nat) : Work Unit := modify fun s => { s with globals := withEntry v id s.globals }

/-- A name that belongs to the block. -/
def declare (v : Variable) : Work Nat := do
  let id ← newFor v.sigil
  modify fun s => { s with known := (v, id) :: s.known }
  return id

/-! ## Blocks -/

def undoOne (u : Undo) : Work Unit := do
  match u with
  | .name v (some id) => bindGlobal v id
  | .name v none => modify fun s => { s with globals := withoutEntry v s.globals }
  | .cell id before => setCell id before
  | .entry h key (some id) => setHash h (withEntry key id (← hash h))
  | .entry h key none => setHash h (withoutEntry key (← hash h))

def undoAll : List Undo → Work Unit
  | [] => return
  | u :: more => do
    undoOne u
    undoAll more

/-- Something after which names stand for what they did before. -/
def enclosed {α : Type} (act : Work α) : Work α := do
  let before ← get
  let known := before.known
  let count := before.undo.length
  let leave : Work Unit := do
    let s ← get
    if s.undo.length ≠ count then
      let mine := s.undo.take (s.undo.length - count)
      modify fun s => { s with undo := s.undo.drop (s.undo.length - count) }
      undoAll mine
    modify fun s => { s with known }
  let result ← tryCatch act fun stop => do
    leave
    throw stop
  leave
  return result

/-! ## Ends -/

/-- Where the program is, as complaints tell it. -/
def placeText : Work (List Char) := do
  let s ← get
  let read : List Char := match s.lastRead.bind fun n => s.handles[n]? with
    | some h =>
      if h.lines = 0 then []
      else ", <".toList ++ h.name ++ "> line ".toList ++ (toString h.lines).toList
    | none => []
  return (if s.line = 0 then [] else " at ".toList ++ s.file ++ " line ".toList ++ (toString s.line).toList) ++ read ++ ['.', '\n']

def die {α : Type} (what : List Char) : Work α := do
  throw (.died (.text (what ++ (← placeText))))

/-! ## Views -/

/-- A value as a text. -/
def textOf (v : Value) : Work (List Char) := do
  match v with
  | .refer .pattern id => return ((← get).patterns[id]?.map (·.2)).getD []
  | v => return v.toText

/-- The bytes of a text: characters that are none are spread over several. -/
def bytesFor (s : List Char) : List Char :=
  if s.any fun c => 255 < c.toNat then charsOf (Text.Utf8.encode s) else s

/-! ## Output -/

def handle (n : Nat) : Work Handle := return (← get).handles.getD n default

def setHandle (n : Nat) (h : Handle) : Work Unit := modify fun s =>
  { s with handles := s.handles.setIfInBounds n h }

def newHandle (h : Handle) : Work Nat := do
  let n := (← get).handles.size
  modify fun s => { s with handles := s.handles.push h }
  return n

def output : Nat := 1

def errors : Nat := 2

/-- What a number of a process writes has gone out. -/
def emit (n : Nat) (text : List Char) : Work Unit := outside (modify fun m => m.emit n text)

/-- What has been printed to a handle is written. -/
def flush (n : Nat) : Work Unit := do
  let h ← handle n
  if !h.pending.isEmpty then
    match h.outlet with
    | .number k =>
      setHandle n { h with pending := [] }
      emit k h.pending.reverse.flatten
    | .file path =>
      setHandle n { h with pending := [] }
      let text := bytesOf h.pending.reverse.flatten
      outside (modify fun m =>
        let before := ((m.disk.read (pathOf path)).toOption).getD []
        match m.disk.write (pathOf path) (before ++ text) with
        | .ok disk => { m with disk }
        | .error _ => m)
    | _ => return

def flushList : List Nat → Work Unit
  | [] => return
  | n :: more => do
    flush n
    flushList more

def flushAll : Work Unit := do flushList (List.range (← get).handles.size)

/-- A complaint is written at once. -/
def complain (text : List Char) : Work Unit := do
  flush errors
  let h ← handle errors
  match h.outlet with
  | .number k => emit k (bytesFor text)
  | _ =>
    setHandle errors { h with pending := bytesFor text :: h.pending }
    flush errors

/-- A text is printed to a handle; whether that can be. -/
def send (n : Nat) (text : List Char) : Work Bool := do
  let wide := text.any fun c => 255 < c.toNat
  if wide then complain ("Wide character in print".toList ++ (← placeText))
  let text := bytesFor text
  let h ← handle n
  match h.outlet with
  | .nowhere => return false
  | .cell id =>
    setCell id (.text ((← textOf (← cell id)) ++ text))
    return true
  | .number 2 =>
    emit 2 text
    return true
  | outlet =>
    setHandle n { h with pending := text :: h.pending }
    let direct := outlet != .command [] && (← global "|").isTrue && n = (← get).chosen
    if direct then flush n
    return true

/-! ## Faults of the system -/

/-- A value that tells a fault. -/
def faultValue (f : SystemFault) : Value := .both (f.number?.getD 5) f.text.toList

def setFault (f : SystemFault) : Work Unit := setGlobal "!" (faultValue f)

end Work

end DiagramStudio.Script.Perl
