import DiagramStudio.Json.Value
import DiagramStudio.Number.Single

/-!
Settings: values of a configuration, in whatever format they were written. A group of named fields
may be given as a table, where names that are not known are let be, or as a list of the fields in
their order, of which the last may be left out. A number too large for any field spoils the value that
it stands in, but what no field of a list asks for is not looked at.
-/

namespace DiagramStudio

open Number

/-- A value of a configuration. -/
inductive Setting where
  /-- A value that says there is none. -/
  | absent
  | flag (value : Bool)
  | integer (value : Int)
  | real (value : Float)
  /-- A number that is too large to be held. -/
  | outsized
  | text (value : String)
  /-- A date or a time. -/
  | moment (spelling : String)
  /-- Values in a row. Fields given by one that is `closed` have no further values behind them. -/
  | list (closed : Bool) (items : List Setting)
  | table (entries : List (String × Setting))
deriving Inhabited

namespace Setting

/-- The last value that the entries give a name. -/
def valueOf? (entries : List (String × Setting)) (name : String) : Option Setting :=
  (entries.reverse.find? (·.1 == name)).map (·.2)

mutual

/-- No number in the value is too large to be held. -/
def isSound : Setting → Bool
  | outsized => false
  | list _ items => areSound items
  | table entries => haveSound entries
  | _ => true

def areSound : List Setting → Bool
  | [] => true
  | item :: more => isSound item && areSound more

def haveSound : List (String × Setting) → Bool
  | [] => true
  | (_, value) :: more => isSound value && haveSound more

end

/-- The values of the named fields; nothing if this is no group of fields. A moment is a group
    without any of them. -/
def fields? (names : List String) : Setting → Option (List (Option Setting))
  | table entries =>
    if haveSound (entries.filter fun e => !names.contains e.1) then some (names.map (valueOf? entries))
    else none
  | list closed items =>
    if closed ∧ names.length < items.length then none
    else
      some ((items.take names.length).map some ++ List.replicate (names.length - items.length) none)
  | moment _ => some (names.map fun _ => none)
  | _ => none

/-- A count that fits a 64-bit word. -/
def word? : Setting → Option Nat
  | integer i => if 0 ≤ i ∧ i < 2 ^ 64 then some i.toNat else none
  | _ => none

/-- A single-precision number; an integer counts as a number as long as it fits a 64-bit word. -/
def single? : Setting → Option Float32
  | integer i => if -(2 ^ 63) ≤ i ∧ i < 2 ^ 64 then some (Single.ofInt i) else none
  | real x => some (Single.ofDouble x)
  | _ => none

def text? : Setting → Option String
  | text s => some s
  | _ => none

def texts? : Setting → Option (List String)
  | list _ items => items.mapM text?
  | _ => none

/-- What a field gives, or the default if it is left out. -/
def orDefault {α : Type} (read? : Setting → Option α) (default : α) : Option Setting → Option α
  | none => some default
  | some s => read? s

/-- The setting that a JSON number spells: an integer if it is written as one and fits a 64-bit
    word. -/
def ofNumber? (literal : List UInt8) : Option Setting :=
  let spelling := literal.map fun b => Char.ofNat b.toNat
  let real? := (Literal.read? spelling).map fun l => real l.toDouble
  match spelling with
  | '-' :: digits =>
    if digits.all isDigit ∧ 0 < ofDigits digits ∧ ofDigits digits ≤ 2 ^ 63 then
      some (integer (-(ofDigits digits : Int)))
    else real?
  | digits =>
    if digits.all isDigit ∧ ofDigits digits < 2 ^ 64 then some (integer (ofDigits digits)) else real?

mutual

/-- The setting that a document stands for. -/
def ofJson? : Json → Option Setting
  | .null => some absent
  | .bool b => some (flag b)
  | .number literal => ofNumber? literal
  | .string q => q.text?.map text
  | .array items => (ofItems? items).map (list true)
  | .object members => (ofMembers? members).map table

def ofItems? : List Json → Option (List Setting)
  | [] => some []
  | item :: more => do return (← ofJson? item) :: (← ofItems? more)

def ofMembers? : List (Quoted × Json) → Option (List (String × Setting))
  | [] => some []
  | (key, value) :: more => do return (← key.text?, ← ofJson? value) :: (← ofMembers? more)

end

end Setting

end DiagramStudio
