import DiagramStudio.Keyed
import DiagramStudio.Script.Basic

/-!
Expressions of scripts over 64-bit integers, which wrap around. Variables stand for the integers that
they spell, and may be given new ones; what an operator does not need is not evaluated.
-/

namespace DiagramStudio.Script.Sum

/-- Why an expression has no value. -/
inductive SumFault where
  | expecting (what : String)
  | zeroDivision
  /-- The value of a variable that spells no integer. -/
  | illegal (value : List Char)
deriving Repr, DecidableEq, Inhabited

/-- What is said of an expression without a value. -/
def SumFault.message (expression : List Char) : SumFault → List Char
  | expecting what =>
    "arithmetic expression: expecting ".toList ++ what.toList ++ ": \"".toList ++ expression ++ ['"']
  | zeroDivision => "arithmetic expression: division by zero: \"".toList ++ expression ++ ['"']
  | illegal value => "Illegal number: ".toList ++ value

/-- An integer as 64 bits hold it. -/
def wrap (n : Int) : Int := n.bmod (2 ^ 64)

/-- The nearest integer that 64 bits hold. -/
def clamp (n : Int) : Int :=
  if n < -(2 ^ 63) then -(2 ^ 63) else if 2 ^ 63 ≤ n then 2 ^ 63 - 1 else n

/-- The value of a digit in any base up to 16. -/
def digit? (base : Nat) (c : Char) : Option Nat :=
  let d? :=
    if c.isDigit then some (c.toNat - '0'.toNat)
    else if 'a' ≤ c ∧ c ≤ 'f' then some (c.toNat - 'a'.toNat + 10)
    else if 'A' ≤ c ∧ c ≤ 'F' then some (c.toNat - 'A'.toNat + 10)
    else none
  d?.filter (· < base)

/-- The number of the digits at the front, behind the digits of `n`, and what follows them. -/
def digits (base n : Nat) : List Char → Nat × List Char
  | [] => (n, [])
  | c :: rest =>
    match digit? base c with
    | some d => digits base (base * n + d) rest
    | none => (n, c :: rest)

/-- The number at the front, in the base that its first digits tell, and what follows it. -/
def number (s : List Char) : Nat × List Char :=
  match s with
  | '0' :: x :: d :: rest =>
    if (x = 'x' ∨ x = 'X') ∧ (digit? 16 d).isSome then digits 16 0 (d :: rest) else digits 8 0 s
  | '0' :: _ => digits 8 0 s
  | _ => digits 10 0 s

/-- The integer that a text spells; blanks may stand around it. -/
def integer? (s : List Char) : Option Int :=
  let s := s.dropWhile fun c => c == ' ' || ('\t' ≤ c && c ≤ '\r')
  let (negative, body) := match s with
    | '-' :: rest => (true, rest)
    | '+' :: rest => (false, rest)
    | _ => (false, s)
  if (body.head?.map Char.isDigit).getD false then
    let (n, rest) := number body
    if rest.all fun c => c == ' ' || ('\t' ≤ c && c ≤ '\r') then
      some (clamp (if negative then -(n : Int) else n))
    else none
  else none

/-! ## Tokens -/

inductive Sign where
  | number (n : Int)
  | name (s : List Char)
  | operator (spelling : String)
deriving Repr, DecidableEq, Inhabited

/-- The operators, those first that begin with others. -/
def operators : List String :=
  ["<<=", ">>=", "<<", ">>", "<=", ">=", "==", "!=", "&&", "||", "+=", "-=", "*=", "/=", "%=", "&=", "^=",
    "|=", "+", "-", "*", "/", "%", "<", ">", "&", "^", "|", "!", "~", "?", ":", "(", ")", "="]

/-- The signs of an expression. A character that begins none is an operator of its own, which has no
    place anywhere. Every unit of fuel pays for a character. -/
def signs : Nat → List Char → List Sign
  | 0, _ => []
  | _ + 1, [] => []
  | fuel + 1, c :: rest =>
    if c = ' ' ∨ c = '\t' ∨ c = '\n' then signs fuel rest
    else if c.isDigit then
      let (n, after) := number (c :: rest)
      .number (clamp n) :: signs fuel after
    else if isNameStart c then
      .name (c :: rest.takeWhile isNamePart) :: signs fuel (rest.dropWhile isNamePart)
    else
      match operators.find? fun o => o.toList.isPrefixOf (c :: rest) with
      | some o => .operator o :: signs fuel ((c :: rest).drop o.length)
      | none => .operator "" :: signs fuel rest

/-! ## Values -/

/-- What is left of an expression, and the variables. -/
structure Work where
  rest : List Sign
  variables_ : List (List Char × List Char)

abbrev Working := StateT Work (Except SumFault)

/-- The integer of a variable; one without a value counts as zero. -/
def lookUp (name : List Char) : Working Int := do
  match entryFor? name (← get).variables_ with
  | none => return 0
  | some [] => return 0
  | some value =>
    match integer? value with
    | some n => return n
    | none => throw (.illegal value)

/-- The next sign, which is taken. -/
def take : Working (Option Sign) := do
  match (← get).rest with
  | [] => return none
  | t :: rest =>
    modify fun w => { w with rest }
    return some t

/-- Whether an operator comes next; it is taken if so. -/
def takes (spelling : String) : Working Bool := do
  match (← get).rest with
  | .operator o :: rest =>
    if o = spelling then
      modify fun w => { w with rest }
      return true
    return false
  | _ => return false

/-- The rank of an operator between two values; the lowest binds most. -/
def rank? (o : String) : Option Nat :=
  [["*", "/", "%"], ["+", "-"], ["<<", ">>"], ["<", "<=", ">", ">="], ["==", "!="], ["&"], ["^"],
    ["|"]].findIdx? (·.contains o)

def ofBool (b : Bool) : Int := if b then 1 else 0

/-- The bits of an integer, as a word. -/
def word (n : Int) : UInt64 := UInt64.ofInt n

def ofWord (w : UInt64) : Int := wrap w.toNat

/-- What an operator makes of two values. -/
def combine (o : String) (a b : Int) : Except SumFault Int :=
  match o with
  | "*" => .ok (wrap (a * b))
  | "/" => if b = 0 then .error .zeroDivision else .ok (wrap (a.tdiv b))
  | "%" => if b = 0 then .error .zeroDivision else .ok (wrap (a.tmod b))
  | "+" => .ok (wrap (a + b))
  | "-" => .ok (wrap (a - b))
  | "<<" => .ok (ofWord (word a <<< word b))
  | ">>" => .ok (a / (2 ^ (word b % 64).toNat))
  | "<" => .ok (ofBool (a < b))
  | "<=" => .ok (ofBool (a ≤ b))
  | ">" => .ok (ofBool (a > b))
  | ">=" => .ok (ofBool (a ≥ b))
  | "==" => .ok (ofBool (a == b))
  | "!=" => .ok (ofBool (a != b))
  | "&" => .ok (ofWord (word a &&& word b))
  | "^" => .ok (ofWord (word a ^^^ word b))
  | "|" => .ok (ofWord (word a ||| word b))
  | _ => .error (.expecting "primary")

/-- A value that stands by itself. `idle` says that it is not needed, and `whole` reads what stands
    between parentheses. Every unit of fuel pays for a sign. -/
def primary (whole : Bool → Working Int) (idle : Bool) : Nat → Working Int
  | 0 => throw (.expecting "primary")
  | fuel + 1 => do
    match ← take with
    | some (.number n) => return n
    | some (.name s) => if idle then return 0 else lookUp s
    | some (.operator "(") =>
      let n ← whole idle
      if ← takes ")" then return n else throw (.expecting "')'")
    | some (.operator "+") => primary whole idle fuel
    | some (.operator "-") => return wrap (-(← primary whole idle fuel))
    | some (.operator "!") => return ofBool ((← primary whole idle fuel) == 0)
    | some (.operator "~") => return -(← primary whole idle fuel) - 1
    | _ => throw (.expecting "primary")

/-- Values with operators of at most the given rank between them, of which the first is known. Every
    unit of fuel pays for an operator. -/
def operations (value : Working Int) (idle : Bool) : Nat → Nat → Int → Working Int
  | 0, _, a => return a
  | fuel + 1, most, a => do
    match (← get).rest with
    | .operator o :: rest =>
      match (rank? o).filter (· ≤ most) with
      | none => return a
      | some r =>
        modify fun w => { w with rest }
        let b ← value
        let b ← match r with
          | 0 => pure b
          | r + 1 => operations value idle fuel r b
        let c ← if idle then pure b else
          match combine o a b with
          | .ok c => pure c
          | .error fault => throw fault
        operations value idle fuel most c
    | _ => return a

/-- Values of which some hold and some do not. Every unit of fuel pays for one. -/
def conjunction (value : Bool → Working Int) : Nat → Bool → Working Int
  | 0, idle => value idle
  | fuel + 1, idle => do
    let a ← value idle
    if ← takes "&&" then
      let b ← conjunction value fuel (idle || a == 0)
      return ofBool (a != 0 && b != 0)
    else return a

def disjunction (value : Bool → Working Int) : Nat → Bool → Working Int
  | 0, idle => value idle
  | fuel + 1, idle => do
    let a ← value idle
    if ← takes "||" then
      let b ← disjunction value fuel (idle || a != 0)
      return ofBool (a != 0 || b != 0)
    else return a

/-- One of two values, as a third says. Every unit of fuel pays for a choice. -/
def conditional (value whole : Bool → Working Int) : Nat → Bool → Working Int
  | 0, idle => value idle
  | fuel + 1, idle => do
    let a ← value idle
    if ← takes "?" then
      let b ← whole (idle || a == 0)
      if ← takes ":" then
        let c ← conditional value whole fuel (idle || a != 0)
        return if a != 0 then b else c
      else throw (.expecting "':'")
    else return a

/-- An operator that gives a variable a value, and the operator that makes the value. -/
def assigning? (o : String) : Option (Option String) :=
  if o = "=" then some none
  else if ["<<=", ">>=", "+=", "-=", "*=", "/=", "%=", "&=", "^=", "|="].contains o then
    some (some (String.ofList o.toList.dropLast))
  else none

/-- The value of an expression. Every unit of fuel pays for a sign. -/
def value : Nat → Bool → Working Int
  | 0, _ => throw (.expecting "primary")
  | fuel + 1, idle => do
    let plain : Working Int :=
      conditional (disjunction (conjunction (fun idle => do
        let one := primary (value fuel) idle (fuel + 1)
        operations one idle (fuel + 1) 7 (← one)) fuel) fuel) (value fuel) fuel idle
    match (← get).rest with
    | .name s :: .operator o :: rest =>
      match assigning? o with
      | none => plain
      | some by_ =>
        modify fun w => { w with rest }
        let n ← value fuel idle
        if idle then return n
        let n ← match by_ with
          | none => pure n
          | some o =>
            match combine o (← lookUp s) n with
            | .ok n => pure n
            | .error fault => throw fault
        modify fun w => { w with variables_ := withEntry s (toString n).toList w.variables_ }
        return n
    | _ => plain

/-- The value of an expression, and the variables behind it. -/
def evaluate (variables_ : List (List Char × List Char)) (expression : List Char) :
    Except SumFault (Int × List (List Char × List Char)) := do
  let rest := signs expression.length expression
  let (n, work) ← (value (rest.length + 1) false).run ⟨rest, variables_⟩
  if work.rest.isEmpty then return (n, work.variables_) else throw (.expecting "EOF")

end DiagramStudio.Script.Sum
