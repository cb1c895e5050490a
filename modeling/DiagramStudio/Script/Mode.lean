import DiagramStudio.Script.Format

/-!
Modes: the rights to a file, in digits of base eight, or as letters that say what is to be changed.
-/

namespace DiagramStudio.Script.Mode

/-- What the letters of a change stand for. -/
inductive Rights where
  | these (bits : Nat)
  /-- These, and the right to enter if it is a directory or someone may enter already. -/
  | entering (bits : Nat)
  /-- Those that some have already. -/
  | ofOthers (whose : Nat)
deriving Repr, DecidableEq, Inhabited

structure Change where
  /-- The bits of those whose rights are changed; none if nobody is named. -/
  whose : Nat
  /-- Rights are added, taken away, or set. -/
  sign : Char
  rights : Rights
  /-- The bits that have been named; the others are not changed of a directory if they are special. -/
  named : Nat
deriving Repr, DecidableEq, Inhabited

/-- The bits that a letter in front of a sign stands for. -/
def whoseBits (c : Char) : Nat :=
  match c with
  | 'u' => 0o4700
  | 'g' => 0o2070
  | 'o' => 0o1007
  | _ => 0o7777

/-- The bits that a letter behind a sign stands for. -/
def rightBits? (c : Char) : Option Nat :=
  match c with
  | 'r' => some 0o444
  | 'w' => some 0o222
  | 'x' => some 0o111
  | 's' => some 0o6000
  | 't' => some 0o1000
  | 'X' => some 0
  | _ => none

def isSign (c : Char) : Bool := c == '+' || c == '-' || c == '='

def isWhose (c : Char) : Bool := c == 'u' || c == 'g' || c == 'o' || c == 'a'

/-- The changes behind the letters that say whose rights they are for. Every unit of fuel pays for one. -/
def changes? (whose : Nat) : Nat → List Char → Option (List Change)
  | 0, _ => none
  | _ + 1, [] => some []
  | fuel + 1, sign :: rest =>
    if !isSign sign then none
    else
      let letters := rest.takeWhile (!isSign ·)
      let more := changes? whose fuel (rest.drop letters.length)
      let bits? := (letters.mapM rightBits?).map fun found => found.foldl (· ||| ·) 0
      let rights? : Option Rights := match letters, bits? with
        | [c], none => if isWhose c && c != 'a' then some (.ofOthers (whoseBits c)) else none
        | _, some bits => some (if letters.contains 'X' then .entering bits else .these bits)
        | _, none => none
      match rights?, more with
      | some rights, some found =>
        let bits := bits?.getD 0
        some (⟨whose, sign, rights, if whose = 0 then bits else whose &&& bits⟩ :: found)
      | _, _ => none

/-- The changes that a text asks for. -/
def read? (s : List Char) : Option (List Change) :=
  if s.isEmpty then none
  else if s.all isOctal then
    let bits := (Sum.digits 8 0 s).1
    let named := if s.length < 5 then (bits &&& 0o7000) ||| 0o777 else 0o7777
    if bits ≤ 0o7777 then some [⟨0o7777, '=', .these bits, named⟩] else none
  else
    let clauses := (Text.pieces (· == ',') s).map fun clause =>
      let letters := clause.takeWhile isWhose
      let whose := (letters.map whoseBits).foldl (· ||| ·) 0
      let behind := clause.drop letters.length
      if behind.isEmpty then none else changes? whose (behind.length + 1) behind
    (clauses.mapM id).map List.flatten

/-- The rights in each digit that anyone has among some bits. -/
def spreadRights (bits : Nat) : Nat :=
  let all (weight : Nat) : Nat := if (bits &&& (weight * 0o111)) = 0 then 0 else weight * 0o111
  all 4 + all 2 + all 1

/-- A mode after changes. What `mask` holds back is not changed for those who are not named. -/
def apply (changes : List Change) (directory : Bool) (mask mode : Nat) : Nat :=
  changes.foldl (fun mode c =>
    let value := match c.rights with
      | .these bits => bits
      | .entering bits => if directory || (mode &&& 0o111) != 0 then bits ||| 0o111 else bits
      | .ofOthers whose => spreadRights (mode &&& whose)
    let reach := if c.whose = 0 then 0o7777 ^^^ mask else c.whose
    let spared := if directory then 0o6000 &&& (0o7777 ^^^ c.named) else 0
    let value := value &&& reach &&& (0o7777 ^^^ spared)
    match c.sign with
    | '+' => mode ||| value
    | '-' => mode &&& (0o7777 ^^^ value)
    | _ => (mode &&& ((if c.whose = 0 then 0 else 0o7777 ^^^ c.whose) ||| spared)) ||| value) mode

/-- The rights of a digit as three letters. -/
def triple (digit : Nat) (special : Bool) (mark : Char) : List Char :=
  let last := if special then (if digit % 2 = 1 then mark else mark.toUpper) else if digit % 2 = 1 then 'x' else '-'
  [if digit / 4 % 2 = 1 then 'r' else '-', if digit / 2 % 2 = 1 then 'w' else '-', last]

/-- A mode as letters. -/
def letters (mode : Nat) : List Char :=
  triple (mode / 64 % 8) (mode / 0o4000 % 2 == 1) 's' ++ triple (mode / 8 % 8) (mode / 0o2000 % 2 == 1) 's'
    ++ triple (mode % 8) (mode / 0o1000 % 2 == 1) 't'

/-- A mode in digits of base eight. -/
def digits (mode : Nat) : List Char := Nat.toDigits 8 mode

/-- A mode in digits of base eight, four of them at least. -/
def fullDigits (mode : Nat) : List Char :=
  List.replicate (4 - (digits mode).length) '0' ++ digits mode

end DiagramStudio.Script.Mode
