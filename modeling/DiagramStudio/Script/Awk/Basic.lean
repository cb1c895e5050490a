import DiagramStudio.Script.Regular

/-!
Programs that go through lines and their fields: patterns, and what is to be done where they hold.
-/

namespace DiagramStudio.Script.Awk

/-- How two numbers are put together. -/
inductive Arithmetic where
  | add
  | subtract
  | multiply
  | divide
  | remainder
  | power
deriving Repr, DecidableEq, Inhabited

/-- How two values are compared. -/
inductive Comparison where
  | less
  | lessEqual
  | equal
  | notEqual
  | greater
  | greaterEqual
deriving Repr, DecidableEq, Inhabited

inductive Expr where
  | number (x : Float)
  | text (s : List Char)
  /-- An expression that is searched for: on its own, in the record. -/
  | regex (s : List Char)
  | variable_ (name : List Char)
  | item (table : List Char) (indexes : List Expr)
  | field (place : Expr)
  | assign (op : Option Arithmetic) (target value : Expr)
  | choose (test yes no : Expr)
  | both (left right : Expr)
  | either (left right : Expr)
  | not (e : Expr)
  | inside (indexes : List Expr) (table : List Char)
  | found (negated : Bool) (subject pattern : Expr)
  | arithmetic (op : Arithmetic) (left right : Expr)
  | compare (op : Comparison) (left right : Expr)
  | joined (left right : Expr)
  | negative (e : Expr)
  | positive (e : Expr)
  /-- A variable made larger or smaller by one; the value from before or from after that counts. -/
  | step (before up : Bool) (target : Expr)
  | builtin (name : String) (args : List Expr)
  | call (name : List Char) (args : List Expr)
  /-- The next line of the input, of a file, or of what a command writes. -/
  | line (target : Option Expr)
  | lineOfFile (target : Option Expr) (path : Expr)
  | lineOfCommand (target : Option Expr) (command : Expr)
  /-- What stands between parentheses: one expression or several. -/
  | group (parts : List Expr)
deriving Repr, Inhabited

/-- Where output goes. -/
inductive Goal where
  | file
  | append
  | command
deriving Repr, DecidableEq, Inhabited

inductive Statement where
  | expr (e : Expr)
  | print (formatted : Bool) (args : List Expr) (goal : Option (Goal × Expr))
  | if_ (test : Expr) (yes : Statement) (no : Option Statement)
  | while_ (test : Expr) (body : Statement)
  | repeat_ (body : Statement) (test : Expr)
  | for_ (first : Option Statement) (test : Option Expr) (next : Option Statement) (body : Statement)
  | each (name table : List Char) (body : Statement)
  | block (body : List Statement)
  | next
  | nextFile
  | exit (status : Option Expr)
  | return_ (value : Option Expr)
  | break_
  | continue_
  | delete (table : List Char) (indexes : Option (List Expr))
deriving Repr, Inhabited

/-- When something is to be done. -/
inductive Occasion where
  | first
  | last
  | always
  | where_ (e : Expr)
  /-- From a record that one pattern holds of to one that another holds of. -/
  | range (start finish : Expr)
deriving Repr, Inhabited

structure Rule where
  occasion : Occasion
  /-- What is done; the record is printed if that is not told. -/
  body : Option (List Statement)
deriving Repr, Inhabited

structure Function where
  params : List (List Char)
  body : List Statement
deriving Repr, Inhabited

structure Program where
  rules : List Rule
  functions : List (List Char × Function)
deriving Repr, Inhabited

/-- Why a program cannot be read. -/
structure ProgramFault where
  /-- The line in which that was found, and whether the place is told without the word for it. -/
  line : Nat
  bare : Bool
  what : List Char
deriving Repr, Inhabited

def ProgramFault.message (f : ProgramFault) : List Char :=
  (if f.bare then [] else "line ".toList) ++ (toString f.line).toList ++ ": ".toList ++ f.what

end DiagramStudio.Script.Awk
