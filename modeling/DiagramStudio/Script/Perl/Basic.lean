import DiagramStudio.Script.Expression

/-!
Programs in Perl: their expressions and statements.
-/

namespace DiagramStudio.Script.Perl

/-- A name with the sign that tells what it is a name of. -/
structure Variable where
  sigil : Char
  name : List Char
deriving Repr, DecidableEq, Inhabited

/-- What a pattern is asked for besides. -/
abbrev Letters := List Char

/-- How a variable comes into being. -/
inductive Scope where
  | my
  | our
  | local_
deriving Repr, DecidableEq, Inhabited

mutual
inductive Expr where
  | whole (n : Int)
  | real (x : Float)
  | text (s : List Char)
  /-- A text with values put in. -/
  | filled (parts : List Piece)
  | variable_ (v : Variable)
  /-- What a reference leads to, of the kind that the sign tells. -/
  | behind (sigil : Char) (e : Expr)
  | item (array index : Expr)
  | entry (hash key : Expr)
  | items (array list : Expr)
  | entries (hash list : Expr)
  | picks (list places : Expr)
  | lastOf (array : Expr)
  | declare (scope : Scope) (isList : Bool) (vars : List Variable)
  | localized (e : Expr)
  | assign (op : Option String) (target value : Expr)
  | binary (op : String) (left right : Expr)
  | unary (op : String) (e : Expr)
  | choose (test yes no : Expr)
  | list (parts : List Expr)
  | arrayOf (parts : List Expr)
  | hashOf (parts : List Expr)
  | codeOf (body : List Statement)
  | referTo (e : Expr)
  | step (before up : Bool) (target : Expr)
  /-- All from one value to another; where a single value is asked for, from the first time that one test holds to
      the next time that the other does, which is known by a mark. -/
  | range (mark : Nat) (low high : Expr)
  | match_ (target : Option Expr) (pattern : List Piece) (letters : Letters)
  | compiled (pattern : List Piece) (letters : Letters)
  | substitute (target : Option Expr) (pattern : List Piece) (replacement : Expr) (letters : Letters)
  | translate (target : Option Expr) (from_ to_ : List Char) (letters : Letters)
  | call (name : List Char) (args : List Expr) (given : Bool)
  | callBehind (e : Expr) (args : List Expr)
  | method (object : Expr) (name : List Char) (args : List Expr)
  | builtin (name : String) (args : List Expr)
  | print (kind : String) (handle : Option Expr) (args : List Expr)
  | line (handle : Option Expr)
  | names (pattern : List Piece)
  | sorted (order : Option Expr) (list : List Expr)
  /-- Something done for each value of a list. -/
  | through (kind : String) (body : Expr) (list : List Expr)
  | block (body : List Statement)
  | trial (body : List Statement)
  | fileTest (letter : Char) (e : Expr)
  | command (parts : List Piece)
  | flow (kind : String) (label : List Char)
  | leave (value : Option Expr)
inductive Piece where
  | plain (s : List Char)
  | value (e : Expr)
  /-- Values with a separator between them. -/
  | values (e : Expr)
  /-- Letters behind this are made large or small up to the next such mark; a capital counts only for one. -/
  | mark (c : Char)
inductive Statement where
  | expr (line : Nat) (e : Expr)
  | if_ (line : Nat) (branches : List (Expr × List Statement)) (otherwise : List Statement)
  | while_ (line : Nat) (label : List Char) (until_ : Bool) (test : Option Expr) (body after : List Statement)
  | for_ (line : Nat) (label : List Char) (first test next : Option Expr) (body : List Statement)
  | each (line : Nat) (label : List Char) (own : Bool) (v : Variable) (list : Expr) (body : List Statement)
  | block (label : List Char) (body : List Statement)
  /-- A body, and a test behind it. -/
  | repeat_ (line : Nat) (until_ : Bool) (body : List Statement) (test : Expr)
  | function (name : List Char) (body : List Statement)
  /-- A body that is carried out before everything else, or behind everything. -/
  | atEdge (first : Bool) (body : List Statement)
  | use (line : Nat) (name : List Char) (words : List (List Char))
end

instance : Inhabited Expr := ⟨.whole 0⟩

instance : Inhabited Statement := ⟨.expr 0 default⟩

instance : Inhabited Piece := ⟨.plain []⟩

/-- Why a program cannot be read. -/
structure ProgramFault where
  /-- What is said of it, with `line` in place of where it is. -/
  lines : List (List Char)
deriving Repr, Inhabited

end DiagramStudio.Script.Perl
