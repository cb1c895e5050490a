import DiagramStudio.Text.White

/-!
Command scripts: the words and commands that they are made of, and what can be wrong with one. A script
works on bytes, so throughout its modules every character of a text stands for one byte.
-/

namespace DiagramStudio.Script

/-- What a value gives way to. -/
inductive Fallback where
  /-- A value that is missing gives way to a word. -/
  | replaced
  /-- A value that is missing gives way to a word, which becomes the value. -/
  | assigned
  /-- A value that is missing ends the script. -/
  | refused
  /-- A value that is there gives way to a word. -/
  | masked
deriving Repr, DecidableEq, Inhabited

/-- How a number is bound. -/
inductive Binding where
  | read
  /-- To a file that is emptied, even if files are to be kept. -/
  | write (anyway : Bool)
  | append
  /-- To a file that is read and written. -/
  | update
  /-- To what another number is bound to. -/
  | same
  /-- To a text of the script itself, of whose lines leading tabs may be stripped. -/
  | document (strips : Bool)
deriving Repr, DecidableEq, Inhabited

mutual

/-- A part of a word. What is quoted stands for itself: it is neither cut nor a pattern. -/
inductive Part where
  | text (quoted : Bool) (chars : List Char)
  /-- What a parameter stands for. -/
  | value (quoted : Bool) (name : List Char) (form : Form)
  /-- What commands write. -/
  | output (quoted : Bool) (body : Command)
  /-- What an expression amounts to. -/
  | sum (quoted : Bool) (expression : List Part)

/-- How a parameter is used. -/
inductive Form where
  | plain
  | length
  /-- Another word may take the place of the value; `orEmpty` says that an empty value counts as
      missing. -/
  | fallback (kind : Fallback) (orEmpty : Bool) (word : List Part)
  /-- Without what the pattern matches at one end. -/
  | trimmed (atEnd longest : Bool) (pattern : List Part)
  /-- In no way that is known. -/
  | unknown

/-- A command. Lists of bindings hold a number, how it is bound, and the word that says to what; the
    word of a document is the number of the document. -/
inductive Command where
  | nothing
  | call (line : Nat) (sets : List (List Char × List Part)) (words : List (List Part))
      (bounds : List (Nat × Binding × List Part))
  /-- A command with bindings of its own. -/
  | bound (line : Nat) (inner : Command) (bounds : List (Nat × Binding × List Part))
  /-- A command in a shell of its own, which keeps its changes to itself. -/
  | inner (line : Nat) (body : Command) (bounds : List (Nat × Binding × List Part))
  | sequence (first second : Command)
  | both (first second : Command)
  | either (first second : Command)
  /-- Commands of which each reads what the one before writes. -/
  | pipe (stages : List Command)
  | negation (body : Command)
  /-- A command that is not waited for. -/
  | apart (body : Command)
  | choice (test yes no : Command)
  /-- A command repeated while a test succeeds, or until it does. -/
  | loop (until_ : Bool) (test body : Command)
  | each (line : Nat) (name : List Char) (words : List (List Part)) (body : Command)
  | select (line : Nat) (subject : List Part) (branches : List (List (List Part) × Command))
  | define (name : List Char) (body : Command)

end

instance : Inhabited Part := ⟨.text false []⟩
instance : Inhabited Form := ⟨.plain⟩
instance : Inhabited Command := ⟨.nothing⟩

abbrev Word := List Part

/-- A number, how it is bound, and to what. -/
abbrev Bound := Nat × Binding × Word

/-- The word without quotes or values that this is, if it is one. -/
def bare? : Word → Option (List Char)
  | [.text false chars] => some chars
  | _ => none

/-- The characters of the texts of a word. -/
def spelling (w : Word) : List Char :=
  w.flatMap fun
    | .text _ chars => chars
    | _ => []

/-- The words of the language itself. -/
inductive Key where
  | not_
  | case_
  | do_
  | done
  | elif
  | else_
  | esac
  | fi
  | for_
  | if_
  | in_
  | then_
  | until_
  | while_
  | open_
  | close
deriving Repr, DecidableEq, Inhabited

def Key.spelling : Key → String
  | not_ => "!"
  | case_ => "case"
  | do_ => "do"
  | done => "done"
  | elif => "elif"
  | else_ => "else"
  | esac => "esac"
  | fi => "fi"
  | for_ => "for"
  | if_ => "if"
  | in_ => "in"
  | then_ => "then"
  | until_ => "until"
  | while_ => "while"
  | open_ => "\x7b"
  | close => "\x7d"

def Key.all : List Key :=
  [not_, case_, do_, done, elif, else_, esac, fi, for_, if_, in_, then_, until_, while_, open_, close]

inductive Token where
  | word (w : Word)
  | key (k : Key)
  | bind_ (number : Nat) (binding : Binding)
  | finish
  | newline
  | stop
  | apart
  | both
  | either
  | pipe
  | open_
  | close
  /-- The end of a branch of a selection. -/
  | endBranch
deriving Inhabited

namespace Token

/-- A token as complaints show it. -/
def shown : Token → String
  | word _ => "word"
  | key k => "\"" ++ k.spelling ++ "\""
  | bind_ .. => "redirection"
  | finish => "end of file"
  | newline => "newline"
  | stop => "\";\""
  | apart => "\"&\""
  | both => "\"&&\""
  | either => "\"||\""
  | pipe => "\"|\""
  | open_ => "\"(\""
  | close => "\")\""
  | endBranch => "\";;\""

/-- The key that a word is, if it is one; any other token as it is. -/
def keyed : Token → Token
  | word w =>
    match bare? w with
    | some chars =>
      match Key.all.find? fun k => k.spelling.toList == chars with
      | some k => key k
      | none => word w
    | none => word w
  | t => t

/-- A list of commands ends in front of the token. -/
def endsList : Token → Bool
  | finish | close | endBranch => true
  | key k => [Key.do_, .done, .elif, .else_, .esac, .fi, .then_, .close].contains k
  | _ => false

end Token

/-- Why a script cannot be read. -/
inductive ScriptFault where
  | unexpected (found : Token) (expected : Option Token)
  | unclosedQuote
  | unclosedBraces
  | unclosedSum
  | unclosedOutput
  | badLoopName
  | badFunctionName
  | badNumber
deriving Inhabited

namespace ScriptFault

def message : ScriptFault → String
  | unexpected found expected =>
    "Syntax error: " ++ found.shown ++ " unexpected"
      ++ (match expected with
        | some t => " (expecting " ++ t.shown ++ ")"
        | none => "")
  | unclosedQuote => "Syntax error: Unterminated quoted string"
  | unclosedBraces => "Syntax error: Missing '\x7d'"
  | unclosedSum => "Syntax error: Missing '))'"
  | unclosedOutput => "Syntax error: EOF in backquote substitution"
  | badLoopName => "Syntax error: Bad for loop variable"
  | badFunctionName => "Syntax error: Bad function name"
  | badNumber => "Syntax error: Bad fd number"

end ScriptFault

def isNameStart (c : Char) : Bool := c.isAlpha || c == '_'

def isNamePart (c : Char) : Bool := c.isAlphanum || c == '_'

/-- The text is the name of a variable. -/
def isName (s : List Char) : Bool :=
  (s.head?.map isNameStart).getD false && s.all isNamePart

/-- The parameters that are named by one sign. -/
def isSpecial (c : Char) : Bool :=
  c.isDigit || ['#', '?', '@', '*', '$', '!', '-'].contains c

end DiagramStudio.Script
