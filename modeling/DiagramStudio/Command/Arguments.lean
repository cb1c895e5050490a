import DiagramStudio.Command.Basic
import DiagramStudio.Text.White

/-!
Reading command lines: options in front of the task and behind it, the task, and its input. Words are
taken from left to right, and the first that cannot be taken ends it. An option that is given is looked
at again only when the next one comes, or at the end; so a mistake in a later word may be found first.
-/

namespace DiagramStudio.Command

/-! ## Options -/

inductive Flag where
  | config
  | logLevel
  | output
  | title
  | viewer
  | base
  | save
  | dataDir
  | help
  | version
deriving Repr, DecidableEq, Inhabited

namespace Flag

/-- The name behind two hyphens. -/
def name : Flag → String
  | config => "config"
  | logLevel => "log-level"
  | output => "output"
  | title => "title"
  | viewer => "viewer"
  | base => "base"
  | save => "save"
  | dataDir => "data-dir"
  | help => "help"
  | version => "version"

/-- The letter behind one hyphen. -/
def letter? : Flag → Option Char
  | config => some 'c'
  | output => some 'o'
  | title => some 't'
  | help => some 'h'
  | version => some 'V'
  | _ => none

def takesValue : Flag → Bool
  | viewer => false
  | save => false
  | help => false
  | version => false
  | _ => true

end Flag

/-- The words that say what to do. -/
inductive Verb where
  | check
  | render
  | share
  | open_
deriving Repr, DecidableEq, Inhabited

namespace Verb

def name : Verb → String
  | check => "check"
  | render => "render"
  | share => "share"
  | open_ => "open"

def ofName? (word : String) : Option Verb :=
  [check, render, share, open_].find? fun verb => verb.name == word

/-- The options behind a task. -/
def flags : Verb → List Flag
  | check => [.config, .logLevel, .help]
  | render => [.output, .title, .config, .logLevel, .help]
  | share => [.title, .viewer, .base, .config, .logLevel, .help]
  | open_ => [.output, .save, .dataDir, .config, .logLevel, .help]

end Verb

/-- The options in front of the task. -/
def leadingFlags : List Flag := [.config, .logLevel, .help, .version]

/-- The word that asks for help with a task. -/
def helpWord : String := "help"

/-! ## Words -/

/-- What a word looks like. -/
inductive Word where
  /-- Two hyphens alone: no option follows. -/
  | divider
  | long (name : List Char) (value : Option (List Char))
  | letters (row : List Char)
  | plain
deriving Repr, DecidableEq

def Word.ofText (word : List Char) : Word :=
  match word with
  | ['-', '-'] => divider
  | '-' :: '-' :: rest =>
    match Text.cut? (· == '=') rest with
    | some (name, value) => long name (some value)
    | none => long rest none
  | ['-'] => plain
  | '-' :: rest => letters rest
  | _ => plain

/-- What the words of one level have given so far. -/
structure Given where
  /-- Options with their values, those without a value with an empty one. -/
  settled : List (Flag × String) := []
  /-- An option that was begun, with its value once that has come. -/
  begun : Option (Flag × Option String) := none
  input : Option String := none
  /-- The divider has come. -/
  divided : Bool := false
deriving Repr, DecidableEq, Inhabited

namespace Given

/-- What an option was given. -/
def value? (g : Given) (flag : Flag) : Option String :=
  (g.settled.find? (·.1 == flag)).map (·.2)

def has (g : Given) (flag : Flag) : Bool := (g.value? flag).isSome

/-- One more option with its value; none may come twice. -/
def record (g : Given) (flag : Flag) (value : String) : Except UsageFault Given :=
  if g.has flag then .error .repeated else .ok { g with settled := (flag, value) :: g.settled }

/-- The option that was begun, if any, taken up. -/
def settle (g : Given) : Except UsageFault Given :=
  match g.begun with
  | none => .ok g
  | some (_, none) => .error .noValue
  | some (flag, some value) => ({ g with begun := none }).record flag value

/-- An option waits for its value. -/
def awaits (g : Given) : Bool :=
  match g.begun with
  | some (_, none) => true
  | _ => false

/-- The value of the option that waits for it. -/
def supply (g : Given) (value : String) : Given :=
  { g with begun := g.begun.map fun (flag, _) => (flag, some value) }

/-- An option whose value is in the same word, or follows. -/
def begin_ (g : Given) (flag : Flag) (value : Option (List Char)) : Except UsageFault Given := do
  let g ← g.settle
  match value with
  | some value => g.record flag (String.ofList value)
  | none => return { g with begun := some (flag, none) }

/-- An option that takes no value. Help and version end the reading. -/
def raise (g : Given) (flag : Flag) : Except UsageFault Given := do
  let g ← g.settle
  match flag with
  | .help => .error .help
  | .version => .error .version
  | _ => g.record flag ""

/-- The value behind a letter in the same word; an equals sign between them does not count. -/
def attached : List Char → Option (List Char)
  | [] => none
  | '=' :: value => some value
  | value => some value

/-- Letters behind one hyphen: options without a value may be followed by others. -/
def takeLetters (flags : List Flag) : Given → List Char → Except UsageFault Given
  | g, [] => .ok g
  | g, c :: rest =>
    match flags.find? (·.letter? == some c) with
    | none => .error .unknownWord
    | some flag =>
      if flag.takesValue then g.begin_ flag (attached rest)
      else
        match g.raise flag with
        | .error fault => .error fault
        | .ok g => takeLetters flags g rest

/-- A name behind two hyphens. -/
def takeLong (flags : List Flag) (g : Given) (name : List Char) (value : Option (List Char)) :
    Except UsageFault Given :=
  match flags.find? (·.name.toList == name) with
  | none => .error .unknownWord
  | some flag =>
    if flag.takesValue then g.begin_ flag value
    else if value.isSome then .error .surplusValue
    else g.raise flag

/-- A word that is an option, the value of one, or the divider; nothing if it is none of these. -/
def take? (flags : List Flag) (g : Given) (word : String) : Option (Except UsageFault Given) :=
  if g.divided then none
  else
    match Word.ofText word.toList with
    | .divider => some (.ok { g with divided := true })
    | .long name value => some (g.takeLong flags name value)
    | .letters row => some (g.takeLetters flags row)
    | .plain => if g.awaits then some (.ok (g.supply word)) else none

/-- A word that is no option: the input, of which there is one. -/
def takeInput (g : Given) (word : String) : Except UsageFault Given :=
  if g.input.isSome then .error .unknownWord
  else g.settle.map fun g => { g with input := some word }

/-- The words behind a task. -/
def takeAll (flags : List Flag) : Given → List String → Except UsageFault Given
  | g, [] => g.settle
  | g, word :: more =>
    match (g.take? flags word).getD (g.takeInput word) with
    | .error fault => .error fault
    | .ok g => takeAll flags g more

end Given

/-! ## The whole line -/

/-- The task of a verb with what was given behind it. -/
def Verb.task (verb : Verb) (g : Given) (input : String) : Task :=
  match verb with
  | check => .check input
  | render => .render input (g.value? .output) (g.value? .title)
  | share => .share input (g.value? .title) (g.has .viewer) (g.value? .base)
  | open_ => .open_ input (g.value? .output) (g.has .save) (g.value? .dataDir)

/-- The log level that nothing else is asked for. -/
def defaultLogLevel : String := "info"

/-- The words behind help: a task to be helped with, or help itself, or nothing. -/
def helpFault : List String → UsageFault
  | [] => .help
  | [word] => if (Verb.ofName? word).isSome || word == helpWord then .help else .unknownTask
  | _ => .unknownTask

/-- What the words behind a verb amount to, with what was given in front of it. An option behind the
    task counts more than the same option in front of it. -/
def finish (leading : Given) (verb : Verb) (words : List String) : Except UsageFault Invocation := do
  let g ← Given.takeAll verb.flags {} words
  match g.input with
  | none => .error .noInput
  | some input =>
    let leading ← leading.settle
    let value? := fun flag => (g.value? flag).orElse fun _ => leading.value? flag
    return ⟨verb.task g input, value? .config, (value? .logLevel).getD defaultLogLevel⟩

/-- The words in front of the task, and what follows. -/
def readFrom : Given → List String → Except UsageFault Invocation
  | g, [] => do
    let g ← g.settle
    .error (if g.settled.isEmpty then .nothing else .noTask)
  | g, word :: more =>
    let isTask := (Verb.ofName? word).isSome || word == helpWord
    if g.divided then .error (if isTask then .unknownWord else .unknownTask)
    else
      match (if g.awaits then none else Verb.ofName? word) with
      | some verb => finish g verb more
      | none =>
        if !g.awaits && word == helpWord then .error (helpFault more)
        else
          match (g.take? leadingFlags word).getD (.error .unknownTask) with
          | .error fault => .error fault
          | .ok g => readFrom g more

/-- What a command line asks for. -/
def read (words : List String) : Except UsageFault Invocation :=
  readFrom {} words

end DiagramStudio.Command
