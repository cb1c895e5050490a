import DiagramStudio.Text.Case

/-!
How much the program says of what it does.
-/

namespace DiagramStudio.Command

inductive LogLevel where
  | off
  | error
  | warn
  | info
  | debug
  | trace
deriving Repr, DecidableEq, Inhabited

namespace LogLevel

def name : LogLevel → String
  | off => "off"
  | error => "error"
  | warn => "warn"
  | info => "info"
  | debug => "debug"
  | trace => "trace"

/-- The level of a name in any case. -/
def ofName? (word : String) : Option LogLevel :=
  [off, error, warn, info, debug, trace].find? fun level =>
    Text.sameFolded level.name.toList word.toList

/-- The level that stands for a name of none, and what is said then. -/
def ofWord (word : String) : LogLevel × Option String :=
  match ofName? word with
  | some level => (level, none)
  | none => (warn, some ("Invalid log level: " ++ word ++ ". Using 'warn' instead."))

/-- Something is said of a run: of one that fails from errors on, of any from information on. -/
def speaks (level : LogLevel) (failed : Bool) : Bool :=
  match level with
  | off => false
  | error => failed
  | warn => failed
  | _ => true

end LogLevel

end DiagramStudio.Command
