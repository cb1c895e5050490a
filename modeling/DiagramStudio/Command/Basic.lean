/-!
Command lines: what the program is asked to do, and in what surroundings.
-/

namespace DiagramStudio.Command

/-- What the program can be asked to do. -/
inductive Task where
  /-- To look for mistakes in a source. -/
  | check (input : String)
  /-- To draw a source and write the export of the picture. -/
  | render (input : String) (output title : Option String)
  /-- To print a link to a source. -/
  | share (input : String) (title : Option String) (viewer : Bool) (base : Option String)
  /-- To take the source out of a link. -/
  | open_ (link : String) (output : Option String) (save : Bool) (dataDir : Option String)
deriving Repr, DecidableEq, Inhabited

/-- A command line that was understood. -/
structure Invocation where
  task : Task
  /-- The configuration file that is asked for. -/
  config : Option String
  logLevel : String
deriving Repr, DecidableEq, Inhabited

/-- Why a command line leads to no task. -/
inductive UsageFault where
  /-- Help is asked for. -/
  | help
  /-- The version is asked for. -/
  | version
  /-- There is not a word. -/
  | nothing
  /-- There are words, but none says what to do. -/
  | noTask
  | unknownTask
  | noInput
  | unknownWord
  /-- An option without the value that it takes. -/
  | noValue
  /-- A value for an option that takes none. -/
  | surplusValue
  /-- An option that is given twice. -/
  | repeated
deriving Repr, DecidableEq, Inhabited

/-- Help and version are what was asked for; everything else is a mistake. -/
def UsageFault.exitCode : UsageFault → Nat
  | help => 0
  | version => 0
  | _ => 2

end DiagramStudio.Command
