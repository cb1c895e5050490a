import DiagramStudio.Command.Arguments
import DiagramStudio.Command.LogLevel
import DiagramStudio.Command.Run
import DiagramStudio.Failure.Report

/-!
What a run shows: its exit code, what it prints, and what it says of itself.
-/

namespace DiagramStudio.Command

structure Transcript where
  exitCode : Nat
  printed : String
  /-- A remark on the command line itself. -/
  notice : Option String
  /-- What is said of the run, line by line. -/
  diary : List String
deriving Repr, DecidableEq, Inhabited

/-- The program's name and version. -/
def versionLine : String := line "mermaid-studio-cli 0.1.0"

/-- How the program is used. -/
def helpText : String :=
  line "Usage: mermaid-studio [OPTIONS] <COMMAND>"
    ++ line ""
    ++ line "Commands:"
    ++ line "  check   <INPUT>"
    ++ line "  render  <INPUT> [-o <OUTPUT>] [-t <TITLE>]"
    ++ line "  share   <INPUT> [-t <TITLE>] [--viewer] [--base <BASE>]"
    ++ line "  open    <LINK> [-o <OUTPUT>] [--save] [--data-dir <DATA_DIR>]"
    ++ line "  help    [COMMAND]"
    ++ line ""
    ++ line "Options:"
    ++ line "  -c, --config <CONFIG>"
    ++ line "      --log-level <LOG_LEVEL>"
    ++ line "  -h, --help"
    ++ line "  -V, --version"

/-- What is said of a command line that leads to no task. -/
def UsageFault.remark : UsageFault → String
  | help => ""
  | version => ""
  | nothing => "a command is needed"
  | noTask => "a command is needed behind the options"
  | unknownTask => "there is no such command"
  | noInput => "an input is needed"
  | unknownWord => "an argument is not expected here"
  | noValue => "an option needs a value"
  | surplusValue => "an option takes no value"
  | repeated => "an option is given more than once"

/-- What a command line shows that leads to no task. -/
def UsageFault.transcript (fault : UsageFault) : Transcript :=
  match fault with
  | help => ⟨fault.exitCode, helpText, none, []⟩
  | version => ⟨fault.exitCode, versionLine, none, []⟩
  | _ => ⟨fault.exitCode, "", none, ["error: " ++ fault.remark, helpText]⟩

/-- A report on one line. -/
def reportLine (r : Report) : String :=
  let code := (r.code.map fun code => "[" ++ code ++ "]").getD ""
  let help := (r.help.map fun help => " (" ++ help ++ ")").getD ""
  "error" ++ code ++ ": " ++ r.message ++ help

/-- What is said of a run that has ended. -/
def diary (level : LogLevel) (result : Except Failure Unit) : List String :=
  match result with
  | .ok () => if level.speaks false then ["Completed successfully"] else []
  | .error failure => if level.speaks true then failure.reports.map reportLine else []

/-- What a command line shows that was carried out. -/
def Effect.transcript (effect : Effect) (logLevel : String) : Transcript :=
  let (level, notice) := LogLevel.ofWord logLevel
  let exitCode := match effect.result with
    | .ok () => 0
    | .error _ => 1
  ⟨exitCode, effect.printed, notice, diary level effect.result⟩

end DiagramStudio.Command
