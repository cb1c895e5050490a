import DiagramStudio.Script.Machine

/-!
Signals, by number and by name, and what a script does on them.
-/

namespace DiagramStudio.Script.Signal

/-- The names of the signals, the first of which is sent by nobody: it stands for the end of a script. -/
def names : List String :=
  ["EXIT", "HUP", "INT", "QUIT", "ILL", "TRAP", "ABRT", "BUS", "FPE", "KILL", "USR1", "SEGV", "USR2",
    "PIPE", "ALRM", "TERM", "STKFLT", "CHLD", "CONT", "STOP", "TSTP", "TTIN", "TTOU", "URG", "XCPU",
    "XFSZ", "VTALRM", "PROF", "WINCH", "IO", "PWR", "SYS"]

/-- How many signals there are. -/
def count : Nat := 65

def name (signal : Nat) : List Char := (names.getD signal (toString signal)).toList

/-- The signal that a word names. -/
def ofWord? (word : List Char) : Option Nat :=
  if !word.isEmpty && word.all Char.isDigit then
    ((String.ofList word).toNat?).filter (· < count)
  else names.findIdx? fun name => name.toList == word.map Char.toUpper

/-- What is told of a program that a signal has ended, if anything is. -/
def told? (signal : Nat) : Option String :=
  entryFor? signal
    [(1, "Hangup"), (3, "Quit"), (4, "Illegal instruction"), (5, "Trace/breakpoint trap"), (6, "Aborted"),
      (7, "Bus error"), (8, "Floating point exception"), (9, "Killed"), (10, "User defined signal 1"),
      (11, "Segmentation fault"), (12, "User defined signal 2"), (14, "Alarm clock"), (15, "Terminated")]

/-- The signal that asks a program to end. -/
def terminate : Nat := 15

/-- The signal that cannot be refused. -/
def kill : Nat := 9

/-- The signal of one who writes what nobody will read. -/
def pipe : Nat := 13

/-- The signals that end nothing. -/
def ignored : List Nat := [17, 18, 23, 28]

end DiagramStudio.Script.Signal
