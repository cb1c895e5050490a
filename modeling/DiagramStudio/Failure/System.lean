/-!
Faults of the system under the program: what reading, writing and starting programs can end in.
-/

namespace DiagramStudio

/-- Why an operation of the system failed. -/
inductive SystemFault where
  | notFound
  | notPermitted
  | exists_
  | notDirectory
  | isDirectory
  | nameTooLong
  /-- More links on the way than are followed. -/
  | tooManyLinks
  | noSpace
  | notEmpty
  /-- Only the owner may do that. -/
  | notOwner
  /-- A file that can be started, but holds no program. -/
  | notProgram
  | invalid
  | brokenPipe
  | badNumber
  /-- A path that holds the character of code zero. -/
  | nulInPath
  /-- A word for a program that holds the character of code zero. -/
  | nulInWord
  /-- Bytes that spell no text. -/
  | notText
  | other (text : String)
deriving Repr, DecidableEq, Inhabited

namespace SystemFault

/-- What the fault is called. -/
def text : SystemFault → String
  | notFound => "No such file or directory"
  | notPermitted => "Permission denied"
  | exists_ => "File exists"
  | notDirectory => "Not a directory"
  | isDirectory => "Is a directory"
  | nameTooLong => "File name too long"
  | tooManyLinks => "Too many levels of symbolic links"
  | noSpace => "No space left on device"
  | notEmpty => "Directory not empty"
  | notOwner => "Operation not permitted"
  | notProgram => "Exec format error"
  | invalid => "Invalid argument"
  | brokenPipe => "Broken pipe"
  | badNumber => "Bad file descriptor"
  | nulInPath => "file name contained an unexpected NUL byte"
  | nulInWord => "nul byte found in provided data"
  | notText => "stream did not contain valid UTF-8"
  | other text => text

/-- The number that the system has for the fault. -/
def number? : SystemFault → Option Nat
  | notOwner => some 1
  | notFound => some 2
  | notProgram => some 8
  | badNumber => some 9
  | notPermitted => some 13
  | exists_ => some 17
  | notDirectory => some 20
  | isDirectory => some 21
  | invalid => some 22
  | noSpace => some 28
  | brokenPipe => some 32
  | nameTooLong => some 36
  | notEmpty => some 39
  | tooManyLinks => some 40
  | _ => none

def message (f : SystemFault) : String :=
  match f.number? with
  | some n => f.text ++ " (os error " ++ toString n ++ ")"
  | none => f.text

end SystemFault

end DiagramStudio
