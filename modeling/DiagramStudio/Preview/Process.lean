import DiagramStudio.Files.Disk
import DiagramStudio.Preview.Request

/-!
Engines that are programs of their own: they get the source in a file and leave the picture in
another. Both are in a directory that is there for one picture only.
-/

namespace DiagramStudio

/-- What a program is started for. -/
structure Job where
  command : String
  /-- The words that the program is given first. -/
  args : List String
  id : String
  source : String
deriving Repr, DecidableEq, Inhabited

/-- How a program ended. -/
structure Ending where
  success : Bool
  /-- What it wrote about errors. -/
  complaint : List UInt8
  /-- What reading its picture gives. -/
  picture : Except SystemFault (List UInt8)

/-- Why the program of a job has not run. -/
inductive LaunchFault where
  /-- The directory for its files, or the file with the source, could not be made. -/
  | scratch (fault : SystemFault)
  /-- It could not be started. -/
  | start (fault : SystemFault)
deriving Repr, DecidableEq, Inhabited

/-- What does jobs, by starting programs and waiting for their end; they may change the file system. -/
abbrev Launcher := Job → Disk → Except LaunchFault Ending × Disk

namespace Job

/-- The path of the source, in the directory that holds the files of a job. -/
def inputPath (directory : String) : String := directory ++ "/input.mmd"

/-- The path at which the picture is expected. -/
def outputPath (directory : String) : String := directory ++ "/output.svg"

/-- The words that the program is given. -/
def words (job : Job) (directory : String) : List String :=
  job.args ++ ["-i", inputPath directory, "-o", outputPath directory, "-I", job.id]

def complaint (job : Job) : LaunchFault → String
  | .scratch fault => "failed to prepare render input: " ++ fault.message
  | .start fault => "failed to run `" ++ job.command ++ "`: " ++ fault.message

/-- What becomes of a picture whose program has not run, or has ended. -/
def outcome (job : Job) : Except LaunchFault Ending → Outcome
  | .error fault => .error (.ofMessage (job.complaint fault))
  | .ok ending =>
    if ending.success then
      let text := match ending.picture with
        | .error fault => Except.error fault
        | .ok bytes =>
          match Text.Utf8.decode? bytes with
          | some text => .ok (String.ofList text)
          | none => .error .notText
      text.mapError fun fault => .ofMessage ("renderer produced no output: " ++ fault.message)
    else .error (.ofMessage (String.ofList (Text.trim (Text.Utf8.decodeLossy ending.complaint))))

end Job

/-- What starts a program with words in a file system: its status, what it wrote about errors, and the file system
    that it leaves. -/
abbrev Starter := (command : String) → (words : List String) → Disk → Except SystemFault (Nat × List UInt8 × Disk)

namespace Launcher

/-- The directory that holds the files of a job while its program runs. -/
def scratch : Place := ["tmp", ".render"]

def scratchPath : String := "/tmp/.render"

/-- The file system with the directory of a job, and its source in it. -/
def prepare (disk : Disk) (job : Job) : Except SystemFault Disk := do
  let disk ← disk.makeDirectory scratchPath.toList
  disk.writeText (Job.inputPath scratchPath).toList job.source.toList

/-- Jobs that are done by programs. The files of a job go when its program has ended. -/
def ofStarter (start : Starter) : Launcher := fun job disk =>
  match prepare disk job with
  | .error fault => (.error (.scratch fault), disk)
  | .ok prepared =>
    match start job.command (job.words scratchPath) prepared with
    | .error fault => (.error (.start fault), disk)
    | .ok (status, complaint, after) =>
      (.ok ⟨status == 0, complaint, after.read (Job.outputPath scratchPath).toList⟩, after.remove scratch)

end Launcher

/-- The engine of a program that is started anew for every picture. -/
def Launcher.engine (launch : Launcher) (command : String) (args : List String) : Engine (StateM Disk) :=
  fun id source disk =>
    let job : Job := ⟨command, args, id, source⟩
    let (ended, disk) := launch job disk
    (job.outcome ended, disk)

end DiagramStudio
