import DiagramStudio.Command.Transcript
import Std.Time.Zoned

/-!
The program. It copies what the command line names from the file system, carries the command line out
on the copy, and writes back what has changed. Where the command line asks for a picture, the renderer
runs in front of that, and what it has left is copied. How a program is started is up to whoever runs
this one.
-/

namespace DiagramStudio.Program

open Command

/-- What starts a program with words and waits for its end: its status, and what it wrote about errors. -/
abbrev Start := (command : String) → (words : List String) → IO (Except SystemFault (Nat × List UInt8))

/-! ## Copies -/

/-- The paths that a command line may read or write. -/
def concerned (home : String) (i : Invocation) : List String :=
  let session (dataDir : Option String) : String :=
    String.ofList (Path.join ((dataDir.map String.toList).getD (dataDirectory home)) SessionFile.fileName)
  let named := match i.task with
    | .check input => [input]
    | .render input output _ => input :: output.toList
    | .share input _ _ _ => [input]
    | .open_ _ output _ dataDir => session dataDir :: output.toList
  [String.ofList localConfig, String.ofList (homeConfig home)] ++ i.config.toList ++ named

def isDirectory (path : String) : IO Bool := do
  try
    let _ ← IO.FS.Handle.mk (path ++ "/.") .read
    return true
  catch _ => return false

/-- The copy with what stands at a place, if anything does. -/
def copyPlace (disk : Disk) (place : Place) : IO Disk := do
  let path := "/" ++ "/".intercalate place
  if ← isDirectory path then return disk.put place .directory
  try
    return disk.put place (.file (← IO.FS.readBinFile path).toList)
  catch _ => return disk

/-- The copy with all places on the way of a path. -/
def copyPath (disk : Disk) (path : String) : IO Disk := do
  let mut disk := disk
  let mut place := disk.start path.toList
  for name in Path.steps path.toList do
    if name = Path.above then place := place.dropLast
    else
      place := place ++ [String.ofList name]
      disk ← copyPlace disk place
  return disk

/-- A copy of the places on the way of some paths. -/
def copyOf (paths : List String) : IO Disk := do
  let here ← IO.currentDir
  let mut disk : Disk := .empty
  disk ← copyPath disk here.toString
  disk := { disk with here := (Path.steps here.toString.toList).map String.ofList }
  for path in paths do
    disk ← copyPath disk path
  return disk

/-- What has changed in a copy, written back. -/
def writeBack (before after : Disk) : IO Unit := do
  for (place, _) in after.places do
    let path := "/" ++ "/".intercalate place
    if before.at? place != after.at? place then
      match after.at? place with
      | some .directory => IO.FS.createDir path
      | some (.file bytes) => IO.FS.writeBinFile path ⟨bytes.toArray⟩
      | _ => pure ()

/-! ## Runs -/

/-- What reading the picture of a renderer gives. -/
def pictureAt (path : String) : IO (Except SystemFault (List UInt8)) := do
  try
    return .ok (← IO.FS.readBinFile path).toList
  catch
    | .noFileOrDirectory .. => return .error .notFound
    | .permissionDenied .. => return .error .notPermitted
    | fault => return .error (.other (toString fault))

/-- A job done by the program that it names, in a directory that is there for it only. -/
def runJob (start : Start) (job : Job) : IO (Except LaunchFault Ending) := do
  try
    IO.FS.withTempDir fun directory => do
      IO.FS.writeFile (Job.inputPath directory.toString) job.source
      match ← start job.command (job.words directory.toString) with
      | .error fault => return .error (.start fault)
      | .ok (status, complaint) =>
        return .ok ⟨status == 0, complaint, ← pictureAt (Job.outputPath directory.toString)⟩
  catch fault => return .error (.scratch (.other (toString fault)))

/-- The time of day where the program runs. -/
def timeNow : IO Timestamp := do
  let now ← Std.Time.PlainDateTime.now
  return ⟨now.year.toInt, now.month.val.toNat, now.day.val.toNat, now.hour.val.toNat,
    now.minute.val.toNat, now.second.val.toNat⟩

def show_ (t : Transcript) : IO UInt32 := do
  if let some notice := t.notice then IO.eprintln notice
  IO.print t.printed
  for remark in t.diary do
    IO.eprintln remark
  return UInt32.ofNat t.exitCode

/-- A command line carried out. All that it can ask of the renderer is one job, which is done first. -/
def run (start : Start) (words : List String) : IO UInt32 := do
  match Command.read words with
  | .error fault => show_ fault.transcript
  | .ok invocation =>
    let home := (← IO.getEnv "HOME").getD ""
    let paths := concerned home invocation
    let idle : Surroundings := ⟨← copyOf paths, home, ← timeNow, fun _ disk => (.error (.start .notFound), disk)⟩
    let mut found := idle.disk
    let mut launch := idle.launch
    if let some job := job? idle invocation then
      let ended ← runJob start job
      let left ← copyOf paths
      found := left
      launch := fun _ _ => (ended, left)
    let effect := Command.run { idle with launch } invocation
    writeBack found effect.disk
    show_ (effect.transcript invocation.logLevel)

end DiagramStudio.Program
