import DiagramStudio.Editing.Storage
import DiagramStudio.Files.Disk
import DiagramStudio.Toml.Document

/-!
Storage in a file: all slots are one table of texts in a TOML document. A write reads the whole file,
changes one slot and writes the file again.
-/

namespace DiagramStudio

/-- The session file of a directory. -/
structure SessionFile where
  disk : Disk
  directory : List Char

namespace SessionFile

/-- The name of session files. -/
def fileName : List Char := "session.toml".toList

def path (f : SessionFile) : List Char := Path.join f.directory fileName

/-- All slots. A file that is not there holds none. -/
def slots (f : SessionFile) : Except StorageFault (List (String × String)) :=
  match f.disk.readText f.path with
  | .error .notFound => .ok []
  | .error fault => .error (.io fault)
  | .ok text =>
    match Toml.readTexts? text with
    | some entries => .ok entries
    | none => .error (.format "not a table of texts")

def read (f : SessionFile) (key : String) : Except StorageFault (Option String) :=
  f.slots.map (entryFor? key)

/-- The file with the given slots in it, in a directory that is made if it is not there. -/
def store (f : SessionFile) (entries : List (String × String)) : Except StorageFault Unit × SessionFile :=
  match f.disk.makeDirectories f.directory with
  | (.error fault, disk) => (.error (.io fault), { f with disk := disk })
  | (.ok (), disk) =>
    match disk.writeText f.path (Toml.writeTexts entries) with
    | .error fault => (.error (.io fault), { f with disk := disk })
    | .ok disk => (.ok (), { f with disk := disk })

def write (f : SessionFile) (key value : String) : Except StorageFault Unit × SessionFile :=
  match f.slots with
  | .error fault => (.error fault, f)
  | .ok entries => f.store (withEntry key value entries)

instance : Storage SessionFile where
  get := read
  set := write

end SessionFile

end DiagramStudio
