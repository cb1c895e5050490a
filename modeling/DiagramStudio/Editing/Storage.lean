import DiagramStudio.Failure.System
import DiagramStudio.Keyed

/-!
Storage: slots that outlive a session, each holding a text under a key; and slots in memory, of which
some may fail.
-/

namespace DiagramStudio

/-- Why a slot was not read or not written. -/
inductive StorageFault where
  | io (fault : SystemFault)
  /-- What is stored is in no order that can be read. -/
  | format (detail : String)
deriving Repr, DecidableEq, Inhabited

def StorageFault.message : StorageFault → String
  | io fault => "storage I/O error: " ++ fault.message
  | format detail => "storage format error: " ++ detail

/-- Something that keeps texts under keys. A write that fails may leave a trace, so it too gives the
    storage after it. -/
class Storage (σ : Type) where
  get : σ → (key : String) → Except StorageFault (Option String)
  set : σ → (key value : String) → Except StorageFault Unit × σ

/-- Slots in memory. They count the writes that were done, and those under some keys fail. -/
structure MemoryStorage where
  slots : List (String × String) := []
  writes : Nat := 0
  readFaults : List (String × StorageFault) := []
  writeFaults : List (String × StorageFault) := []
deriving Inhabited

namespace MemoryStorage

/-- What is stored under a key, faults aside. -/
def stored? (s : MemoryStorage) (key : String) : Option String :=
  entryFor? key s.slots

/-- The storage with a value that was there from the start. -/
def preset (s : MemoryStorage) (key value : String) : MemoryStorage :=
  { s with slots := withEntry key value s.slots }

def read (s : MemoryStorage) (key : String) : Except StorageFault (Option String) :=
  match entryFor? key s.readFaults with
  | some fault => .error fault
  | none => .ok (s.stored? key)

def write (s : MemoryStorage) (key value : String) : Except StorageFault Unit × MemoryStorage :=
  match entryFor? key s.writeFaults with
  | some fault => (.error fault, s)
  | none => (.ok (), { s with slots := withEntry key value s.slots, writes := s.writes + 1 })

/-- The storage in which writes under a key fail from now on, or are done again. -/
def failing (s : MemoryStorage) (key : String) : Option StorageFault → MemoryStorage
  | some fault => { s with writeFaults := withEntry key fault s.writeFaults }
  | none => { s with writeFaults := withoutEntry key s.writeFaults }

instance : Storage MemoryStorage where
  get := read
  set := write

end MemoryStorage

end DiagramStudio
