import DiagramStudio.Script.Signal

/-!
Processes: what is carried out next to other things, and may have to wait for them. A process is known by
what becomes of it when it goes on; a table of processes lets one after another go on, each at its time.
-/

namespace DiagramStudio.Script

/-- What a process waits for: it goes on when the world is ready for it, and at a time in any case. -/
structure Pause where
  ready : Machine → Bool
  time? : Option Int
  /-- It goes on as well if nothing else can. -/
  patient : Bool

/-- What becomes of a process. -/
inductive Process where
  | ended (m : Machine)
  | paused (p : Pause) (m : Machine) (next : Machine → Process)
  /-- Another process begins. -/
  | parted (child : Machine) (body : Machine → Process) (m : Machine) (next : Machine → Process)

/-- Something that a process does, by what becomes of the process then. -/
def Act (α : Type) : Type := Machine → (α → Machine → Process) → Process

namespace Act

instance : Monad Act where
  pure a := fun m next => next a m
  bind act more := fun m next => act m fun a m => more a m next

instance : MonadStateOf Machine Act where
  get := fun m next => next m m
  set m := fun _ next => next () m
  modifyGet f := fun m next =>
    let (a, m) := f m
    next a m

/-- The process goes on when the world is ready, and at a time in any case. -/
def wait (ready : Machine → Bool) (time? : Option Int) : Act Unit :=
  fun m next => .paused ⟨ready, time?, false⟩ m (next ())

/-- The process goes on when the world is ready, or when nothing else can go on. -/
def waitPatiently (ready : Machine → Bool) : Act Unit :=
  fun m next => .paused ⟨ready, none, true⟩ m (next ())

/-- So many nanoseconds pass. -/
def rest (duration : Int) : Act Unit :=
  fun m next => .paused ⟨fun _ => false, some (m.disk.now + duration), false⟩ m (next ())

/-- Another process begins; its number. -/
def part (start : Machine → Machine) (body : Act Unit) : Act Nat := fun m next =>
  let number := m.nextProcess
  let m := { m with nextProcess := number + 1, lives := m.lives ++ [(number, ⟨m.process, none, none⟩)] }
  .parted { start m with process := number } (fun m => body m fun _ m => .ended m) m (next number)

end Act

namespace Machine

/-- A process has ended, or there never was one. -/
def isOver (m : Machine) (process : Nat) : Bool :=
  match entryFor? process m.lives with
  | some life => life.ended.isSome
  | none => true

/-- The process is one that another has started, or one that was started by such a process. Every unit of
    fuel pays for a step. -/
def descends (m : Machine) (ancestor : Nat) : Nat → Nat → Bool
  | 0, _ => false
  | fuel + 1, process =>
    match entryFor? process m.lives with
    | some life => life.parent == ancestor || m.descends ancestor fuel life.parent
    | none => false

/-- The machine after a signal has been sent. -/
def strike (m : Machine) (process signal : Nat) : Machine :=
  { m with strikes := m.strikes ++ [(process, signal)] }

end Machine

namespace Act

/-- The end of a process that this one has started is waited for; after that it is forgotten. -/
def join (process : Nat) : Act Life := do
  wait (·.isOver process) none
  let life := ((entryFor? process (← get).lives).getD ⟨0, some 127, none⟩)
  modify fun m => { m with lives := withoutEntry process m.lives }
  return life

end Act

/-! ## Tables -/

/-- A process that is not going on just now. -/
structure Task where
  machine : Machine
  pause : Pause
  next : Machine → Process

structure Schedule where
  world : World
  tasks : List Task

namespace Schedule

/-- What it takes to start a process: how long the one that starts it is busy, and the one that is
    started. -/
def partingTime : Int := 100000

def beginningTime : Int := 400000

/-- When a task can go on. -/
def time? (w : World) (t : Task) : Option Int :=
  if t.pause.ready (t.machine.within w) then some w.disk.now else t.pause.time?

/-- The first of the tasks that can go on at the earliest time, that time, and all other tasks. -/
def pick? (w : World) : List Task → Option (Task × Int × List Task)
  | [] => none
  | t :: more =>
    match time? w t, pick? w more with
    | none, none => none
    | some time, none => some (t, time, more)
    | none, some (other, time, rest) => some (other, time, t :: rest)
    | some time, some (other, later, rest) =>
      if time ≤ later then some (t, time, more) else some (other, later, t :: rest)

/-- The world without what no task has opened any more. -/
def swept (tasks : List Task) (w : World) : World :=
  let held := tasks.flatMap fun t => t.machine.holding
  let openings := w.openings.filter fun entry => held.contains entry.1
  let used (pipe : Nat) : Bool := openings.any fun
    | (_, .pipe n _) => n == pipe
    | _ => false
  { w with openings, pipes := w.pipes.filter fun entry => entry.2.collected || used entry.1 }

/-- The table after a process has ended. -/
def close (s : Schedule) (m : Machine) : Schedule :=
  let world := m.toWorld
  let lives := match entryFor? m.process world.lives with
    | some life => withEntry m.process { life with ended := some m.status, struck := m.struck } world.lives
    | none => world.lives
  { s with world := swept s.tasks { world with lives, held := withoutEntry m.process world.held } }

/-- The table after what becomes of a process. -/
def follow (s : Schedule) : Process → Schedule
  | .ended m => s.close m
  | .paused p m next =>
    { world := { m.toWorld with held := withEntry m.process m.holding m.held }
      tasks := s.tasks ++ [⟨m, p, next⟩] }
  | .parted child body m next =>
    let at_ (time : Int) : Pause := ⟨fun _ => false, some (m.disk.now + time), false⟩
    let held := withEntry child.process child.holding (withEntry m.process m.holding m.held)
    { world := { m.toWorld with held }
      tasks := s.tasks ++ [⟨m, at_ partingTime, next⟩, ⟨child, at_ beginningTime, body⟩] }

/-- A signal reaches the process that it is for. -/
def deliver (s : Schedule) (strike : Nat × Nat) : Schedule :=
  let (process, signal) := strike
  match s.tasks.find? fun t => t.machine.process == process with
  | none => s
  | some t =>
    let others := s.tasks.filter fun t => t.machine.process != process
    let ended : Schedule := { s with tasks := others }.close ((t.machine.within s.world).kill signal)
    if signal = Signal.kill then ended
    else
      match entryFor? signal t.machine.traps with
      | some [] => s
      | some _ =>
        let machine := { t.machine with caught := t.machine.caught ++ [signal] }
        { s with tasks := s.tasks.map fun t => if t.machine.process = process then { t with machine } else t }
      | none => if Signal.ignored.contains signal then s else ended

/-- All signals that have been sent reach their processes. -/
def deliverAll (s : Schedule) : Schedule :=
  s.world.strikes.foldl deliver { s with world := { s.world with strikes := [] } }

/-- A task goes on at a time, or later if it is later already. -/
def resume (s : Schedule) (t : Task) (time : Int) (others : List Task) : Schedule :=
  let disk := { s.world.disk with now := max s.world.disk.now time }
  { s with tasks := others }.follow (t.next (t.machine.within { s.world with disk }))

/-- One task goes on, if any can. -/
def step? (s : Schedule) : Option Schedule :=
  let s := if s.world.strikes.isEmpty then s else s.deliverAll
  match pick? s.world s.tasks with
  | some (t, time, others) => some (s.resume t time others)
  | none =>
    match s.tasks.find? (·.pause.patient) with
    | some t =>
      let others := s.tasks.filter fun other => other.machine.process != t.machine.process
      some (s.resume t s.world.disk.now others)
    | none => none

/-- Tasks go on until there is nothing left to wait for. Every unit of fuel pays for a step. -/
def run (isDone : Schedule → Bool) : Nat → Schedule → Schedule
  | 0, s => s
  | fuel + 1, s =>
    if isDone s then s
    else
      match s.step? with
      | some s => run isDone fuel s
      | none => s

end Schedule

end DiagramStudio.Script
