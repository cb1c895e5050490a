import DiagramStudio.Script.Builtin
import DiagramStudio.Script.Field

/-!
Shells: texts carried out line by line, shells within a shell, the outputs of commands that words take
in, and what numbers are bound to. All of it is told how single commands are carried out.
-/

namespace DiagramStudio.Script

/-- What carries out a command. `tested` says that something looks at whether it fails. -/
abbrev Carry := (tested : Bool) → Command → Act Unit

namespace Shell

/-! ## Texts -/

/-- The lines of a text carried out, each when those before it have been. Every unit of fuel pays for a
    line. -/
def lines (carry : Carry) (tested : Bool) : Nat → Source → Act Unit
  | 0, _ => return
  | fuel + 1, source => do
    let m ← get
    match StateT.run Reader.line { source with documents := m.documents, aliases := m.aliases } with
    | .error (line, fault) => set ({ m with line }.fault fault.message.toList)
    | .ok (none, _) => return
    | .ok (some c, source) =>
      set { m with documents := source.documents, reading := source.line }
      carry tested c
      if (← get).goes then lines carry tested fuel source

/-- A text carried out. -/
def text (carry : Carry) (tested : Bool) (s : List Char) : Act Unit := do
  let m ← get
  if s.all Builtin.isWhite then set { m with status := 0 }
  lines carry tested (s.length + 1) ⟨s, 1, none, [], m.documents, [], [], none⟩
  modify fun after => { after with reading := m.reading }

/-- A shell at its end, after what is to be done there: that does not tell how it ended, unless it ends
    the shell once more. -/
def finish (carry : Carry) : Act Unit := do
  let m ← get
  match entryFor? 0 m.traps with
  | none => return
  | some s =>
    set { m with traps := withoutEntry 0 m.traps, flow := .on, loops := 0, caller := [] }
    text carry false s
    modify fun after => if after.goes then { after with status := m.status } else after

/-! ## Shells within a shell -/

/-- What is told of a process that a signal has ended. -/
def tellStruck (life : Life) (m : Machine) : Machine :=
  match life.struck.bind Signal.told? with
  | some what => { m with notice := what.toList ++ ['\n'] }
  | none => m

/-- The machine after jobs have ended while something else was waited for. -/
def noticed (m : Machine) : Machine :=
  if m.jobs.isEmpty then m
  else { m with jobs := m.jobs.map fun job => { job with noticed := job.noticed || m.isOver job.process } }

/-- A process is waited for; its status is that of the command. -/
def await (process : Nat) : Act Unit := do
  let life ← Act.join process
  modify fun m => tellStruck life { noticed m with status := life.ended.getD 0 }

/-- Something carried out by a process of its own, which is waited for. -/
def inner (start : Machine → Machine) (body : Act Unit) : Act Unit := do
  await (← Act.part (fun m => start { m.forInner with outer := [] }) body)

/-- A machine that has opened something, and the number of that. -/
def opened (m : Machine) (o : Opening) : Machine × Nat :=
  ({ m with openings := m.openings ++ [(m.nextOpening, o)], nextOpening := m.nextOpening + 1 },
    m.nextOpening)

/-- What a process writes, without the ends of lines behind it, once all have ended who could write
    more; and how it ended. -/
def captured (body : Act Unit) : Act (List Char × Life) := do
  let (m, pipe) := (← get).withPipe [] true
  let (m, end_) := opened m (.pipe pipe true)
  set m
  let child ← Act.part
    (fun m => { m.forInner with outer := [], channels := withEntry 1 end_ m.channels }) body
  Act.wait (fun m => m.isOver child && m.isDry pipe) none
  let life ← Act.join child
  let m ← get
  let out := m.collected pipe
  set { m with pipes := withoutEntry pipe m.pipes }
  return ((out.reverse.dropWhile (· == '\n')).reverse, life)

/-- What a command writes. -/
def capture (carry : Carry) : Capture := fun body => do
  let (out, life) ← captured do
    carry false body
    finish carry
  modify fun m => { m with captured := life.ended }
  return out

/-- Processes begin of which each reads what the one before writes; their numbers. What binds them to one
    another is held until all have begun. -/
def stages (carry : Carry) (tested : Bool) : List Command → (input : Option Nat) → Act (List Nat)
  | [], _ => return []
  | body :: more, input => do
    let m ← get
    let (m, ends?) : Machine × Option (Nat × Nat) :=
      if more.isEmpty then (m, none)
      else
        let (m, pipe) := m.withPipe [] false
        let (m, out) := opened m (.pipe pipe true)
        let (m, next) := opened m (.pipe pipe false)
        (m, some (out, next))
    let between := (ends?.map fun (out, next) => [(1, out), (0, next)]).getD []
    set { m with outer := between :: m.outer }
    let child ← Act.part (fun m =>
      let channels := match input with
        | some input => withEntry 0 input m.channels
        | none => m.channels
      let channels := match ends? with
        | some (out, _) => withEntry 1 out channels
        | none => channels
      { m.forInner with outer := [], channels })
      (do
        carry tested body
        finish carry)
    let others ← stages carry tested more (ends?.map (·.2))
    modify fun m => { m with outer := m.outer.tail }
    return child :: others

/-- Commands carried out by processes of which each reads what the one before writes. -/
def pipe (carry : Carry) (tested : Bool) (bodies : List Command) : Act Unit := do
  let children ← stages carry tested bodies none
  for child in children.dropLast do
    let _ ← Act.join child
  match children.getLast? with
  | some last => await last
  | none => return

/-- A command that is not waited for; it finds no input. -/
def apart (carry : Carry) (shown : List Char) (body : Command) : Act Unit := do
  let (m, input) := opened (← get) .sink
  set m
  let child ← Act.part
    (fun m => { m.forInner with outer := [], channels := withEntry 0 input m.channels })
    (do
      carry false body
      finish carry)
  modify fun m => { m with status := 0, jobs := m.jobs ++ [⟨child, shown, false⟩], lastJob := some child }

/-! ## Bindings -/

/-- The files that stand for what numbers are bound to. -/
def channelFile? (path : List Char) : Option Nat :=
  match String.ofList path with
  | "/dev/stdin" => some 0
  | "/dev/stdout" => some 1
  | "/dev/stderr" => some 2
  | _ =>
    (["/dev/fd/", "/proc/self/fd/"].findSome? fun front => Text.dropFront? front.toList path).bind
      Builtin.number?

/-- Why a file cannot be bound. -/
def fileFault (reads : Bool) (target : List Char) (fault : SystemFault) : List Char :=
  let missing := fault = .notFound ∨ fault = .notDirectory
  let why := if !missing then fault.text else if reads then "No such file" else "Directory nonexistent"
  (if reads then "cannot open " else "cannot create ").toList ++ target ++ ": ".toList ++ spread why

/-- The pipe behind a queue on the disk. -/
def queuePipe (m : Machine) (node : Nat) : Machine × Nat :=
  match (entryFor? node m.queues).filter fun pipe => (entryFor? pipe m.pipes).isSome with
  | some pipe => (m, pipe)
  | none =>
    let (m, pipe) := m.withPipe [] false
    ({ m with queues := withEntry node pipe m.queues }, pipe)

/-- A number bound to one end of a queue; someone has to be at the other end first. -/
def bindQueue (number node : Nat) (writes : Bool) : Act Unit := do
  let (m, pipe) := queuePipe (← get) node
  set (m.bind number (.pipe pipe writes))
  let isOther : Opening → Bool := fun
    | .pipe n other => n == pipe && other != writes
    | _ => false
  Act.wait (fun m => m.anyoneHolds true isOther || (!writes && !(m.collected pipe).isEmpty)) none
  -- The other end is given the time to see that someone is here.
  Act.rest 1000

/-- A number bound to something on the disk. -/
def bindNode (number node : Nat) (appends reads writes : Bool) : Act Unit := do
  let m ← get
  match m.disk.content? node with
  | some .queue =>
    if reads && writes then
      let (m, pipe) := queuePipe m node
      set (m.bind number (.pipe pipe false))
    else bindQueue number node writes
  | _ => set (m.bind number (.node node 0 appends reads writes))

/-- A file to be written bound to a number; `empties` says that it is emptied. -/
def bindWritten (number : Nat) (empties appends reads : Bool) (target : List Char) : Act (Except (List Char) Unit) := do
  let m ← get
  match m.disk.fileAt (pathOf target) with
  | .error fault => return .error (fileFault false target fault)
  | .ok place =>
    let disk := if empties || (m.disk.at? place).isNone then m.disk.fill place [] else m.disk
    set { m with disk }
    match disk.numberAt? place with
    | some node =>
      bindNode number node appends reads true
      return .ok ()
    | none => return .ok ()

/-- What another number is bound to, bound to a number. -/
def bindSame (number other : Nat) : Act (Except (List Char) Unit) := do
  let m ← get
  match entryFor? other m.channels with
  | some opening =>
    set { m with channels := withEntry number opening m.channels }
    return .ok ()
  | none => return .error (shown other ++ ": Bad file descriptor".toList)

/-- A number bound to a target; what is complained of if that cannot be done. -/
def bindTo (number : Nat) (binding : Binding) (target : List Char) : Act (Except (List Char) Unit) := do
  let m ← get
  match binding, channelFile? target with
  | .same, _ =>
    match target with
    | [d] =>
      if d.isDigit then bindSame number (d.toNat - '0'.toNat)
      else
        set (m.unbind number)
        return .ok ()
    | _ =>
      set (m.unbind number)
      return .ok ()
  | .document _, _ =>
    set (m.bindText number target)
    return .ok ()
  | _, some other => bindSame number other
  | .read, none =>
    match m.disk.locate (pathOf target) with
    | .error fault => return .error (fileFault true target fault)
    | .ok place =>
      if !m.disk.allowsAt place .read then return .error (fileFault true target .notPermitted)
      match m.disk.numberAt? place with
      | some node =>
        bindNode number node false true false
        return .ok ()
      | none => return .ok ()
  | .update, none => bindWritten number false false true target
  | .write anyway, none =>
    let there := (m.disk.locate (pathOf target)).toOption.bind m.disk.at?
    match m.has 'C' && !anyway, there with
    | true, some (.file _) => return .error (fileFault false target .exists_)
    | _, _ => bindWritten number true false false target
  | .append, none => bindWritten number false true false target

/-- The targets of bindings. -/
def targets (capture : Capture) : List Bound → Trial (List (Nat × Binding × List Char))
  | [] => return []
  | (number, binding, w) :: more => do
    let target ← match binding with
      | .document _ => do
        let index := ((String.ofList (spelling w)).toNat?).getD 0
        single capture ((← get).documents.getD index [])
      | _ => single capture w
    if binding = .same && target != ['-'] && !(target.length == 1 && target.all Char.isDigit) then
      modify fun m => { m with line := m.reading }
      Trial.refuse "Syntax error: Bad fd number".toList
    return (number, binding, target) :: (← targets capture more)

/-- Bindings done one after another, up to the first that fails; whether all are done. -/
def bindEach : List (Nat × Binding × List Char) → Act Bool
  | [] => return true
  | (number, binding, target) :: more => do
    match ← bindTo number binding target with
    | .ok () => bindEach more
    | .error what =>
      modify fun m => m.complain what 2
      return false

/-- Whether all bindings can be done; nothing if the shell ends. -/
def bindAll (carry : Carry) (bounds : List Bound) : Act (Option Bool) := do
  if bounds.isEmpty then return some true
  match ← (targets (capture carry) bounds).result? with
  | none => return none
  | some found => if (← get).goes then return some (← bindEach found) else return none

/-! ## Shells started by name -/

/-- The variables of a shell that has been told of none. -/
def firstVariables : List (List Char × List Char) :=
  [("PATH", "/usr/local/sbin:/usr/local/bin:/usr/sbin:/usr/bin:/sbin:/bin"), ("IFS", " \t\n"), ("OPTIND", "1"),
    ("PS1", "$ "), ("PS2", "> "), ("PS4", "+ ")].map fun (name, value) => (name.toList, value.toList)

/-- A machine as a shell of another begins with it: it knows what programs are told, and what the numbers
    are bound to. -/
def fresh (m : Machine) (name : List Char) : Machine :=
  let told := m.variables_.filter fun entry => m.exported.contains entry.1
  let own := firstVariables.filter fun entry =>
    !(told.any fun other => other.1 == entry.1) || entry.1 == "IFS".toList
  let here : List (List Char × List Char) := [("PWD".toList, Builtin.herePath m)]
  let told := told.filter fun entry => entry.1 != "IFS".toList && entry.1 != "PWD".toList
  let exported := (m.exported.filter fun name => told.any fun entry => entry.1 == name) ++ ["PWD".toList]
  { m.forInner with
    shell := m.process, name, params := [], variables_ := own ++ told ++ here, exported, fixed := [], functions := []
    status := 0, captured := none, line := 0, reading := 1, caller := [], flow := .on, options := [], loops := 0
    depth := 0, saved := [], nextOption := (1, none), aliases := [], jobs := [], lastJob := none }

/-- All that is left of an input that may still be growing, which is used up. -/
def wholeInput (number : Nat) : Act (List Char) := do
  match (← get).pipeRead? number with
  | some pipe => Act.wait (·.isDry pipe) none
  | none => pure ()
  let m ← get
  let s := m.input number
  set (m.setInput number [])
  return s

/-- The shell called by a name with words: with the script among them, with that of a file, or with the
    one that it reads. -/
def called (carry : Carry) (name : List Char) (args : List (List Char)) : Act Unit := do
  let (m, rest) := Builtin.switches true (args.length + 1) args (fresh (← get) name)
  let words := rest.getD []
  set m
  let script (s : List Char) : Act Unit := do
    text carry false s
    finish carry
  let fromInput (params : List (List Char)) : Act Unit := do
    modify fun m => { m.switch 's' true with params }
    script (← wholeInput 0)
  if !m.goes then return
  else if m.has 'c' then
    match words with
    | [] => set (m.fault "-c requires an argument".toList)
    | s :: more =>
      set { m with name := more.headD name, params := more.tail, line := 1 }
      script s
  else
    match words with
    | [] => fromInput []
    | path :: params =>
      if m.has 's' then fromInput words
      else
        match m.disk.read (pathOf path) with
        | .ok bytes =>
          set { m with name := path, params }
          script (charsOf bytes)
        | .error fault =>
          let why := if fault = .notPermitted then fault.text else "No such file"
          set (m.fault ("cannot open ".toList ++ path ++ ": ".toList ++ why.toList))

end Shell

end DiagramStudio.Script
