import DiagramStudio.Script.Caller

/-!
Running scripts: what each kind of command makes of the machine. Commands hold others, so a step is told
how those are carried out; `run` ties the two together.
-/

namespace DiagramStudio.Script

open Shell

namespace Running

/-! ## What commands name -/

/-- What the first word of a command stands for. -/
inductive Meaning where
  | function (body : Command)
  /-- A command of the shell itself. -/
  | builtin (name : String)
  | program

def meaning (m : Machine) (name : List Char) (functions : Bool) : Meaning :=
  match if functions then entryFor? name m.functions else none with
  | some body => .function body
  | none => if Builtin.isBuiltin (String.ofList name) then .builtin (String.ofList name) else .program

def isKey (name : List Char) : Bool := Key.all.any fun k => k.spelling.toList == name

/-- What is said of a name, and whether it stands for anything. -/
def described (m : Machine) (name : List Char) : List Char × Bool :=
  match isKey name, entryFor? name m.aliases with
  | true, _ => (name ++ " is a shell keyword".toList, true)
  | false, some text => (name ++ " is an alias for ".toList ++ text, true)
  | false, none =>
    match meaning m name true with
    | .function _ => (name ++ " is a shell function".toList, true)
    | .builtin tool =>
      (name ++ (if Builtin.isSpecial tool then " is a special shell builtin"
        else " is a shell builtin").toList, true)
    | .program =>
      match Program.path? m name with
      | some path => (name ++ " is ".toList ++ path, true)
      | none => (name ++ ": not found".toList, false)

/-- Names described, each in a line. -/
def describe (names : List (List Char)) (m : Machine) : Machine :=
  names.foldl (fun m name =>
    let (row, known) := described m name
    let m := m.emit 1 (row ++ ['\n'])
    if known then m else { m with status := 127 }) { m with status := 0 }

/-- How a name would be called. -/
def spelled (name : List Char) (m : Machine) : Machine :=
  let found : Option (List Char) :=
    match isKey name, entryFor? name m.aliases with
    | true, _ => some name
    | false, some text => some ("alias ".toList ++ name ++ '=' :: Builtin.quoted text)
    | false, none =>
      match meaning m name true with
      | .program => Program.path? m name
      | _ => some name
  match found with
  | some text => { m.emit 1 (text ++ ['\n']) with status := 0 }
  | none => { m with status := 127 }

/-! ## Programs -/

/-- What starts a program whose words are so many. -/
def starter (carry : Carry) (words : Nat) : Starter := Caller.start carry (words + 8)

/-- A program started by the shell, by a process of its own if it could change anything that others see. -/
def startProgram (carry : Carry) (name : List Char) (args : List (List Char)) : Act Unit := do
  let m ← get
  if name.isEmpty then set (m.complain ": Permission denied".toList 127)
  else
    match Program.find m name with
    | .missing => set (m.complain (name ++ ": not found".toList) 127)
    | .refused => set (m.complain (name ++ ": Permission denied".toList) 126)
    | program =>
      let begin_ := starter carry args.length program name args
      if Caller.isSelfContained program then
        begin_
        modify noticed
      else inner id begin_

/-- The shell replaced by a program. -/
def replace (carry : Carry) (args : List (List Char)) : Act Unit := do
  let m ← get
  match args with
  | [] => set { m with status := 0 }
  | name :: args =>
    match Program.find m name with
    | .missing => set (m.complain (name ++ ": not found".toList) 127).ended
    | .refused => set (m.complain (name ++ ": Permission denied".toList) 126).ended
    | program =>
      set { m with traps := m.traps.filter (·.2.isEmpty) }
      starter carry args.length program name args
      modify fun m => { m with flow := .ended, traps := [] }

/-! ## Commands of the shell that lead others -/

/-- The status that a number stands for. -/
def statusOf (n : Nat) : Nat := n % 256

/-- Words as a number, or what there is without them. -/
def numberOr (default : Nat) (args : List (List Char)) (m : Machine) (act : Nat → Machine) : Machine :=
  match args with
  | [] => act default
  | word :: _ =>
    match Builtin.number? word with
    | some n => act n
    | none => m.fault (Builtin.illegalNumber word)

/-- Loops left, or gone on with. -/
def leave (flow : Nat → Flow) (args : List (List Char)) (m : Machine) : Machine :=
  numberOr 1 args m fun n =>
    if n = 0 then m.fault (Builtin.illegalNumber (args.headD []))
    else if m.loops = 0 then { m with status := 0 }
    else { m with status := 0, flow := flow (min n m.loops) }

/-- A file of commands carried out in the shell itself. -/
def source (carry : Carry) (args : List (List Char)) : Act Unit := do
  let m ← get
  match args with
  | [] => set { m with status := 0 }
  | name :: _ =>
    let path? : Option (List Char) :=
      if name.contains Path.separator then some name
      else
        ((Program.directories (m.value "PATH".toList)).map fun directory =>
          if directory.isEmpty then name else directory ++ Path.separator :: name).find? fun path =>
            (m.disk.read (pathOf path)).toOption.isSome
    match path? with
    | none => set (m.fault (name ++ ": not found".toList))
    | some path =>
      match m.disk.read (pathOf path) with
      | .error fault => set (m.fault (fileFault true path fault))
      | .ok bytes =>
        set { m with caller := path }
        text carry false (charsOf bytes)
        modify fun after =>
          { after with caller := m.caller, flow := if after.flow = .returning then .on else after.flow }

/-! ## Signals -/

/-- What is to be done on a signal that has come. The status stays what it was. -/
def answer (carry : Carry) (signal : Nat) : Act Unit := do
  let m ← get
  match entryFor? signal m.traps with
  | some (c :: more) =>
    text carry false (c :: more)
    modify fun after => if after.goes then { after with status := m.status } else after
  | _ => return

/-- What is to be done on all signals that have come. -/
def answerAll (carry : Carry) : List Nat → Act Unit
  | [] => return
  | signal :: more => do
    answer carry signal
    if (← get).goes then answerAll carry more

/-- What there is to tell of the command before is told, and what is to be done on signals is done. -/
def settle (carry : Carry) : Act Unit := do
  let m ← get
  if !m.notice.isEmpty then set { m.emit 2 m.notice with notice := [] }
  if !m.caught.isEmpty then
    modify fun m => { m with caught := [] }
    answerAll carry m.caught

/-- A signal sent to the shell by itself. -/
def strikeSelf (carry : Carry) (signal : Nat) : Act Unit := do
  let m ← get
  match if signal = Signal.kill then none else entryFor? signal m.traps with
  | some _ => answer carry signal
  | none => if Signal.ignored.contains signal then return else set (m.kill signal)

/-- A signal sent to what a word names. -/
def send (carry : Carry) (signal : Nat) (word : List Char) : Act Unit := do
  let m ← get
  let process? : Option Nat :=
    if word.head? = some '%' then none
    else Builtin.number? (if word.head? = some '-' then word.tail else word)
  match process?, word.head? with
  | none, some '%' =>
    if (Builtin.jobNamed? m word).isSome then set (m.complain "No such process\n".toList 1)
    else set (m.fault ("No such job: ".toList ++ word))
  | none, _ => set (m.fault (Builtin.illegalNumber word))
  | some process, _ =>
    if process = m.process then if signal = 0 then return else strikeSelf carry signal
    else if (entryFor? process m.lives).isNone then set (m.complain "No such process\n".toList 1)
    else if signal = 0 then return
    else
      set (m.strike process signal)
      Act.rest signalTime
where
  /-- How long it takes until a signal has reached its process. -/
  signalTime : Int := 20000

/-- Signals sent to what words name. -/
def sendAll (carry : Carry) (signal : Nat) : List (List Char) → Act Unit
  | [] => return
  | word :: more => do
    send carry signal word
    if (← get).goes then sendAll carry signal more

/-- Signals sent to processes, or told by their names. -/
def sendSignal (carry : Carry) (args : List (List Char)) : Act Unit := do
  let m ← get
  let usage := "Usage: kill [-s sigspec | -signum | -sigspec] [pid | job]... or\nkill -l [exitstatus]".toList
  let toAll (signal : Nat) (words : List (List Char)) : Act Unit := do
    if words.isEmpty then set (m.fault usage)
    else
      set { m with status := 0 }
      sendAll carry signal words
  match args with
  | [] => set (m.fault usage)
  | ('-' :: 'l' :: []) :: rest =>
    match rest with
    | [] =>
      set { m.emit 1 ((Signal.names.drop 1).flatMap fun name => name.toList ++ ['\n']) with status := 0 }
    | word :: _ =>
      match Builtin.number? word with
      | none => set (m.fault (Builtin.illegalNumber word))
      | some n =>
        let signal := if 128 < n then n - 128 else n
        if 0 < signal && signal < Signal.count then
          set { m.emit 1 (Signal.name signal ++ ['\n']) with status := 0 }
        else set (m.fault ("invalid signal number or exit status: ".toList ++ word))
  | ('-' :: 's' :: []) :: word :: rest =>
    match Signal.ofWord? word with
    | some signal => toAll signal rest
    | none => set (m.fault ("invalid signal number or name: ".toList ++ word))
  | ('-' :: '-' :: []) :: rest => toAll Signal.terminate rest
  | ('-' :: c :: more) :: rest =>
    match Signal.ofWord? (c :: more) with
    | some signal => toAll signal rest
    | none => set (m.fault (Builtin.illegalOption c))
  | words => toAll Signal.terminate words

/-! ## Jobs -/

/-- The end of a job is waited for, or a signal on which something is to be done. -/
def awaitJob (job : Chore) : Act Unit := do
  Act.wait (fun m => m.isOver job.process || !m.caught.isEmpty) none
  let m ← get
  match m.caught with
  | signal :: _ => set { m with status := 128 + signal }
  | [] =>
    match entryFor? job.process m.lives with
    | some life =>
      let told := if job.noticed then none else life.struck.bind Signal.told?
      let m := match told with
        | some what => m.emit 2 (what.toList ++ ['\n'])
        | none => m
      set { m with status := life.ended.getD 0 }
    | none => set { m with status := 127 }

/-- The ends of all that words name are waited for. -/
def awaitNamed : List (List Char) → Act Unit
  | [] => return
  | word :: more => do
    let m ← get
    let job? : Option Chore :=
      if word.head? = some '%' then Builtin.jobNamed? m word
      else (Builtin.number? word).bind fun n => m.jobs.find? fun job => job.process == n
    match job? with
    | some job =>
      awaitJob job
      if (← get).caught.isEmpty then awaitNamed more
    | none =>
      if word.head? = some '%' then set (m.fault ("No such job: ".toList ++ word))
      else if (Builtin.number? word).isNone then set (m.fault (Builtin.illegalNumber word))
      else
        set { m with status := 127 }
        awaitNamed more

/-- What is not waited for otherwise is waited for. -/
def await (args : List (List Char)) : Act Unit := do
  match args.filter (· != ['-', '-']) with
  | [] =>
    Act.wait (fun m => m.jobs.all (fun job => m.isOver job.process) || !m.caught.isEmpty) none
    modify fun m =>
      match m.caught with
      | signal :: _ => { m with status := 128 + signal }
      | [] => { noticed m with status := 0 }
  | words =>
    modify fun m => { m with status := 0 }
    awaitNamed words

/-- A command of the shell carried out. -/
def callBuiltin (carry : Carry) (tested : Bool) (name : String) (args : List (List Char)) : Act Unit := do
  match name with
  | "break" => modify (leave .leaving args)
  | "continue" => modify (leave .repeating args)
  | "return" =>
    modify fun m => numberOr m.status args m fun n => { m with status := statusOf n, flow := .returning }
  | "exit" =>
    modify fun m => numberOr m.status args m fun n => { m with status := statusOf n, flow := .ended }
  | "eval" =>
    if args.isEmpty then modify fun m => { m with status := 0 }
    else text carry tested ([' '].intercalate args)
  | "." => source carry args
  | "exec" => replace carry args
  | "kill" => sendSignal carry args
  | "wait" => await args
  | "type" => modify (describe args)
  | "hash" =>
    modify fun m =>
      let isKnown (word : List Char) : Bool :=
        (Program.path? m word).isSome || (match meaning m word true with
          | .program => false
          | _ => true)
      Builtin.eachWord m args fun m word =>
        if word.head? = some '-' || isKnown word then m else m.complain (word ++ ": not found".toList) 1
  | "command" =>
    match args with
    | [] => modify fun m => { m with status := 0 }
    | word :: rest =>
      if word = "-v".toList then
        match rest with
        | [] => modify fun m => { m with status := 0 }
        | name :: _ => modify (spelled name)
      else modify (describe rest)
  | "read" =>
    match Builtin.readOptions args with
    | .ok (asItIs, _ :: _) => Act.wait (Builtin.hasLine asItIs 0) none
    | _ => pure ()
    modify (Builtin.read args)
  | _ =>
    match Builtin.byName? name with
    | some act => modify (act args)
    | none => return

/-- The words of a command behind the word that has it called as any other. -/
def behindCommand : List (List Char) → Option (List (List Char))
  | [] => none
  | word :: rest =>
    if word = "-p".toList then behindCommand rest
    else if word = "--".toList then if rest.isEmpty then none else some rest
    else if word.head? = some '-' && word != ['-'] then none
    else some (word :: rest)

/-! ## Calls -/

/-- The most functions that may be around a command. -/
def depthMax : Nat := 1000

/-- A function carried out with parameters of its own. -/
def callFunction (carry : Carry) (tested : Bool) (body : Command) (args : List (List Char)) : Act Unit := do
  let m ← get
  if depthMax ≤ m.depth then set (m.fault "Maximum function recursion depth (1000) reached".toList)
  else
    set { m with params := args, depth := m.depth + 1, loops := 0, saved := [] :: m.saved
                 nextOption := (1, none) }
    carry tested body
    modify fun after =>
      let after := after.restore (after.saved.headD [])
      { after with params := m.params, depth := m.depth, loops := m.loops, saved := m.saved
                   nextOption := m.nextOption
                   flow := if after.flow = .returning then .on else after.flow }

/-- The fields of the words of a call. Words behind the name of a command that gives variables values are
    not cut if they are assignments. -/
def arguments (capture : Capture) : List Word → Trial (List (List Char))
  | [] => return []
  | w :: more => do
    let found ← fields capture [w]
    match found with
    | [] => arguments capture more
    | name :: _ =>
      if Builtin.declares (String.ofList name) then
        let rest ← more.mapM fun w =>
          if (Reader.assignment? w).isSome then do return [← single capture w]
          else fields capture [w]
        return found ++ rest.flatten
      else return found ++ (← fields capture more)

/-- The values of assignments put in place one after another. `passing` says that programs are told of
    them. -/
def assignAll (capture : Capture) (passing : Bool) : List (List Char × Word) → Trial (List (List Char))
  | [] => return []
  | (name, w) :: more => do
    let value ← single capture w
    modify fun m => m.assign name value
    if !(← get).goes then throw ()
    if passing then modify fun m => m.export_ name
    return (name ++ '=' :: value) :: (← assignAll capture passing more)

/-- The machine after the words of a command have been shown, where complaints went before it. -/
def trace (words : List (List Char)) (m : Machine) : Machine :=
  if m.has 'x' then
    let channels := m.outer.headD m.channels
    { { m with channels }.emit 2 (m.value "PS4".toList ++ [' '].intercalate words ++ ['\n']) with
      channels := m.channels }
  else m

/-- The machine after a command of the shell that could not write all that it wanted to. -/
def afterWriting (name : List Char) (m : Machine) : Machine :=
  match m.unwritten with
  | none => m
  | some fault =>
    let m := { m with unwritten := none }
    if fault = .brokenPipe && (entryFor? Signal.pipe m.traps).isNone then m.kill Signal.pipe
    else { m.complain (name ++ ": I/O error".toList) 1 with unwritten := none }

/-- What a name with words makes of the machine. `special` says that faults end the shell. -/
def dispatch (carry : Carry) (tested : Bool) (name : List Char) (args : List (List Char))
    (found : Meaning) (special : Bool) : Act Unit := do
  match found with
  | .function body => callFunction carry tested body args
  | .builtin tool =>
    let m ← get
    set { m with caller := name, unwritten := none }
    callBuiltin carry tested tool args
    modify fun after =>
      let after := if leadsOthers tool then after else afterWriting name after
      { after with caller := m.caller
                   flow := if after.flow = .faulted && !special then .on else after.flow }
  | .program => startProgram carry name args
where
  leadsOthers (tool : String) : Bool := ["eval", ".", "exec", "wait"].contains tool

/-- How long a command takes that starts no program. -/
def callTime : Int := 5000

/-- A call: words, bindings and assignments are put in place in this order. -/
def call (carry : Carry) (tested : Bool) (line : Nat) (sets : List (List Char × Word)) (words : List Word)
    (bounds : List Bound) : Act Unit := do
  Act.rest callTime
  modify fun m => { m with line, captured := none }
  match ← (arguments (capture carry) words).result? with
  | none => return
  | some shownWords =>
    let m ← get
    if !m.goes then return
    -- A word may say that the command is to be called as any other.
    let behind := if shownWords.head? = some "command".toList
        && (entryFor? "command".toList m.functions).isNone then behindCommand shownWords.tail else none
    let words := behind.getD shownWords
    let found := words.head?.map fun name => meaning m name behind.isNone
    let special := match found with
      | some (.builtin tool) => behind.isNone && Builtin.isSpecial tool
      | _ => false
    let lasts := special || words.isEmpty
    let replaces := words.head? = some "exec".toList
    modify Machine.enter
    match ← bindAll carry bounds with
    | none => modify Machine.leave
    | some false =>
      modify fun after =>
        let after := after.leave
        { after with flow := if special then .faulted else after.flow }
    | some true =>
      let bound ← get
      let kept := if lasts then [] else sets.map fun (name, _) => bound.kept name
      let passing := !lasts || (replaces && 1 < words.length)
      match ← (assignAll (capture carry) passing sets).result? with
      | none => modify Machine.leave
      | some shownSets =>
        modify (trace (shownSets ++ shownWords))
        match words, found with
        | name :: args, some found => dispatch carry tested name args found special
        | _, _ => modify fun ready => { ready with status := ready.captured.getD 0 }
        modify fun after =>
          let after := after.restore kept
          if replaces && words.length = 1 && after.goes then after.stay else after.leave

/-! ## Loops and choices -/

/-- How a loop goes on behind a part of it: whether it does, and the machine with one loop less to be
    left. -/
def behindPart (m : Machine) : Bool × Machine :=
  match m.flow with
  | .on => (true, m)
  | .leaving (n + 2) => (false, { m with flow := .leaving (n + 1) })
  | .leaving _ => (false, { m with flow := .on })
  | .repeating (n + 2) => (false, { m with flow := .repeating (n + 1) })
  | .repeating _ => (true, { m with flow := .on })
  | _ => (false, m)

/-- The rounds of a loop, which ends with the status of the last. Every unit of fuel pays for one. -/
def rounds (carry : Carry) (tested until_ : Bool) (test body : Command) : Nat → Nat → Act Unit
  | 0, status => modify fun m => { m with status }
  | fuel + 1, status => do
    carry true test
    let m ← get
    if !m.goes then
      let (goesOn, m) := behindPart m
      if goesOn then
        set m
        rounds carry tested until_ test body fuel status
      else set (if m.goes then { m with status } else m)
    else if (m.status == 0) == until_ then set { m with status }
    else
      carry tested body
      let (goesOn, m) := behindPart (← get)
      set m
      if goesOn then rounds carry tested until_ test body fuel m.status

/-- A loop over values. -/
def eachValue (carry : Carry) (tested : Bool) (name : List Char) (body : Command) : List (List Char) → Act Unit
  | [] => return
  | value :: more => do
    modify fun m => m.assign name value
    if (← get).goes then
      carry tested body
      let (goesOn, m) := behindPart (← get)
      set m
      if goesOn then eachValue carry tested name body more

/-- Something done within one more loop. -/
def within (act : Act Unit) : Act Unit := do
  let m ← get
  set { m with loops := m.loops + 1 }
  act
  modify fun after => { after with loops := m.loops }

/-- Whether one of some patterns matches. -/
def matchesAny (capture : Capture) (subject : List Char) : List Word → Trial Bool
  | [] => return false
  | w :: more => do
    if Sign.matchAll (← pattern capture w) subject then return true else matchesAny capture subject more

/-- The branch of a selection whose patterns match. -/
def branch? (capture : Capture) (subject : List Char) : List (List Word × Command) → Trial (Option Command)
  | [] => return none
  | (patterns, body) :: more => do
    if ← matchesAny capture subject patterns then return some body else branch? capture subject more

/-! ## Commands -/

/-- A failure that nothing looks at ends the shell if it is told so. -/
def strict (tested : Bool) : Act Unit := modify fun m =>
  if m.has 'e' && !tested && m.status != 0 && m.flow != .faulted then m.ended else m

/-- The most rounds of a loop. -/
def roundMax : Nat := 100000

/-- A command as jobs show it. -/
def shownJob : Command → List Char
  | .pipe stages => (List.replicate (stages.length - 1) " | ".toList).flatten
  | _ => []

/-- A command carried out with bindings of its own. -/
def withBounds (carry : Carry) (line : Nat) (bounds : List Bound) (act : Act Unit) : Act Unit := do
  modify fun m => { m with line }.enter
  match ← bindAll carry bounds with
  | some true => act
  | _ => pure ()
  modify Machine.leave

/-- A command carried out, those in it as `carry` does it. -/
def step (carry : Carry) (tested : Bool) (c : Command) : Act Unit := do
  match c with
  | .nothing => return
  | .call line sets words bounds =>
    call carry tested line sets words bounds
    strict tested
  | .bound line body bounds => withBounds carry line bounds (carry tested body)
  | .inner line body bounds =>
    modify fun m => { m with line }
    inner id do
      match ← bindAll carry bounds with
      | some true =>
        carry tested body
        finish carry
      | _ => finish carry
    strict tested
  | .sequence first second =>
    carry tested first
    if (← get).goes then carry tested second
  | .both first second =>
    carry true first
    let m ← get
    if m.goes && m.status == 0 then carry tested second
  | .either first second =>
    carry true first
    let m ← get
    if m.goes && m.status != 0 then carry tested second
  | .pipe stages =>
    pipe carry tested stages
    strict tested
  | .negation body =>
    carry true body
    modify fun m => if m.goes then { m with status := if m.status = 0 then 1 else 0 } else m
  | .apart body => apart carry (shownJob body) body
  | .choice test yes no =>
    carry true test
    let m ← get
    if m.goes then
      if m.status = 0 then carry tested yes
      else
        match no with
        | .nothing => set { m with status := 0 }
        | no => carry tested no
  | .loop until_ test body => within (rounds carry tested until_ test body roundMax 0)
  | .each line name words body =>
    modify fun m => { m with line }
    match ← (fields (capture carry) words).result? with
    | none => return
    | some values =>
      if (← get).goes then
        within do
          modify fun m => { m with status := 0 }
          eachValue carry tested name body values
  | .select line subject branches =>
    modify fun m => { m with line }
    let trial : Trial (Option Command) := do
      branch? (capture carry) (← single (capture carry) subject) branches
    match ← trial.result? with
    | none => return
    | some found =>
      if (← get).goes then
        match found with
        | some (.nothing) => modify fun m => { m with status := 0 }
        | some body => carry tested body
        | none => modify fun m => { m with status := 0 }
  | .define name body => modify fun m => { m with functions := withEntry name body m.functions, status := 0 }

/-- A command carried out; each unit of fuel allows one more command around another. Nothing is carried
    out while scripts are only read. -/
def run : Nat → Carry
  | 0, _, _ => return
  | fuel + 1, tested, c => do
    let m ← get
    if m.has 'n' then return
    if !m.notice.isEmpty || !m.caught.isEmpty then settle (run fuel)
    if (← get).goes then step (run fuel) tested c

/-- How many commands may be around another. -/
def depthFuel : Nat := 100000

end Running

end DiagramStudio.Script
