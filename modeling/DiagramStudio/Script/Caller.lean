import DiagramStudio.Script.Awk.Running
import DiagramStudio.Script.Find
import DiagramStudio.Script.Perl.Calling
import DiagramStudio.Script.Shell

/-!
Programs found by their names, and programs that call others: with other variables, with words that they
read, or as they are.
-/

namespace DiagramStudio.Script

/-- What a name stands for among programs. -/
inductive Program where
  | known (tool : String)
  /-- A script in a file that can be started. -/
  | script (body : List Char)
  /-- A script in a file that names, with words in front of its own, the program that is to read it. -/
  | led (tool : String) (path : List Char) (words : List (List Char))
  /-- Something that cannot be started. -/
  | refused
  | missing
deriving Repr, DecidableEq, Inhabited

namespace Program

/-- What the file of a program that is known begins with; its name follows. -/
def mark : List Char := "\x7fELF".toList

/-- What the file of a program that is known holds. -/
def body (tool : String) : List Char := mark ++ tool.toList

/-- The program that is known by what its file holds. -/
def known? (body : List Char) : Option String :=
  ((Text.dropFront? mark body).map String.ofList).filter isProgram

/-- The path, and what stands behind it, in the first line of a script that names the program which is to
    read it. -/
def leader? (body : List Char) : Option (List Char × List (List Char)) :=
  (Text.dropFront? "#!".toList body).map fun rest =>
    let isGap (c : Char) : Bool := c == ' ' || c == '\t'
    let row := (rest.takeWhile (· != '\n')).dropWhile isGap
    let path := row.takeWhile (!isGap ·)
    let words := (((row.drop path.length).dropWhile isGap).reverse.dropWhile isGap).reverse
    (path, if words.isEmpty then [] else [words])

/-- What the file holds to which a path leads, if it may be started. -/
def bodyAt (m : Machine) (path : List Char) : Except SystemFault (List Char) :=
  match m.disk.locate (pathOf path) with
  | .error fault => .error fault
  | .ok place =>
    match m.disk.nodeAt? place with
    | some ⟨.file bytes, mode, owned, changed⟩ =>
      if (⟨.file bytes, mode, owned, changed⟩ : Node).allows .enter then .ok (charsOf bytes) else .error .notPermitted
    | _ => .error .notPermitted

/-- What a path stands for. -/
def ofPath (m : Machine) (path : List Char) : Program :=
  match bodyAt m path with
  | .error .notPermitted => refused
  | .error _ => missing
  | .ok body =>
    match known? body, leader? body with
    | some tool, _ => known tool
    | none, none => script body
    | none, some (inner, words) =>
      match (bodyAt m inner).map known? with
      | .ok (some tool) => led tool inner words
      | .error .notFound => missing
      | _ => refused

/-- What a name stands for in a directory. -/
def inDirectory (m : Machine) (directory name : List Char) : Program :=
  ofPath m (if directory.isEmpty then name else directory ++ Path.separator :: name)

/-- The parts of a list of directories. -/
def directories (s : List Char) : List (List Char) :=
  s.foldr (fun c parts =>
    if c = ':' then [] :: parts
    else
      match parts with
      | [] => [[c]]
      | first :: more => (c :: first) :: more) [[]]

/-- The directory in which a name without separators is found that can be started. -/
def home? (m : Machine) (name : List Char) : Option (List Char) :=
  (directories (m.value "PATH".toList)).find? fun directory =>
    match inDirectory m directory name with
    | known _ | script _ | led .. => true
    | _ => false

/-- What a name stands for. -/
def find (m : Machine) (name : List Char) : Program :=
  if name.isEmpty then missing
  else if name.contains Path.separator then ofPath m name
  else
    match home? m name with
    | some directory => inDirectory m directory name
    | none => missing

/-- The path of what a name stands for. -/
def path? (m : Machine) (name : List Char) : Option (List Char) :=
  match find m name with
  | known _ | script _ | led .. =>
    if name.contains Path.separator then some name
    else (home? m name).map fun directory => directory ++ Path.separator :: name
  | _ => none

end Program

/-- What starts a program by a name with words, in the process that goes on. -/
abbrev Starter := Program → (name : List Char) → (args : List (List Char)) → Act Unit

namespace Caller

/-- How long it takes until a program goes on that has been started. -/
def startingTime : Int := 700000

/-- A complaint of a program, and how it ended. -/
def tell (what : String) (status : Nat) : Act Unit :=
  modify fun m => { m.emit 2 (spread what ++ ['\n']) with status }

def tellUsage (tool what : String) (status : Nat) : Act Unit :=
  tell (tool ++ ": " ++ what ++ "\n" ++ tryHelp tool) status

/-- A program started that others name; `complaint` words what is said if there is none. -/
def through (start : Starter) (complaint : String → String) (words : List (List Char)) : Act Unit := do
  match words with
  | [] => modify fun m => { m with status := 0 }
  | name :: args =>
    match Program.find (← get) name with
    | .missing => tell (complaint SystemFault.notFound.text) 127
    | .refused => tell (complaint SystemFault.notPermitted.text) 126
    | p => start p name args

/-- Something done by a process of its own, which is waited for. -/
def apartFrom (act : Act Unit) : Act Unit := do
  Shell.inner id act
  modify fun m => { m with notice := [] }

/-! ## Variables for programs -/

/-- The variables that programs are told. -/
def environment (m : Machine) : List (List Char × List Char) :=
  m.exported.filterMap fun name => (entryFor? name m.variables_).map fun value => (name, value)

/-- The parts of a text that are words of a call, and are read as those. -/
def splitWords (s : List Char) : List (List Char) := (Text.words Builtin.isWhite s)

/-- A program started with other variables, or the variables shown. Every unit of fuel pays for a
    word. -/
def env (start : Starter) : Nat → List (List Char) → Act Unit
  | 0, _ => return
  | _ + 1, [] => modify fun m =>
    let rows := (environment m).flatMap fun (name, value) => name ++ '=' :: value ++ ['\n']
    { m.emit 1 rows with status := 0 }
  | fuel + 1, word :: rest => do
    let without (name : List Char) : Act Unit := modify (·.unset name)
    let alone : Act Unit := modify fun m => { m with exported := [] }
    let enter (directory : List Char) : Act Unit := do
      let m ← get
      match m.disk.locate (pathOf directory) with
      | .ok place => set { m with disk := { m.disk with here := place }, directory := [] }
      | .error fault =>
        tell ("env: cannot change directory to " ++ quoted directory ++ ": " ++ fault.text) 125
        modify (·.ended)
    match word with
    | ['-'] | ['-', 'i'] =>
      alone
      env start fuel rest
    | ['-', '-'] => env start fuel rest
    | ['-', 'u'] =>
      match rest with
      | [] => tellUsage "env" "option requires an argument -- 'u'" 125
      | name :: rest =>
        without name
        env start fuel rest
    | '-' :: 'u' :: name =>
      without name
      env start fuel rest
    | ['-', 'C'] =>
      match rest with
      | [] => tellUsage "env" "option requires an argument -- 'C'" 125
      | directory :: rest =>
        enter directory
        if (← get).goes then env start fuel rest
    | ['-', 'S'] =>
      match rest with
      | [] => tellUsage "env" "option requires an argument -- 'S'" 125
      | words :: rest => env start fuel (splitWords words ++ rest)
    | '-' :: 'S' :: words => env start fuel (splitWords words ++ rest)
    | '-' :: '-' :: more =>
      match Text.cut? (· == '=') more with
      | some (option, value) =>
        if option = "unset".toList then
          without value
          env start fuel rest
        else if option = "chdir".toList then
          enter value
          if (← get).goes then env start fuel rest
        else tellUsage "env" ("unrecognized option '" ++ told word ++ "'") 125
      | none =>
        if more = "ignore-environment".toList then
          alone
          env start fuel rest
        else tellUsage "env" ("unrecognized option '" ++ told word ++ "'") 125
    | '-' :: c :: _ => tellUsage "env" ("invalid option -- '" ++ told [c] ++ "'") 125
    | _ =>
      match Text.cut? (· == '=') word with
      | some (name, value) =>
        modify fun m => { m with variables_ := withEntry name value m.variables_ }.export_ name
        env start fuel rest
      | none => through start (fun why => "env: " ++ quoted word ++ ": " ++ why) (word :: rest)

/-- The values of variables that programs are told. -/
def printenv (args : List (List Char)) : Act Unit := modify fun m =>
  let told := environment m
  if args.isEmpty then
    { m.emit 1 (ofRows (told.map fun (name, value) => name ++ '=' :: value)) with status := 0 }
  else
    let rows := args.filterMap fun name => entryFor? name told
    { m.emit 1 (ofRows rows) with status := if rows.length = args.length then 0 else 1 }

/-! ## Words that are read -/

/-- The words of a text: blanks cut it unless they are quoted. `current` is the word that may go on.
    Nothing if a quote is open. Every unit of fuel pays for a character. -/
def readWords : Nat → Option (List Char) → List Char → Except Char (List (List Char))
  | 0, _, _ => .ok []
  | _ + 1, current, [] => .ok current.toList
  | fuel + 1, current, c :: rest =>
    let so := current.getD []
    if c = '\\' then
      match rest with
      | [] => .ok [so]
      | d :: rest => readWords fuel (some (so ++ [d])) rest
    else if c = '"' ∨ c = '\'' then
      match Text.cut? (· == c) rest with
      | some (body, rest) =>
        if body.contains '\n' then .error c else readWords fuel (some (so ++ body)) rest
      | none => .error c
    else if Builtin.isWhite c then
      match current with
      | some word => (readWords fuel none rest).map (word :: ·)
      | none => readWords fuel none rest
    else readWords fuel (some (so ++ [c])) rest

/-- The parts of a text between separators; one behind the last separator only if it is not empty. -/
def cutAt (separator : Char) (s : List Char) : List (List Char) :=
  let parts := s.foldr (fun c parts =>
    if c = separator then [] :: parts
    else
      match parts with
      | [] => [[c]]
      | first :: more => (c :: first) :: more) [[]]
  if parts.getLast? = some [] then parts.dropLast else parts

/-- Words in groups of so many. Every unit of fuel pays for a group. -/
def groups (size : Nat) : Nat → List (List Char) → List (List (List Char))
  | 0, _ => []
  | _ + 1, [] => []
  | fuel + 1, words => words.take size :: groups size fuel (words.drop size)

/-- A text with another in place of a mark. Every unit of fuel pays for a character. -/
def replaced (mark by_ : List Char) : Nat → List Char → List Char
  | 0, s => s
  | _ + 1, [] => []
  | fuel + 1, c :: rest =>
    if !mark.isEmpty && mark.isPrefixOf (c :: rest) then
      by_ ++ replaced mark by_ fuel ((c :: rest).drop mark.length)
    else c :: replaced mark by_ fuel rest

/-- How many words in front are options or their values; they end at the first word that is neither. -/
def optionCount : List (List Char) → Nat
  | [] => 0
  | word :: rest =>
    if word.head? = some '-' && word != ['-'] then
      if word.length = 2 && ['n', 'I', 'd', 'L', 'P', 's', 'a', 'E'].any word.contains then
        match rest with
        | [] => 1
        | _ :: more => 2 + optionCount more
      else 1 + optionCount rest
    else 0

/-- Lines of which those that end in a blank go on with the next one. -/
def joinedRows : List (List Char) → List (List Char)
  | [] => []
  | row :: more =>
    match row.getLast?, joinedRows more with
    | some ' ', next :: rest => (row ++ next) :: rest
    | _, rest => row :: rest

/-- The status of all calls so far and of one more. -/
def worse (worst status : Nat) : Nat :=
  if status = 0 then worst
  else if status = 126 ∨ status = 127 then status
  else if status = 255 then 124
  else if 128 < status then 125
  else max worst 123

/-- Programs called one after another, up to one that cannot be started. -/
def callEach (start : Starter) (shows : Bool) : Nat → List (List (List Char)) → Act Nat
  | worst, [] => return worst
  | worst, call :: more => do
    if shows then modify fun m => m.emit 2 ([' '].intercalate call ++ ['\n'])
    let (m, input) := Shell.opened (← get) .sink
    set m
    let child ← Act.part (fun m => { m.forInner with outer := [], channels := withEntry 0 input m.channels })
      (through start (fun why => "xargs: " ++ told (call.headD []) ++ ": " ++ why) call)
    let life ← Act.join child
    let status := life.ended.getD 0
    let after := worse worst status
    if status = 126 ∨ status = 127 then return after
    else if status = 255 then
      tell ("xargs: " ++ told (call.headD []) ++ ": exited with status 255; aborting") 124
      return after
    else if 128 < status then
      tell ("xargs: " ++ told (call.headD []) ++ ": terminated by signal " ++ toString (status - 128)) 125
      return after
    else callEach start shows after more

/-- A program started with words that are read. -/
def xargs (start : Starter) (args : List (List Char)) : Act Unit := do
  let options := args.take (optionCount args)
  let command := args.drop options.length
  let command := if command.isEmpty then ["echo".toList] else command
  match Options.read "0rtxp".toList "nIdLPsaE".toList
      [("null", '0'), ("no-run-if-empty", 'r'), ("max-args", 'n'), ("delimiter", 'd'), ("max-lines", 'L'),
        ("max-procs", 'P'), ("verbose", 't'), ("replace", 'I'), ("arg-file", 'a'), ("max-chars", 's')]
      (options.length + 1) options with
  | .error fault => tellUsage "xargs" fault.message 1
  | .ok o =>
    let text ← match o.value? 'a' with
      | some path => pure ((((← get).disk.read (pathOf path)).toOption.map charsOf).getD [])
      | none => Shell.wholeInput 0
    let separator? : Option Char :=
      if o.has '0' then some '\x00'
      else (o.value? 'd').bind fun s => (unescape (s.length + 1) s).1.head?
    let mark? := o.value? 'I'
    let words : Except Char (List (List Char)) :=
      match separator?, mark? with
      | some c, _ => .ok (cutAt c text)
      | none, some _ =>
        .ok (((cutAt '\n' text).map fun row => row.dropWhile fun c => c == ' ' || c == '\t').filter
          (!·.isEmpty))
      | none, none => readWords (text.length + 1) none text
    let byLines : Option (List (List (List Char))) := (o.value? 'L').map fun s =>
      let size := max ((TextTool.natural? s).getD 1) 1
      let rows := (joinedRows (cutAt '\n' text)).map fun row => ((readWords (row.length + 1) none row).toOption).getD []
      let rows := rows.filter (!·.isEmpty)
      (List.range ((rows.length + size - 1) / size)).map fun i => ((rows.drop (i * size)).take size).flatten
    match words with
    | .error c =>
      let kind := if c = '"' then "double" else "single"
      tell ("xargs: unmatched " ++ kind ++ " quote; by default quotes are special to xargs unless you "
        ++ "use the -0 option") 1
    | .ok words =>
      let size : Option (Option Nat) := match o.value? 'n' with
        | none => some none
        | some s => (TextTool.natural? s).map some
      match size with
      | none =>
        tellUsage "xargs" ("invalid number \"" ++ told ((o.value? 'n').getD []) ++ "\" for -n option") 1
      | some size =>
        let calls : List (List (List Char)) := match mark? with
          | some mark => words.map fun word => command.map fun w => replaced mark word (w.length + 1) w
          | none =>
            let found := match byLines, size with
              | some found, _ => found
              | none, some n => groups (max n 1) words.length words
              | none, none => [words]
            let found := if words.isEmpty then [[]] else found
            if words.isEmpty && o.has 'r' then [] else found.map (command ++ ·)
        let status ← callEach start (o.has 't') 0 calls
        modify fun m => { m with status }

/-! ## Programs as they are -/

/-- The words behind options in front, of which some take the word behind them. -/
def behindOptions (valued : List String) : List (List Char) → List (List Char)
  | [] => []
  | word :: rest =>
    if word = "--".toList then rest
    else if word.head? = some '-' && word != ['-'] then
      if valued.contains (String.ofList word) then
        match rest with
        | [] => []
        | _ :: more => behindOptions valued more
      else behindOptions valued rest
    else word :: rest

/-- A length of time in nanoseconds: a number, which may have a unit. -/
def duration? (word : List Char) : Option Int :=
  let (digits, unit) : List Char × Int := match word.getLast? with
    | some 's' => (word.dropLast, 1)
    | some 'm' => (word.dropLast, 60)
    | some 'h' => (word.dropLast, 3600)
    | some 'd' => (word.dropLast, 86400)
    | _ => (word, 1)
  if digits.head? = some '-' then none
  else if digits = "infinity".toList ∨ digits = "inf".toList then some (10 ^ 20)
  else
    (TextTool.Decimal.ofText? digits).map fun d =>
      d.scaled * unit * 10 ^ 9 / 10 ^ d.places

/-- Lengths of time one after another. -/
def sleep (words : List (List Char)) : Act Unit := do
  Act.rest startingTime
  match words with
  | [] => tellUsage "sleep" "missing operand" 1
  | _ =>
    match words.filter fun w => (duration? w).isNone with
    | [] =>
      Act.rest ((words.filterMap duration?).foldl (· + ·) 0)
      modify fun m => { m with status := 0 }
    | wrong => tell ("\n".intercalate
        ((wrong.map fun w => "sleep: invalid time interval " ++ quoted w) ++ [tryHelp "sleep"])) 1

/-- How a program is to be ended that takes too long. -/
structure Limit where
  time : Int
  signal : Nat
  /-- When it is ended in a way that it cannot refuse. -/
  last? : Option Int
  /-- Its own status is told in any case. -/
  keeps : Bool
  tells : Bool

/-- A signal sent to a process and all that it has started. -/
def strikeAll (process signal : Nat) : Act Unit := modify fun m =>
  let count := m.lives.length
  let found := (m.lives.map (·.1)).filter fun other => m.descends process count other
  (process :: found).foldl (fun m other => m.strike other signal) m

/-- A program that may take so long. -/
def limited (start : Starter) (limit : Limit) (name : List Char) (args : List (List Char)) : Act Unit := do
  let started ← get
  let child ← Act.part (fun m => { m.forInner with outer := [] })
    (through start (fun why => "timeout: failed to run command " ++ quoted name ++ ": " ++ why) (name :: args))
  let tellOf (signal : Nat) : Act Unit :=
    if limit.tells then
      modify fun m => m.emit 2 (spread ("timeout: sending signal " ++ String.ofList (Signal.name signal)
        ++ " to command " ++ quoted name ++ "\n"))
    else return
  let isOver (m : Machine) : Bool := m.isOver child
  if limit.time = 0 then Act.wait isOver none
  else Act.wait isOver (some (started.disk.now + limit.time))
  let late := !isOver (← get)
  if late then
    tellOf limit.signal
    strikeAll child limit.signal
    match limit.last? with
    | none => Act.wait isOver none
    | some more =>
      Act.wait isOver (some ((← get).disk.now + more))
      if !isOver (← get) then
        tellOf Signal.kill
        strikeAll child Signal.kill
        Act.wait isOver none
  let life ← Act.join child
  let own := life.ended.getD 0
  let status := if !late || limit.keeps then own
    else if life.struck = some Signal.kill then own
    else 124
  modify fun m => { m with status }

def timeout (start : Starter) (args : List (List Char)) : Act Unit := do
  let front := args.length - (behindOptions ["-s", "-k", "--signal", "--kill-after"] args).length
  match Options.read "vf".toList "sk".toList
      [("signal", 's'), ("kill-after", 'k'), ("preserve-status", 'p'), ("foreground", 'f'), ("verbose", 'v')]
      (front + 1) (args.take front) with
  | .error fault => tellUsage "timeout" fault.message 125
  | .ok o =>
    let signal? := match o.value? 's' with
      | none => some Signal.terminate
      | some word => Signal.ofWord? ((Text.dropFront? "SIG".toList word).getD word)
    match args.drop front, signal? with
    | _, none => tellUsage "timeout" (quoted ((o.value? 's').getD []) ++ ": invalid signal") 125
    | time :: name :: rest, some signal =>
      match duration? time with
      | some time => limited start ⟨time, signal, (o.value? 'k').bind duration?, o.has 'p', o.has 'v'⟩ name rest
      | none => tellUsage "timeout" ("invalid time interval " ++ quoted time) 125
    | _, _ => tell (tryHelp "timeout") 125

/-- A program that calls the one which its words name, without any effect that could be seen. -/
def plain (start : Starter) (tool : String) (valued : List String) (failure : List Char → String)
    (status : Nat) (args : List (List Char)) : Act Unit :=
  match behindOptions valued args with
  | [] => tellUsage tool "missing operand" status
  | name :: rest => through start (fun why => tool ++ ": " ++ failure name ++ ": " ++ why) (name :: rest)

/-- The paths of programs. -/
def which (args : List (List Char)) : Act Unit := modify fun m =>
  let found := args.filterMap (Program.path? m)
  { m.emit 1 (ofRows found) with status := if found.length = args.length then 0 else 1 }

/-! ## Starting -/

/-- The directory of the files that stand for what programs are bound to. -/
def devices : Place := ["dev"]

/-- A file of those whose names words hold, with what programs find in it. -/
def device? (m : Machine) (args : List (List Char)) (name : String) (found : Machine → List UInt8) :
    Option (Place × Content) :=
  if args.any fun arg => (Text.cutAt? ("/dev/" ++ name).toList arg).isSome then
    some (devices ++ [name], .file (found m))
  else none

/-- The files of the devices that words name. -/
def devicesFor (m : Machine) (args : List (List Char)) : List (Place × Content) :=
  let kinds : List (String × (Machine → List UInt8)) :=
    [("stdin", fun m => bytesOf (m.input 0)), ("stdout", fun _ => []), ("stderr", fun _ => [])]
  kinds.filterMap fun (name, found) => device? m args name found

/-- Programs that may end before they have read all of their input. -/
def stopsEarly : List String := ["head", "sed", "grep", "egrep", "fgrep", "dd", "cmp", "awk", "mawk"]

/-- An input that nothing else could be, by which it is seen whether a program takes anything of it. -/
def mark : List Char := [Char.ofNat 0x10FFFF]

/-- The number of the file that a number is bound to. -/
def fileBehind? (m : Machine) (number : Nat) : Option Nat :=
  match m.opening? number with
  | some (.node node ..) => match m.disk.content? node with
    | some (.file _) => some node
    | _ => none
  | _ => none

/-- A call of a program, with an input. -/
def callOf (m : Machine) (disk : Disk) (name : List Char) (args : List (List Char)) (input : List Char) : Call :=
  ⟨disk, name, args, input, m.readsFile 0, fileBehind? m 1, environment m⟩

/-- A program waits for its input, if it reads any. -/
def awaitInput (tool : String) (act : Call → Done) (name : List Char) (args : List (List Char)) : Act Unit := do
  let m ← get
  match m.pipeRead? 0 with
  | none => return
  | some pipe =>
    let names := args.any fun arg => (Text.cutAt? "/dev/stdin".toList arg).isSome
    if names || (act (callOf m m.disk name args mark)).input != mark then
      let early := stopsEarly.contains tool
      Act.wait (fun m => m.isDry pipe
        || (early && (((entryFor? pipe m.pipes).map Pipe.isFull).getD false))) none

/-- What is told of a program that could not write. -/
def unwrittenText (tool : String) (fault : SystemFault) : String :=
  match tool with
  | "cat" => if fault = .badNumber then "cat: standard output: " ++ fault.text else "cat: write error: " ++ fault.text
  | "sort" => "sort: write failed: 'standard output': " ++ fault.text
  | "head" => "head: error writing 'standard output': " ++ fault.text
  | "tail" => "tail: error writing 'standard output': " ++ fault.text
  | "tee" => "tee: 'standard output': " ++ fault.text
  | "sed" => "sed: couldn't flush stdout: " ++ fault.text
  | tool => tool ++ ": write error: " ++ fault.text

/-- The status of a program that could not write. -/
def unwrittenStatus (tool : String) : Nat :=
  match tool with
  | "sort" | "grep" | "egrep" | "fgrep" | "diff" | "cmp" => 2
  | "sed" => 4
  | _ => 1

/-- What comes of a program that could not write all that it wanted to. -/
def afterWriting (tool : String) : Act Unit := modify fun m =>
  match m.unwritten with
  | none => m
  | some .brokenPipe => { m with unwritten := none, status := 141 }
  | some fault =>
    let m := { m with unwritten := none }.emit 2 (spread (unwrittenText tool fault ++ "\n"))
    { m with unwritten := none, status := unwrittenStatus tool }

/-- A process that has filled a pipe waits until someone reads. -/
def awaitReaders : Act Unit := do
  let full (m : Machine) : Bool := m.channels.any fun (_, n) =>
    match entryFor? n m.openings with
    | some (.pipe pipe true) =>
      !m.isBroken pipe && ((entryFor? pipe m.pipes).map fun p => !p.collected && p.isFull).getD false
    | _ => false
  if full (← get) then Act.waitPatiently (!full ·)

/-- A program carried out, and what it leaves. -/
def carryOut (tool : String) (act : Call → Done) (name : List Char) (args : List (List Char)) : Act Unit := do
  Act.rest startingTime
  awaitInput tool act name args
  modify fun m =>
    let found := devicesFor m args
    let disk := found.foldl (fun disk entry => disk.put entry.1 entry.2) m.disk
    let d := act (callOf m disk name args (m.input 0))
    let written (name : String) : List Char :=
      if found.any fun entry => entry.1 == devices ++ [name] then
        match d.disk.at? (devices ++ [name]) with
        | some (.file bytes) => charsOf bytes
        | _ => []
      else []
    let disk := found.foldl (fun disk (entry : Place × Content) => disk.remove entry.1) d.disk
    let m := ({ m with disk }.setInput 0 d.input).emit 2 (d.err ++ written "stderr")
    { m with unwritten := none, status := d.status }.emit 1 (d.out ++ written "stdout")
  afterWriting tool
  awaitReaders

/-- The programs that call others or take their time, by their names. -/
def byName? (carry : Carry) (start : Starter) (tool : String) (name : List Char)
    (args : List (List Char)) : Option (Act Unit) :=
  let paced (act : Act Unit) : Option (Act Unit) := some do
    Act.rest startingTime
    act
    afterWriting tool
  match tool with
  | "sh" | "dash" => paced (Shell.called carry name args)
  | "env" => paced (env start (args.length + 1) args)
  | "printenv" => paced (printenv args)
  | "xargs" => paced (xargs start args)
  | "find" =>
    let call (words : List (List Char)) : Act Unit :=
      apartFrom (through start (fun why => "find: " ++ quoted (words.headD []) ++ ": " ++ why) words)
    paced (Find.find call args)
  | "pwd" => paced (modify fun m => { m.emit 1 (Builtin.herePath m ++ ['\n']) with status := 0 })
  | "sleep" => some (sleep args)
  | "timeout" => paced (timeout start args)
  | "nice" =>
    paced (plain start tool ["-n"] quoted 125 args)
  | "nohup" =>
    paced (plain start tool [] (fun name => "failed to run command " ++ quoted name) 125 args)
  | "setsid" => paced (plain start tool [] (fun name => "failed to execute " ++ told name) 1 args)
  | "stdbuf" =>
    paced (plain start tool ["-i", "-o", "-e"] (fun name => "failed to run command " ++ quoted name) 125
      args)
  | "which" => paced (which args)
  | "awk" | "mawk" =>
    let shell (text : List Char) : Act Unit := do
      Act.rest startingTime
      Shell.called carry "/bin/sh".toList ["-c".toList, text]
    paced do
      let told := environment (← get)
      Awk.awk shell name told args
  | "perl" =>
    let launcher : Perl.Launcher :=
      { words := through start fun why => why
        shell := fun text => do
          Act.rest startingTime
          Shell.called carry "sh".toList ["-c".toList, text]
        canStart := fun m name =>
          match Program.find m name with
          | .known _ | .script _ | .led .. => true
          | _ => false }
    paced do
      let told := environment (← get)
      Perl.perl launcher told args
  | _ => none

/-- A program started in the process that goes on; those that it starts itself are started with less
    fuel. -/
def start (carry : Carry) : Nat → Starter
  | 0, _, _, _ => return
  | fuel + 1, program, name, args => do
    match program with
    | .known tool =>
      match byName? carry (start carry fuel) tool name args with
      | some act => act
      | none =>
        match program? tool with
        | some act => carryOut tool act name args
        | none => modify fun m => { m with status := 127 }
    | .script body =>
      Act.rest startingTime
      modify fun m => { Shell.fresh m name with params := args }
      Shell.text carry false body
      Shell.finish carry
    | .led tool path words => start carry fuel (.known tool) path (words ++ name :: args)
    | .refused => modify fun m => { m with status := 126 }
    | .missing => modify fun m => { m with status := 127 }

/-- The program leaves nothing changed in the process that it is carried out in, but for what it reads and
    writes. -/
def isSelfContained (program : Program) : Bool :=
  match program with
  | .known tool => (program? tool).isSome || ["sleep", "printenv", "pwd", "which"].contains tool
  | _ => false

end Caller

end DiagramStudio.Script
