import DiagramStudio.Script.Calendar
import DiagramStudio.Script.Copying

/-!
Programs that make and remove files and directories, and those that change their modes and times.
-/

namespace DiagramStudio.Script.Making

open FileTool

/-- The mode that an option asks for; nothing if it cannot be read. -/
def modeOf? (o : Options) : Option (Option (List Mode.Change)) :=
  match o.value? 'm' with
  | none => some none
  | some text => (Mode.read? text).map some

/-- The file system with another mode of what stands at a place. -/
def withMode (disk : Disk) (place : Place) (mode : Nat) : Disk :=
  match disk.numberAt? place, disk.nodeAt? place with
  | some number, some n => disk.setNode number { n with mode }
  | _, _ => disk

/-! ## Directories -/

def makeOne (parents tells : Bool) (mode? : Option (List Mode.Change)) (c : Call) (path : List Char) : Done :=
  let made (paths : List (List Char)) : List Char :=
    if tells then
      paths.flatMap fun p => spread ("mkdir: created directory " ++ quoted p ++ "\n")
    else []
  let cannot (fault : SystemFault) (disk : Disk) : Done :=
    { (c.done 1).complain 1 ("mkdir: cannot create directory " ++ quoted path ++ ": " ++ fault.text) with
      disk }
  let finished (disk : Disk) : Disk :=
    match mode?, placeOf? disk path with
    | some changes, some place => withMode disk place (Mode.apply changes true disk.mask 0o777)
    | _, _ => disk
  if parents then
    match c.disk.makeDirectories (pathOf path) with
    | (.ok (), disk) =>
      let missing := (Copying.installOne.outward path).filter fun p => !isDirectory c.disk p
      { c.done 0 with disk := if missing.isEmpty then disk else finished disk, out := made missing }
    | (.error fault, disk) => cannot fault disk
  else
    match c.disk.makeDirectory (pathOf path) with
    | .ok disk => { c.done 0 with disk := finished disk, out := made [path] }
    | .error fault => cannot fault c.disk

def mkdir (c : Call) : Done :=
  c.with "mkdir" 1 "pvZ" "m" [("parents", 'p'), ("verbose", 'v'), ("mode", 'm')] fun o =>
    if o.operands.isEmpty then c.missing "mkdir" "missing operand" 1
    else
      match modeOf? o with
      | none => (c.done 1).complain 1 ("mkdir: invalid mode " ++ quoted ((o.value? 'm').getD []))
      | some mode? => Call.each { c with args := o.operands } (makeOne (o.has 'p') (o.has 'v') mode?)

def removeEmpty (o : Options) (c : Call) (path : List Char) : Done :=
  let fail (fault : SystemFault) : Done :=
    if fault = .notEmpty && o.has 'e' then c.done 0
    else (c.done 1).complain 1 ("rmdir: failed to remove " ++ quoted path ++ ": " ++ fault.text)
  match c.disk.locateSelf (pathOf path) with
  | .error fault => fail fault
  | .ok place =>
    if !c.disk.isDirectoryAt place then fail .notDirectory
    else if lastName path = ['.'] then fail .invalid
    else if !(c.disk.listAt place).isEmpty then fail .notEmpty
    else if !c.disk.changeable place.dropLast then fail .notPermitted
    else
      { c.done 0 with
        disk := c.disk.remove place
        out := if o.has 'v' then spread ("rmdir: removing directory, " ++ quoted path ++ "\n") else [] }

/-- A directory removed, then those around it as far as the path names them, up to one that stays. -/
def removeOutward (o : Options) : Call → List (List Char) → Done
  | c, [] => c.done 0
  | c, path :: more =>
    let d := removeEmpty o c path
    if d.status = 0 then d.then_ (removeOutward o (d.call []) more) else d

def rmdir (c : Call) : Done :=
  c.with "rmdir" 1 "pv" "" [("parents", 'p'), ("verbose", 'v'), ("ignore-fail-on-non-empty", 'e')] fun o =>
    if o.operands.isEmpty then c.missing "rmdir" "missing operand" 1
    else Call.each { c with args := o.operands } fun c path =>
      removeOutward o c (if o.has 'p' then (Copying.installOne.outward path).reverse else [path])

/-! ## Removal -/

/-- What something is called when it is asked about. -/
def kindName : Content → String
  | .file [] => "regular empty file"
  | .file _ => "regular file"
  | .directory => "directory"
  | .link _ => "symbolic link"
  | .queue => "fifo"
  | .device _ => "character special file"

/-- What stands at a path removed, with all that is in it. Every unit of fuel pays for a directory around. -/
def removeTree (o : Options) : Nat → Call → List Char → Done
  | 0, c, _ => c.done 1
  | fuel + 1, c, path =>
    let recursive := o.has 'r' || o.has 'R'
    let asks := (o.given.reverse.find? fun entry => entry.1 == ['f'] || entry.1 == ['i']).map (·.1) == some ['i']
    let cannot (fault : SystemFault) : Done :=
      (c.done 1).complain 1 ("rm: cannot remove " ++ quoted path ++ ": " ++ fault.text)
    match c.disk.locateSelf (pathOf path) with
    | .error fault =>
      if o.has 'f' ∧ (fault = .notFound ∨ fault = .notDirectory) then c.done 0 else cannot fault
    | .ok place =>
      let content := (c.disk.at? place).getD .directory
      let gone (c : Call) (what : String) : Done :=
        if c.disk.changeable place.dropLast then
          { c.done 0 with
            disk := c.disk.remove place
            out := if o.has 'v' then spread (what ++ quoted path ++ "\n") else [] }
        else cannot .notPermitted
      let question := "rm: remove " ++ kindName content ++ " " ++ quoted path ++ "? "
      if content ≠ .directory then Copying.asking c asks question fun c => gone c "removed "
      else
        let names := namesAt c.disk place
        let name := lastName path
        if !recursive then
          if !o.has 'd' then cannot .isDirectory
          else if names.isEmpty then Copying.asking c asks question fun c => gone c "removed directory "
          else cannot .notEmpty
        else if name = ['.'] ∨ name = ['.', '.'] then
          (c.done 1).complain 1
            ("rm: refusing to remove '.' or '..' directory: skipping " ++ quoted path)
        else if place = [] then
          (c.done 1).complain 1 ("rm: it is dangerous to operate recursively on " ++ quoted path
            ++ "\nrm: use --no-preserve-root to override this failsafe")
        else if !names.isEmpty && !(c.disk.allowsAt place .read && c.disk.allowsAt place .enter) then cannot .notPermitted
        else
          let descend (c : Call) : Done :=
            names.foldl (fun d name => d.then_ (removeTree o fuel (d.call []) (within path name))) (c.done 0)
          let finish (d : Done) : Done :=
            if (d.disk.listAt place).isEmpty then
              d.then_ (Copying.asking (d.call []) asks question fun c => gone c "removed directory ")
            else d
          if asks && !names.isEmpty then
            let (yes, input) := Copying.agreed c
            let d := if yes then finish (descend { c with input }) else { c.done 0 with input }
            { d with err := spread ("rm: descend into directory " ++ quoted path ++ "? ") ++ d.err }
          else finish (descend c)

def rm (c : Call) : Done :=
  let long : Options.LongNames :=
    [("recursive", 'r'), ("force", 'f'), ("verbose", 'v'), ("dir", 'd'), ("interactive", 'i'), ("one-file-system", 'x'),
      ("preserve-root", 'x'), ("no-preserve-root", 'x')]
  c.with "rm" 1 "dfirvIR" "" long fun o =>
    let remove (c : Call) : Done := Call.each { c with args := o.operands } (removeTree o Copying.depthMax)
    let count := o.operands.length
    let recursive := o.has 'r' || o.has 'R'
    if o.operands.isEmpty then if o.has 'f' then c.done 0 else c.missing "rm" "missing operand" 1
    else if o.has 'I' && (recursive || 3 < count) then
      let question := "rm: remove " ++ toString count ++ (if count = 1 then " argument" else " arguments")
        ++ (if recursive then " recursively" else "") ++ "? "
      Copying.asking c true question remove
    else remove c

/-- A name taken away from a file. -/
def unlink (c : Call) : Done :=
  match c.args with
  | [path] =>
    let cannot (fault : SystemFault) : Done :=
      (c.done 1).complain 1 ("unlink: cannot unlink " ++ quoted path ++ ": " ++ fault.text)
    match c.disk.locateSelf (pathOf path) with
    | .error fault => cannot fault
    | .ok place =>
      if c.disk.isDirectoryAt place then cannot .isDirectory
      else if !c.disk.changeable place.dropLast then cannot .notPermitted
      else { c.done 0 with disk := c.disk.remove place }
  | [] => c.missing "unlink" "missing operand" 1
  | _ :: extra :: _ => c.missing "unlink" ("extra operand " ++ quoted extra) 1

/-! ## Times -/

/-- The time that digits spell: two for the month, the day, the hour and the minute each, a year in front of
    them, and seconds behind a point. -/
def stampTime? (now : Int) (s : List Char) : Option Int :=
  let (front, seconds?) : List Char × Option (List Char) := match Text.cut? (· == '.') s with
    | some (front, behind) => (front, some behind)
    | none => (s, none)
  let present := (Timestamp.ofSeconds (now / Calendar.second)).year
  let year? : Option Int := match front.length with
    | 8 => some present
    | 10 => some (Calendar.yearOf (front.take 2))
    | 12 => some (Calendar.numberOf (front.take 4))
    | _ => none
  let ok := front.all Char.isDigit && (match seconds? with
    | some s => s.length == 2 && s.all Char.isDigit
    | none => true)
  match year?, ok with
  | some year, true =>
    let rest := front.drop (front.length - 8)
    let at_ (n : Nat) : Nat := (Calendar.numberOf ((rest.drop n).take 2)).toNat
    let second := ((seconds?.map Calendar.numberOf).getD 0).toNat
    (Timestamp.ofFields? year (at_ 0) (at_ 2) (at_ 4) (at_ 6) (min second 59) 0).map fun t =>
      t.toSeconds * Calendar.second
  | _, _ => none

def touchOne (o : Options) (time : Int) (c : Call) (path : List Char) : Done :=
  let fail (what : String) : Done := (c.done 1).complain 1 ("touch: " ++ what)
  let changes := !(o.has 'a' && !o.has 'm')
  let stamped (disk : Disk) (place : Place) : Disk :=
    match disk.numberAt? place, disk.nodeAt? place with
    | some number, some n => if changes then disk.setNode number { n with changed := time } else disk
    | _, _ => disk
  match if o.has 'h' then c.disk.locateSelf (pathOf path) else c.disk.locate (pathOf path) with
  | .ok place =>
    match c.disk.nodeAt? place with
    | some n =>
      if n.owned || n.allows .write then { c.done 0 with disk := stamped c.disk place }
      else fail ("cannot touch " ++ quoted path ++ ": " ++ SystemFault.notPermitted.text)
    | none => c.done 0
  | .error fault =>
    if fault ≠ .notFound then fail ("cannot touch " ++ quoted path ++ ": " ++ fault.text)
    else if o.has 'c' || o.has 'h' then c.done 0
    else
      match c.disk.write (pathOf path) [] with
      | .ok disk => { c.done 0 with disk := ((placeOf? disk path).map (stamped disk)).getD disk }
      | .error .isDirectory => fail ("setting times of " ++ quoted path ++ ": " ++ SystemFault.notFound.text)
      | .error fault => fail ("cannot touch " ++ quoted path ++ ": " ++ fault.text)

def touch (c : Call) : Done :=
  let long : Options.LongNames :=
    [("no-create", 'c'), ("date", 'd'), ("reference", 'r'), ("no-dereference", 'h'), ("time", 'T')]
  c.with "touch" 1 "acfhm" "drtT" long fun o =>
    let time? : Except String Int :=
      match o.value? 'd', o.value? 't', o.value? 'r' with
      | some text, none, none =>
        match Calendar.read? c.disk.now text with
        | some time => .ok time
        | none => .error ("invalid date format " ++ quoted text)
      | _, some text, none =>
        match stampTime? c.disk.now text with
        | some time => .ok time
        | none => .error ("invalid date format " ++ quoted text)
      | date, _, some path =>
        match c.disk.locate (pathOf path) with
        | .error fault => .error ("failed to get attributes of " ++ quoted path ++ ": " ++ fault.text)
        | .ok place =>
          let time := ((c.disk.nodeAt? place).map (·.changed)).getD 0
          .ok ((date.bind (Calendar.read? time)).getD time)
      | none, none, none => .ok c.disk.tick
    match time? with
    | .error what => (c.done 1).complain 1 ("touch: " ++ what)
    | .ok time =>
      if o.operands.isEmpty then c.missing "touch" "missing file operand" 1
      else Call.each { c with args := o.operands } (touchOne o time)

/-! ## Names that nothing has -/

/-- A template without the letters that stand for others: what is in front of them, how many there are, and
    what is behind them. -/
def templateParts (template : List Char) : List Char × Nat × List Char :=
  let behind := (template.reverse.takeWhile (· != 'X')).reverse
  let front := template.take (template.length - behind.length)
  let count := (front.reverse.takeWhile (· == 'X')).length
  (front.take (front.length - count), count, behind)

/-- A file or directory made under a name that nothing has. -/
def mktemp (c : Call) : Done :=
  let long : Options.LongNames :=
    [("directory", 'd'), ("quiet", 'q'), ("dry-run", 'u'), ("suffix", 's'), ("tmpdir", 'p')]
  c.with "mktemp" 1 "dqtuV" "ps" long fun o =>
    let template := o.operands.headD "tmp.XXXXXXXXXX".toList
    let shared := ((entryFor? "TMPDIR".toList c.variables_).filter (!·.isEmpty)).getD "/tmp".toList
    let directory? : Option (List Char) :=
      match o.value? 'p' with
      | some directory => some (if directory.isEmpty then shared else directory)
      | none => if o.has 't' || o.operands.isEmpty then some shared else none
    let (front, count, behind) := templateParts template
    if 1 < o.operands.length then c.missing "mktemp" "too many templates" 1
    else if (o.value? 's').isSome && !behind.isEmpty then
      (c.done 1).complain 1 ("mktemp: with --suffix, template " ++ quoted template ++ " must end in X")
    else if count < 3 then
      (c.done 1).complain 1 ("mktemp: too few X's in template " ++ quoted template)
    else
      let behind := behind ++ (o.value? 's').getD []
      let candidates := (List.range (c.disk.places.length + 1)).map fun n =>
        let digits := shown n
        let name := front ++ List.replicate (count - digits.length) 'a' ++ digits ++ behind
        match directory? with
        | some directory => within directory name
        | none => name
      let path := (candidates.find? fun path => !c.disk.leads (pathOf path)).getD template
      let made := if o.has 'u' then .ok c.disk
        else if o.has 'd' then c.disk.makeDirectory (pathOf path)
        else c.disk.write (pathOf path) []
      match made with
      | .ok disk =>
        let disk := match o.has 'u', placeOf? disk path with
          | false, some place => withMode disk place (if o.has 'd' then 0o700 else 0o600)
          | _, _ => disk
        { c.wrote (path ++ ['\n']) with disk }
      | .error fault =>
        let kind := if o.has 'd' then "directory" else "file"
        let template := match directory? with
          | some directory => within directory template
          | none => template
        if o.has 'q' then c.done 1
        else (c.done 1).complain 1
          ("mktemp: failed to create " ++ kind ++ " via template " ++ quoted template ++ ": " ++ fault.text)

/-- Queues made. -/
def mkfifo (c : Call) : Done :=
  c.with "mkfifo" 1 "Z" "m" [("mode", 'm')] fun o =>
    if o.operands.isEmpty then c.missing "mkfifo" "missing operand" 1
    else
      match modeOf? o with
      | none => (c.done 1).complain 1 "mkfifo: invalid mode"
      | some mode? =>
        Call.each { c with args := o.operands } fun c path =>
          match freeGoal c.disk path with
          | .error fault => (c.done 1).complain 1 ("mkfifo: cannot create fifo " ++ quoted path ++ ": " ++ fault.text)
          | .ok goal =>
            let disk := c.disk.put goal .queue
            { c.done 0 with
              disk := match mode? with
                | some changes => withMode disk goal (Mode.apply changes false disk.mask 0o666)
                | none => disk }

/-! ## Modes -/

/-- What a call asks for that changes modes. -/
structure ModeCall where
  letters : List Char
  /-- The modes that look like options. -/
  modes : List (List Char)
  reference? : Option (List Char)
  operands : List (List Char)

/-- The letters that begin a mode which looks like an option. -/
def modeLetters : List Char := "rwxXstugoa,+=01234567".toList

/-- The words of a call that changes modes. -/
def readModeCall : List (List Char) → Except String ModeCall
  | [] => .ok ⟨[], [], none, []⟩
  | word :: rest =>
    let with_ (f : ModeCall → ModeCall) : Except String ModeCall := (readModeCall rest).map f
    match word with
    | ['-', '-'] => .ok ⟨[], [], none, rest⟩
    | '-' :: '-' :: name =>
      match Text.cut? (· == '=') name with
      | some (front, value) =>
        if front = "reference".toList then with_ fun m => { m with reference? := some value }
        else .error ("unrecognized option '" ++ told word ++ "'")
      | none =>
        match entryFor? (String.ofList name)
          [("recursive", 'R'), ("changes", 'c'), ("silent", 'f'), ("quiet", 'f'), ("verbose", 'v'), ("preserve-root", 'p'),
            ("no-preserve-root", 'p')] with
        | some letter => with_ fun m => { m with letters := letter :: m.letters }
        | none => .error ("unrecognized option '" ++ told word ++ "'")
    | '-' :: c :: more =>
      let flags := (c :: more).takeWhile fun l => "Rcfv".toList.contains l
      match (c :: more).drop flags.length with
      | [] => with_ fun m => { m with letters := flags ++ m.letters }
      | l :: _ =>
        if modeLetters.contains l then with_ fun m => { m with letters := flags ++ m.letters, modes := word :: m.modes }
        else .error ("invalid option -- '" ++ told [l] ++ "'")
    | _ => with_ fun m => { m with operands := word :: m.operands }

/-- How a mode is told of: in digits and letters. -/
def toldMode (mode : Nat) : String :=
  String.ofList (Mode.fullDigits mode ++ " (".toList ++ Mode.letters mode ++ [')'])

/-- The mode of what a path leads to changed, and of all that is in it. Every unit of fuel pays for a
    directory around. -/
def changeMode (m : ModeCall) (change : Bool → Nat → Nat) (wanted : Bool → Nat → Nat) : Nat → (top : Bool) → Call → List Char → Done
  | 0, _, c, _ => c.done 1
  | fuel + 1, top, c, path =>
    let fail (what : String) : Done := if m.letters.contains 'f' then c.done 1 else (c.done 1).complain 1 ("chmod: " ++ what)
    match c.disk.locate (pathOf path) with
    | .error fault =>
      if top && fault = .notFound && isLink c.disk path then
        fail ("cannot operate on dangling symlink " ++ quoted path)
      else fail ("cannot access " ++ quoted path ++ ": " ++ fault.text)
    | .ok place =>
      match c.disk.nodeAt? place with
      | none => c.done 1
      | some n =>
        let isTree := n.content = .directory
        let mode := change isTree n.mode
        if !n.owned then fail ("changing permissions of " ++ quoted path ++ ": " ++ SystemFault.notOwner.text)
        else
          let tells := m.letters.contains 'v' || (m.letters.contains 'c' && mode != n.mode)
          let row := "mode of " ++ quoted path ++ (if mode = n.mode then " retained as " ++ toldMode mode
            else " changed from " ++ toldMode n.mode ++ " to " ++ toldMode mode) ++ "\n"
          let d : Done :=
            { c.done 0 with disk := withMode c.disk place mode, out := if tells then spread row else [] }
          let asked := wanted isTree n.mode
          let d := if (mode &&& (0o7777 ^^^ asked)) = 0 then d
            else d.complain 1 ("chmod: " ++ quotedIfNeeded path ++ ": new permissions are "
              ++ String.ofList (Mode.letters mode) ++ ", not " ++ String.ofList (Mode.letters asked))
          if !(m.letters.contains 'R' && isTree) then d
          else if !(d.disk.allowsAt place .read) then
            if m.letters.contains 'f' then { d with status := 1 }
            else d.complain 1 ("chmod: cannot read directory " ++ quoted path ++ ": " ++ SystemFault.notPermitted.text)
          else
            (namesAt d.disk place).foldl (fun d name =>
              let path := within path name
              if isLink d.disk path then d
              else d.then_ (changeMode m change wanted fuel false (d.call []) path)) d

def chmod (c : Call) : Done :=
  match readModeCall c.args with
  | .error what => c.missing "chmod" what 1
  | .ok m =>
    let change (text : List Char) (operands : List (List Char)) (surprises : Bool) : Done :=
      match Mode.read? text with
      | none => c.missing "chmod" ("invalid mode: " ++ quoted text) 1
      | some changes =>
        let wanted (isTree : Bool) (mode : Nat) : Nat :=
          if surprises then Mode.apply changes isTree 0 mode else 0o7777
        Call.each { c with args := operands }
          (changeMode m (fun isTree mode => Mode.apply changes isTree c.disk.mask mode) wanted Copying.depthMax true)
    match m.reference?, m.modes, m.operands with
    | some path, _, operands =>
      match c.disk.locate (pathOf path) with
      | .error fault => (c.done 1).complain 1 ("chmod: failed to get attributes of " ++ quoted path ++ ": " ++ fault.text)
      | .ok place =>
        let mode := ((c.disk.nodeAt? place).map (·.mode)).getD 0
        if operands.isEmpty then c.missing "chmod" "missing operand" 1
        else Call.each { c with args := operands }
          (changeMode m (fun _ _ => mode) (fun _ _ => 0o7777) Copying.depthMax true)
    | none, [], [] => c.missing "chmod" "missing operand" 1
    | none, [], [mode] => c.missing "chmod" ("missing operand after " ++ quoted mode) 1
    | none, [], mode :: operands => change mode operands false
    | none, modes, [] => c.missing "chmod" ("missing operand after " ++ quoted (modes.getLast?.getD [])) 1
    | none, modes, operands => change ([','].intercalate modes) operands true

/-- Owners of files changed; nobody but the owner of the system may do that. -/
def chown (tool : String) (c : Call) : Done :=
  c.with tool 1 "HLPRcfhv" "" [("recursive", 'R'), ("verbose", 'v'), ("changes", 'c'), ("silent", 'f'), ("quiet", 'f')] fun o =>
    match o.operands with
    | [] => c.missing tool "missing operand" 1
    | [one] => c.missing tool ("missing operand after " ++ quoted one) 1
    | owner :: paths =>
      let user := owner.takeWhile fun ch => ch != ':' && ch != '.'
      let own := user.isEmpty ∨ user = userName ∨ user = shown userNumber
      Call.each { c with args := paths } fun c path =>
        match c.disk.locate (pathOf path) with
        | .error fault => (c.done 1).complain 1 (tool ++ ": cannot access " ++ quoted path ++ ": " ++ fault.text)
        | .ok _ =>
          if own then c.done 0
          else (c.done 1).complain 1 (tool ++ ": changing " ++ (if tool = "chown" then "ownership" else "group") ++ " of "
            ++ quoted path ++ ": " ++ SystemFault.notOwner.text)

end DiagramStudio.Script.Making
