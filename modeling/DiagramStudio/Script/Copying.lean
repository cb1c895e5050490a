import DiagramStudio.Script.FileTool
import DiagramStudio.Script.Mode

/-!
Programs that bring files from one path to another: what copies, moves, links and installs them.
-/

namespace DiagramStudio.Script.Copying

open FileTool

/-! ## Sources and targets -/

/-- The path under which a file goes to a target: in it if that is a directory. -/
def destination (disk : Disk) (source target : List Char) : List Char :=
  if isDirectory disk target then within target (lastName source) else target

/-- How sources are brought to a target. -/
structure Bringing where
  /-- The program. -/
  tool : String
  /-- The target is never a directory to bring something into. -/
  plain : Bool
  /-- The directory that all sources go to. -/
  into? : Option (List Char)

/-- Sources brought to the target behind them, which has to be a directory if they are several. -/
def bring (c : Call) (b : Bringing) (act : Call → (source path : List Char) → Done) (operands : List (List Char)) :
    Done :=
  let isTarget (path : List Char) : Bool := isDirectory c.disk path
  let targetFault (path : List Char) : SystemFault :=
    match c.disk.locate (pathOf path) with
    | .error fault => fault
    | .ok _ => .notDirectory
  let all (sources : List (List Char)) (target : List Char) : Done :=
    Call.each { c with args := sources } fun c source => act c source (within target (lastName source))
  match b.into? with
  | some target =>
    if operands.isEmpty then c.missing b.tool "missing file operand" 1
    else if isTarget target then all operands target
    else (c.done 1).complain 1 (b.tool ++ ": target directory " ++ quoted target ++ ": " ++ (targetFault target).text)
  | none =>
    match operands.reverse with
    | [] => c.missing b.tool "missing file operand" 1
    | [source] => c.missing b.tool ("missing destination file operand after " ++ quoted source) 1
    | [target, source] => act c source (if b.plain then target else destination c.disk source target)
    | target :: sources =>
      if b.plain then c.missing b.tool ("extra operand " ++ quoted target) 1
      else if isTarget target then all sources.reverse target
      else (c.done 1).complain 1 (b.tool ++ ": target " ++ quoted target ++ ": " ++ (targetFault target).text)

/-- The next line of the input answers a question with yes; and the rest of the input. -/
def agreed (c : Call) : Bool × List Char :=
  let answer := c.input.takeWhile (· != '\n')
  (answer.head? = some 'y' ∨ answer.head? = some 'Y', (c.input.drop answer.length).drop 1)

/-- Something done if that is agreed to. -/
def asking (c : Call) (asks : Bool) (question : String) (act : Call → Done) : Done :=
  if !asks then act c
  else
    let (yes, input) := agreed c
    let d := if yes then act { c with input } else { c.done 0 with input }
    { d with err := spread question ++ d.err }

/-- When something that stands at the target already stays. -/
structure Sparing where
  /-- In any case. -/
  always : Bool
  /-- If it is not older. -/
  newer : Bool
  /-- Unless it is agreed to be replaced. -/
  asks : Bool
  /-- It stays under another name, with this behind its own. -/
  suffix? : Option (List Char)

def Sparing.ofOptions (o : Options) : Sparing :=
  let last := (o.given.reverse.find? fun entry => entry.1 == ['n'] || entry.1 == ['f'] || entry.1 == ['i']).map (·.1)
  ⟨last == some ['n'], o.has 'u', last == some ['i'],
    if o.has 'b' || o.has 'S' then some ((o.value? 'S').getD ['~']) else none⟩

/-- Something stands at a target, and it stays. -/
def Sparing.spares (s : Sparing) (disk : Disk) (source : Node) (path : List Char) : Bool :=
  match (ownPlace? disk path).bind disk.nodeAt? with
  | none => false
  | some n => s.always || (s.newer && source.changed ≤ n.changed)

/-- The file system in which something at a target has been put aside, and what is told of that. -/
def Sparing.putAside (s : Sparing) (disk : Disk) (path : List Char) : Disk × String :=
  match s.suffix?, ownPlace? disk path with
  | some suffix, some place =>
    match goalOf disk (path ++ suffix) with
    | .ok goal => ((disk.remove goal).move place goal, " (backup: " ++ quoted (path ++ suffix) ++ ")")
    | .error _ => (disk, "")
  | _, _ => (disk, "")

/-! ## Copies -/

/-- Which links are followed. -/
inductive Follow where
  | never
  /-- Those that are named. -/
  | named
  | always
deriving DecidableEq

structure Manner where
  recursive : Bool
  follow : Follow
  keepsMode : Bool
  keepsTime : Bool
  tells : Bool
  force : Bool
  sparing : Sparing
  /-- Links are made in place of copies, symbolic ones or others. -/
  links? : Option Bool

/-- The node at a place with the mode and the time of another. -/
def assumed (o : Manner) (source : Node) (fresh : Bool) (disk : Disk) (place : Place) : Disk :=
  match disk.numberAt? place, disk.nodeAt? place with
  | some number, some n =>
    let mode := if o.keepsMode then source.mode
      else if fresh then source.mode &&& 0o777 &&& (0o7777 ^^^ disk.mask)
      else n.mode
    disk.setNode number { n with mode, changed := if o.keepsTime then source.changed else n.changed }
  | _, _ => disk

/-- What is told of something that is brought to a path. -/
def toldArrow (tells : Bool) (source path : List Char) (aside : String) : List Char :=
  if tells then spread (quoted source ++ " -> " ++ quoted path ++ aside ++ "\n") else []

/-- A file or a directory with all that is in it copied to a path. Every unit of fuel pays for a
    directory around. -/
def copyTo (o : Manner) : Nat → (top : Bool) → Call → (source path : List Char) → Done
  | 0, _, c, _, _ => c.done 1
  | fuel + 1, top, c, source, path =>
    let fail (what : String) : Done := (c.done 1).complain 1 ("cp: " ++ what)
    let follows := o.follow = .always ∨ (o.follow = .named ∧ top)
    match if follows then c.disk.locate (pathOf source) else c.disk.locateSelf (pathOf source) with
    | .error fault => fail ("cannot stat " ++ quoted source ++ ": " ++ fault.text)
    | .ok place =>
      match c.disk.nodeAt? place with
      | none => c.done 1
      | some n =>
        let there := ownPlace? c.disk path
        let goal? := goalOf c.disk path
        if n.content = .directory then
          if !o.recursive then fail ("-r not specified; omitting directory " ++ quoted source)
          else if there.isSome && !isDirectory c.disk path then
            fail ("cannot overwrite non-directory " ++ quoted path ++ " with directory " ++ quoted source)
          else
            match goal? with
            | .error fault => fail ("cannot create directory " ++ quoted path ++ ": " ++ fault.text)
            | .ok goal =>
              if place.isPrefixOf goal then
                fail ("cannot copy a directory, " ++ quoted source ++ ", into itself, " ++ quoted path)
              else
                let fresh := there.isNone
                match if fresh then c.disk.makeDirectory (pathOf path) else .ok c.disk with
                | .error fault => fail ("cannot create directory " ++ quoted path ++ ": " ++ fault.text)
                | .ok disk =>
                  let d : Done := { c.done 0 with disk, out := toldArrow (o.tells && fresh) source path "" }
                  if !disk.allowsAt place .read then
                    d.complain 1 ("cp: cannot access " ++ quoted source ++ ": " ++ SystemFault.notPermitted.text)
                  else
                    let d := (namesAt disk place).foldl (fun d name =>
                      d.then_ (copyTo o fuel false (d.call []) (within source name) (within path name))) d
                    { d with disk := assumed o n fresh d.disk goal }
        else
          asking c (o.sparing.asks && there.isSome) ("cp: overwrite " ++ quoted path ++ "? ") fun c =>
          if o.sparing.spares c.disk n path then c.done 0
          else if isDirectory c.disk path then fail ("cannot overwrite directory " ++ quoted path ++ " with non-directory")
          else
            let create (fault : SystemFault) : Done :=
              fail ("cannot create regular file " ++ quoted path ++ ": " ++ fault.text)
            let same := (if follows then placeOf? c.disk path else there).bind c.disk.numberAt? = c.disk.numberAt? place
            match goal? with
            | .error fault => create fault
            | .ok goal =>
              if same && o.links? != some false then fail (quoted source ++ " and " ++ quoted path ++ " are the same file")
              else if path.getLast? = some '/' then create .notDirectory
              else
                let (disk, aside) := o.sparing.putAside c.disk path
                let made (disk : Disk) : Done := { c.done 0 with disk, out := toldArrow o.tells source path aside }
                let replaceable := disk.changeable goal.dropLast
                match o.links?, n.content with
                | some symbolic, _ =>
                  let text := pathOf source
                  if (disk.at? goal).isSome && !o.force then
                    fail ("cannot create " ++ (if symbolic then "symbolic " else "hard ") ++ "link " ++ quoted path
                      ++ " to " ++ quoted source ++ ": " ++ SystemFault.exists_.text)
                  else if !replaceable then create .notPermitted
                  else if symbolic then made ((disk.remove goal).put goal (.link text))
                  else
                    match disk.numberAt? place with
                    | some number => made ((disk.remove goal).join goal number)
                    | none => c.done 1
                | none, .link target =>
                  if !replaceable then
                    fail ("cannot create symbolic link " ++ quoted path ++ ": " ++ SystemFault.notPermitted.text)
                  else made ((disk.remove goal).put goal (.link target))
                | none, content =>
                  if o.recursive && !(match content with | .file _ => true | _ => false) then
                    if replaceable then made ((disk.remove goal).put goal content) else create .notPermitted
                  else if !n.allows .read then
                    fail ("cannot open " ++ quoted source ++ " for reading: " ++ SystemFault.notPermitted.text)
                  else
                    let bytes := ((Disk.bytesIn content).toOption).getD []
                    let fresh := (disk.at? goal).isNone
                    if isLink disk path && (placeOf? disk path).isNone then
                      fail ("not writing through dangling symlink " ++ quoted path)
                    else
                      match disk.write (pathOf path) bytes with
                      | .ok disk => made (assumed o n fresh disk ((placeOf? disk path).getD goal))
                      | .error .noSpace => fail ("error writing " ++ quoted path ++ ": " ++ SystemFault.noSpace.text)
                      | .error fault =>
                        if o.force && !fresh && replaceable then
                          made (assumed o n true ((disk.remove goal).put goal (.file bytes)) goal)
                        else create fault

/-- How deep directories may lie in one another. -/
def depthMax : Nat := 1000

/-- What a word asks to be kept, by its parts. -/
def keeps (o : Options) (what : String) : Bool :=
  o.has 'p' || o.has 'a' || ((o.value? 'K').map fun parts =>
    parts.isEmpty || (Text.pieces (· == ',') parts).any fun part => part = what.toList ∨ part = "all".toList).getD false

def cp (c : Call) : Done :=
  let long : Options.LongNames :=
    [("recursive", 'r'), ("force", 'f'), ("verbose", 'v'), ("archive", 'a'), ("no-clobber", 'n'), ("update", 'u'),
      ("link", 'l'), ("symbolic-link", 's'), ("dereference", 'L'), ("no-dereference", 'P'), ("interactive", 'i'),
      ("target-directory", 't'), ("no-target-directory", 'T'), ("preserve", 'K'), ("parents", 'D'), ("suffix", 'S'),
      ("backup", 'b'), ("no-preserve", 'N'), ("one-file-system", 'x'), ("remove-destination", 'f'), ("sparse", 'y'),
      ("reflink", 'y'), ("attributes-only", 'A')]
  c.with "cp" 1 "abdfHilLnprsuvxPRTZ" "tS" long fun o =>
    let recursive := o.has 'r' || o.has 'R' || o.has 'a'
    let follow : Follow := match o.given.reverse.find? fun entry => ["H", "L", "P", "d", "a"].contains (String.ofList entry.1) with
      | some (['L'], _) => .always
      | some (['H'], _) => .named
      | some _ => .never
      | none => if recursive then .never else .always
    let copying : Manner :=
      { recursive, follow, keepsMode := keeps o "mode", keepsTime := keeps o "timestamps", tells := o.has 'v'
        force := o.has 'f', sparing := .ofOptions o
        links? := if o.has 's' then some true else if o.has 'l' then some false else none }
    if o.has 'D' then
      match o.operands.reverse with
      | target :: sources =>
        Call.each { c with args := sources.reverse } fun c source =>
          let path := within target source
          copyTo copying depthMax true { c with disk := (c.disk.makeDirectories (pathOf (around path))).2 } source path
      | [] => c.missing "cp" "missing file operand" 1
    else bring c ⟨"cp", o.has 'T', o.value? 't'⟩ (copyTo copying depthMax true) o.operands

/-! ## Moves -/

/-- One file or directory moved to a path. -/
def moveTo (tells : Bool) (sparing : Sparing) (c : Call) (source path : List Char) : Done :=
  let fail (what : String) : Done := (c.done 1).complain 1 ("mv: " ++ what)
  match c.disk.locateSelf (pathOf source) with
  | .error fault => fail ("cannot stat " ++ quoted source ++ ": " ++ fault.text)
  | .ok place =>
    let cannot (fault : SystemFault) : Done :=
      fail ("cannot move " ++ quoted source ++ " to " ++ quoted path ++ ": " ++ fault.text)
    let isTree := c.disk.isDirectoryAt place
    match goalOf c.disk path, c.disk.nodeAt? place with
    | .error fault, _ => cannot fault
    | _, none => c.done 1
    | .ok goal, some n =>
      let there := c.disk.at? goal
      asking c (sparing.asks && there.isSome) ("mv: overwrite " ++ quoted path ++ "? ") fun c =>
      if sparing.spares c.disk n path then c.done 0
      else if there.isSome && c.disk.numberAt? goal = c.disk.numberAt? place then
        fail (quoted source ++ " and " ++ quoted path ++ " are the same file")
      else if isTree && place.isPrefixOf goal then
        fail ("cannot move " ++ quoted source ++ " to a subdirectory of itself, " ++ quoted path)
      else if !isTree && there = some .directory then
        fail ("cannot overwrite directory " ++ quoted path ++ " with non-directory")
      else if isTree && there.isSome && there ≠ some .directory then
        fail ("cannot overwrite non-directory " ++ quoted path ++ " with directory " ++ quoted source)
      else if isTree && !(c.disk.listAt goal).isEmpty then
        fail ("cannot overwrite " ++ quoted path ++ ": " ++ SystemFault.notEmpty.text)
      else if !isTree && there.isNone && path.getLast? = some '/' then cannot .notDirectory
      else if !c.disk.changeable place.dropLast || !c.disk.changeable goal.dropLast
          || (isTree && place.dropLast != goal.dropLast && !c.disk.allowsAt place .write) then
        cannot .notPermitted
      else
        let (disk, aside) := sparing.putAside c.disk path
        { c.done 0 with
          disk := (disk.remove goal).move place goal
          out := if tells then "renamed ".toList ++ toldArrow true source path aside else [] }

def mv (c : Call) : Done :=
  let long : Options.LongNames :=
    [("force", 'f'), ("verbose", 'v'), ("no-clobber", 'n'), ("update", 'u'), ("interactive", 'i'), ("target-directory", 't'),
      ("no-target-directory", 'T'), ("suffix", 'S'), ("backup", 'b'), ("strip-trailing-slashes", 'y')]
  c.with "mv" 1 "bfinuvTZ" "tS" long fun o =>
    bring c ⟨"mv", o.has 'T', o.value? 't'⟩ (moveTo (o.has 'v') (.ofOptions o)) o.operands

/-! ## Links -/

/-- How links are made. -/
structure Linking where
  symbolic : Bool
  force : Bool
  tells : Bool
  /-- What a symbolic link leads to is told from where the link is. -/
  fromThere : Bool
  sparing : Sparing

/-- A link made under a path. -/
def linkTo (o : Linking) (c : Call) (source path : List Char) : Done :=
  let fail (what : String) : Done := (c.done 1).complain 1 ("ln: " ++ what)
  let cannot (fault : SystemFault) : Done :=
    if o.symbolic then fail ("failed to create symbolic link " ++ quoted path ++ ": " ++ fault.text)
    else if fault = .exists_ then fail ("failed to create hard link " ++ quoted path ++ ": " ++ fault.text)
    else fail ("failed to create hard link " ++ quoted path ++ " => " ++ quoted source ++ ": " ++ fault.text)
  let linked? : Except Done (Option Nat) :=
    if o.symbolic then .ok none
    else
      match c.disk.locateSelf (pathOf source) with
      | .error fault => .error (fail ("failed to access " ++ quoted source ++ ": " ++ fault.text))
      | .ok place =>
        if c.disk.isDirectoryAt place then
          .error (fail (quotedIfNeeded source ++ ": hard link not allowed for directory"))
        else .ok (c.disk.numberAt? place)
  match linked?, goalOf c.disk path with
  | .error d, _ => d
  | _, .error fault => cannot fault
  | .ok number?, .ok goal =>
    let there := c.disk.at? goal
    let replaces := o.force || o.sparing.suffix?.isSome
    asking c (o.sparing.asks && there.isSome) ("ln: replace " ++ quoted path ++ "? ") fun c =>
    if there = some .directory then
      if replaces then fail (quotedIfNeeded path ++ ": cannot overwrite directory") else cannot .exists_
    else if there.isSome && !replaces && !o.sparing.asks then cannot .exists_
    else if there.isSome && number?.isSome && c.disk.numberAt? goal = number? then
      if c.disk.locateSelf (pathOf source) |>.toOption |>.any (· == goal) then
        fail (quoted source ++ " and " ++ quoted path ++ " are the same file")
      else c.done 0
    else if !c.disk.changeable goal.dropLast then cannot .notPermitted
    else if o.symbolic && source.isEmpty then cannot .notFound
    else
      let (disk, aside) := o.sparing.putAside c.disk path
      let disk := disk.remove goal
      let target := if o.fromThere then
          match unchecked disk (disk.start (pathOf source)) (Path.names (pathOf source)) with
          | place => relative goal.dropLast place
        else source
      let sign := if o.symbolic then " -> " else " => "
      let out := if o.tells then spread (quoted path ++ sign ++ quoted target ++ aside ++ "\n") else []
      match number? with
      | some number =>
        match disk.node? number with
        | some n =>
          if n.owned then { c.done 0 with disk := disk.join goal number, out } else cannot .notOwner
        | none => c.done 1
      | none => { c.done 0 with disk := disk.put goal (.link (pathOf target)), out }

def ln (c : Call) : Done :=
  let long : Options.LongNames :=
    [("symbolic", 's'), ("force", 'f'), ("verbose", 'v'), ("no-dereference", 'n'), ("relative", 'r'), ("interactive", 'i'),
      ("target-directory", 't'), ("no-target-directory", 'T'), ("suffix", 'S'), ("backup", 'b'), ("logical", 'L'),
      ("physical", 'P')]
  c.with "ln" 1 "bdfinrsvFLPT" "tS" long fun o =>
    let linking : Linking :=
      ⟨o.has 's', o.has 'f', o.has 'v', o.has 'r', { Sparing.ofOptions o with always := false, newer := false }⟩
    let link (c : Call) (source target : List Char) : Done :=
      let plain := o.has 'T' || (o.has 'n' && isLink c.disk target)
      linkTo linking c source (if plain then target else destination c.disk source target)
    if o.has 'r' && !o.has 's' then (c.done 1).complain 1 "ln: cannot do --relative without --symbolic"
    else
      match o.value? 't', o.operands.reverse with
      | _, [] => c.missing "ln" "missing file operand" 1
      | some target, sources =>
        if isDirectory c.disk target then
          Call.each { c with args := sources.reverse } fun c source =>
            linkTo linking c source (within target (lastName source))
        else
          let fault := if (placeOf? c.disk target).isSome then SystemFault.notDirectory else .notFound
          (c.done 1).complain 1 ("ln: target directory " ++ quoted target ++ ": " ++ fault.text)
      | none, [source] =>
        if o.has 'T' then c.missing "ln" ("missing destination file operand after " ++ quoted source) 1
        else linkTo linking c source (within ['.'] (lastName source))
      | none, [target, source] => link c source target
      | none, target :: sources =>
        if o.has 'T' then c.missing "ln" ("extra operand " ++ quoted target) 1
        else if isDirectory c.disk target then
          Call.each { c with args := sources.reverse } fun c source =>
            linkTo linking c source (within target (lastName source))
        else
          let fault := if (placeOf? c.disk target).isSome then SystemFault.notDirectory else .notFound
          (c.done 1).complain 1 ("ln: target " ++ quoted target ++ ": " ++ fault.text)

/-- A file under one more name. -/
def link (c : Call) : Done :=
  match c.args with
  | [source, path] =>
    let cannot (fault : SystemFault) : Done :=
      (c.done 1).complain 1 ("link: cannot create link " ++ quoted path ++ " to " ++ quoted source ++ ": " ++ fault.text)
    match c.disk.locateSelf (pathOf source), freeGoal c.disk path with
    | .error fault, _ => cannot fault
    | _, .error fault => cannot fault
    | .ok place, .ok goal =>
      if c.disk.isDirectoryAt place then cannot .notOwner
      else
        match c.disk.numberAt? place with
        | some number => { c.done 0 with disk := c.disk.join goal number }
        | none => c.done 1
  | [] => c.missing "link" "missing operand" 1
  | [one] => c.missing "link" ("missing operand after " ++ quoted one) 1
  | _ :: _ :: extra :: _ => c.missing "link" ("extra operand " ++ quoted extra) 1

/-! ## Installed files -/

/-- A copy with a mode of its own, in place of what stood there. -/
def installOne (mode : Nat) (tells keepsTime leads : Bool) (c : Call) (source path : List Char) : Done :=
  let fail (what : String) : Done := (c.done 1).complain 1 ("install: " ++ what)
  match c.disk.locate (pathOf source) with
  | .error fault => fail ("cannot stat " ++ quoted source ++ ": " ++ fault.text)
  | .ok place =>
    if c.disk.isDirectoryAt place then fail ("omitting directory " ++ quoted source)
    else
      let (disk, made) : Disk × List Char :=
        if leads then
          let outer := around path
          let missing := (outward outer).filter fun p => !isDirectory c.disk p
          ((c.disk.makeDirectories (pathOf outer)).2,
            if tells then missing.flatMap fun p => spread ("install: creating directory " ++ quoted p ++ "\n") else [])
        else (c.disk, [])
      let create (fault : SystemFault) : Done :=
        fail ("cannot create regular file " ++ quoted path ++ ": " ++ fault.text)
      match goalOf disk path, disk.nodeAt? place with
      | .error fault, _ => create fault
      | _, none => c.done 1
      | .ok goal, some n =>
        if disk.numberAt? goal = disk.numberAt? place then
          fail (quoted source ++ " and " ++ quoted path ++ " are the same file")
        else if disk.isDirectoryAt goal then fail ("cannot overwrite directory " ++ quoted path ++ " with non-directory")
        else if path.getLast? = some '/' then create .notDirectory
        else if !n.allows .read then
          fail ("cannot open " ++ quoted source ++ " for reading: " ++ SystemFault.notPermitted.text)
        else if !disk.changeable goal.dropLast then create .notPermitted
        else
          let bytes := ((Disk.bytesIn n.content).toOption).getD []
          let removed := if tells && (disk.at? goal).isSome then spread ("removed " ++ quoted path ++ "\n") else []
          let disk := disk.remove goal
          let changed := if keepsTime then n.changed else disk.now
          let fresh : Node := { disk.made (.file bytes) with mode, changed }
          { c.done 0 with disk := disk.add goal fresh, out := made ++ removed ++ toldArrow tells source path "" }
where
  /-- The paths of which each is in the one before, up to a path. -/
  outward (path : List Char) : List (List Char) :=
    let names := Path.steps path
    (List.range names.length).map fun n => Path.ofSteps (Path.isAbsolute path) (names.take (n + 1))

def install (c : Call) : Done :=
  let long : Options.LongNames :=
    [("directory", 'd'), ("mode", 'm'), ("verbose", 'v'), ("target-directory", 't'), ("no-target-directory", 'T'),
      ("preserve-timestamps", 'p'), ("owner", 'o'), ("group", 'g'), ("compare", 'C'), ("strip", 's'), ("suffix", 'S')]
  c.with "install" 1 "bcCsDdpTvZ" "gmotS" long fun o =>
    let changes? := match o.value? 'm' with
      | none => Mode.read? "755".toList
      | some text => Mode.read? text
    match changes? with
    | none => (c.done 1).complain 1 ("install: invalid mode " ++ quoted ((o.value? 'm').getD []))
    | some changes =>
      if o.has 'd' then
        if o.operands.isEmpty then c.missing "install" "missing file operand" 1
        else Call.each { c with args := o.operands } fun c path =>
          let plain := { c.disk with mask := 0o022 }
          match plain.makeDirectories (pathOf path) with
          | (.ok (), disk) =>
            let disk := match (disk.locate (pathOf path)).toOption.bind disk.numberAt? with
              | some number =>
                match disk.node? number with
                | some n => disk.setNode number { n with mode := Mode.apply changes true 0 0 }
                | none => disk
              | none => disk
            let missing := (installOne.outward path).filter fun p => !isDirectory c.disk p
            { c.done 0 with
              disk := { disk with mask := c.disk.mask }
              out := if o.has 'v' then
                  missing.flatMap fun p => spread ("install: creating directory " ++ quoted p ++ "\n")
                else [] }
          | (.error fault, disk) =>
            { (c.done 1).complain 1 ("install: cannot create directory " ++ quoted path ++ ": " ++ fault.text) with
              disk := { disk with mask := c.disk.mask } }
      else
        let mode := Mode.apply changes false 0 0
        let target? := o.value? 't'
        let c := match target?, o.has 'D' with
          | some target, true => { c with disk := (c.disk.makeDirectories (pathOf target)).2 }
          | _, _ => c
        bring c ⟨"install", o.has 'T', target?⟩ (installOne mode (o.has 'v') (o.has 'p') (o.has 'D')) o.operands

end DiagramStudio.Script.Copying
