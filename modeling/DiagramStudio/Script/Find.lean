import DiagramStudio.Script.Listing
import DiagramStudio.Script.Making
import DiagramStudio.Script.Process
import DiagramStudio.Script.Regular

/-!
The program that scripts call to find files: it goes through directories and asks of all that is in them
what its words say. It is told how the programs are started that its words name.
-/

namespace DiagramStudio.Script.Find

open TextTool (natural?)

/-- A number to compare with: it has to be exceeded, not to be reached, or to be met. -/
structure Bound where
  sign : Option Char
  number : Nat

def Bound.holds (b : Bound) (n : Int) : Bool :=
  match b.sign with
  | some '+' => (b.number : Int) < n
  | some _ => n < (b.number : Int)
  | none => n == (b.number : Int)

/-- What is asked of a file, and what is done with it. -/
inductive Quest where
  | always (holds : Bool)
  /-- Its name, or its whole path, matches a pattern. -/
  | like (whole folded : Bool) (pattern : List Sign)
  /-- It is a link to a path that matches a pattern. -/
  | leads (pattern : List Sign)
  /-- Its whole path matches an expression. -/
  | spelled (folded : Bool) (expression : Regular)
  /-- It is of a kind that has one of the letters. -/
  | kind (letters : List Char)
  | empty
  /-- It takes so many units. -/
  | sized (bound : Bound) (unit : Nat)
  /-- It has so many names. -/
  | named (bound : Bound)
  /-- It was changed so many units of time ago; those that are not over count if `whole` is not set. -/
  | aged (bound : Bound) (unit : Int) (whole : Bool)
  /-- It was changed after a time. -/
  | newer (time : Int)
  /-- Its mode has all of the bits, some of them, or those only. -/
  | mode (sign : Option Char) (bits : Nat)
  | may (r : Right)
  | owned
  | same (number : Nat)
  /-- Its path is shown, with something behind it. -/
  | show_ (ending : Char)
  /-- What is known of it is shown in a format. -/
  | tell (format : List Char)
  | remove
  /-- A program succeeds that is called with its path in place of braces; it may be called in the directory
      around. -/
  | call (inside : Bool) (words : List (List Char))
  /-- Its path is kept for a program that is called with all of those at the end. -/
  | keep (words : List (List Char))
  /-- What lies below it is left out. -/
  | prune
  | quit
  | not_ (q : Quest)
  | both (a b : Quest)
  | either (a b : Quest)
  /-- Both are asked, and the second one counts. -/
  | then_ (a b : Quest)
deriving Inhabited

namespace Quest

/-- Something is done that makes it needless to show what is found. -/
def acts : Quest → Bool
  | show_ _ | tell _ | remove | call .. | keep _ | quit => true
  | not_ q => q.acts
  | both a b | either a b | then_ a b => a.acts || b.acts
  | _ => false

/-- What a directory holds is asked about in front of the directory itself. -/
def descendsFirst : Quest → Bool
  | remove => true
  | not_ q => q.descendsFirst
  | both a b | either a b | then_ a b => a.descendsFirst || b.descendsFirst
  | _ => false

end Quest

/-! ## Reading -/

/-- How deep the search goes, from which depth on it asks, whether what a directory holds comes first, and
    which links are followed. -/
structure Reach where
  most : Option Nat
  least : Nat
  inside : Bool
  follow : Copying.Follow

/-- Words that are still to be read, the reach as far as it is known, and what is there. -/
structure Reading where
  words : List (List Char)
  reach : Reach
  disk : Disk
  /-- Expressions are read the way that other programs read them, extended or not. -/
  extended? : Option Bool

abbrev Reader := StateT Reading (Except String)

/-- The next word, if there is one, which is used up. -/
def next? : Reader (Option (List Char)) := do
  match (← get).words with
  | [] => return none
  | word :: rest =>
    modify fun r => { r with words := rest }
    return some word

/-- The value of a test. -/
def valueOf (test : List Char) : Reader (List Char) := do
  match ← next? with
  | some value => return value
  | none => throw ("missing argument to \x60" ++ told test ++ "'")

def numberOf (test : List Char) : Reader Nat := do
  let value ← valueOf test
  match natural? value with
  | some n => return n
  | none => throw ("Expected a positive decimal integer argument to " ++ told test ++ ", but got " ++ quoted value)

def invalid {α : Type} (test value : List Char) : Reader α :=
  throw ("invalid argument \x60" ++ told value ++ "' to \x60" ++ told test ++ "'")

/-- A number with its sign. -/
def boundOf (test : List Char) : Reader Bound := do
  let value ← valueOf test
  let (sign, rest) : Option Char × List Char := match value with
    | '+' :: rest => (some '+', rest)
    | '-' :: rest => (some '-', rest)
    | rest => (none, rest)
  match natural? rest with
  | some n => return ⟨sign, n⟩
  | none => invalid test value

/-- The signs of a pattern in a text. -/
def patternOf (s : List Char) : List Sign := Sign.ofLetters (letters s)
where
  letters : List Char → List Letter
    | '\\' :: c :: rest => (c, true) :: letters rest
    | c :: rest => (c, false) :: letters rest
    | [] => []

def foldedPattern (s : List Char) : List Sign := patternOf (s.map Char.toLower)

/-- An expression in which groups and branches are written with backslashes, with them in place of the signs
    themselves. -/
def unslashed : List Char → List Char
  | '\\' :: c :: rest => if ['(', ')', '|'].contains c then c :: unslashed rest else '\\' :: c :: unslashed rest
  | c :: rest => if ['(', ')', '|', '\x7b', '\x7d'].contains c then '\\' :: c :: unslashed rest else c :: unslashed rest
  | [] => []

def expressionOf (folded : Bool) (test : List Char) : Reader Quest := do
  let value ← valueOf test
  let found := match (← get).extended? with
    | some extended => Regular.read extended value
    | none => Regular.read true (unslashed value)
  match found with
  | .ok e => return .spelled folded e
  | .error fault => throw ("failed to compile regular expression '" ++ told value ++ "': " ++ fault.message)

/-- A size with its sign and its unit. -/
def sizeOf (value : List Char) : Reader Quest := do
  let (sign, rest) : Option Char × List Char := match value with
    | '+' :: rest => (some '+', rest)
    | '-' :: rest => (some '-', rest)
    | rest => (none, rest)
  let digits := rest.takeWhile Char.isDigit
  let unit? : Option Nat := match rest.drop digits.length with
    | [] => some 512
    | ['b'] => some 512
    | ['c'] => some 1
    | ['w'] => some 2
    | ['k'] => some 1024
    | ['M'] => some (1024 ^ 2)
    | ['G'] => some (1024 ^ 3)
    | _ => none
  match natural? digits, unit? with
  | some n, some unit => return .sized ⟨sign, n⟩ unit
  | _, none => throw ("invalid -size type \x60" ++ told (rest.drop digits.length) ++ "'")
  | none, _ => throw ("Invalid argument \x60" ++ told value ++ "' to -size")

/-- A mode with its sign. -/
def modeOf (value : List Char) : Reader Quest := do
  let (sign, rest) : Option Char × List Char := match value with
    | '/' :: rest => (some '/', rest)
    | '-' :: rest => (some '-', rest)
    | rest => (none, rest)
  match Mode.read? rest with
  | some changes => return .mode sign (Mode.apply changes false 0 0)
  | none => throw ("invalid mode " ++ quoted value)

/-- The node that a path leads to. -/
def nodeOf (path : List Char) : Reader (Nat × Node) := do
  let disk := (← get).disk
  match disk.locate (pathOf path) with
  | .error fault => throw (quoted path ++ ": " ++ fault.text)
  | .ok place =>
    match disk.numberAt? place, disk.nodeAt? place with
    | some number, some n => return (number, n)
    | _, _ => throw (quoted path ++ ": " ++ SystemFault.notFound.text)

/-- A program with its words, up to the word that ends them. -/
def programOf (test : List Char) (inside : Bool) : Reader Quest := do
  let words := (← get).words
  match words.findIdx? fun w => w = [';'] ∨ w = ['+'] with
  | none => throw ("missing argument to \x60" ++ told test ++ "'")
  | some n =>
    modify fun r => { r with words := r.words.drop (n + 1) }
    let command := words.take n
    if command.isEmpty then invalid test [';']
    else if words[n]? = some ['+'] then return .keep command.dropLast
    else return .call inside command

/-- One test or action. -/
def primary (word : List Char) : Reader Quest := do
  match String.ofList word with
  | "-name" => return .like false false (patternOf (← valueOf word))
  | "-iname" => return .like false true (foldedPattern (← valueOf word))
  | "-path" | "-wholename" => return .like true false (patternOf (← valueOf word))
  | "-ipath" | "-iwholename" => return .like true true (foldedPattern (← valueOf word))
  | "-lname" => return .leads (patternOf (← valueOf word))
  | "-regex" => expressionOf false word
  | "-iregex" => expressionOf true word
  | "-regextype" =>
    let value ← valueOf word
    let extended := match String.ofList value with
      | "emacs" | "findutils-default" => none
      | "posix-basic" | "grep" | "sed" | "ed" => some false
      | _ => some true
    modify fun r => { r with extended? := extended }
    return .always true
  | "-type" =>
    let value ← valueOf word
    match value.find? fun c => !("fdlpsbcD,".toList.contains c) with
    | some c => throw ("Unknown argument to -type: " ++ c.toString)
    | none =>
      if (Text.pieces (· == ',') value).any (·.length != 1) then
        throw "Must separate multiple arguments to -type using: ','"
      else return .kind value
  | "-empty" => return .empty
  | "-size" => sizeOf (← valueOf word)
  | "-links" => return .named (← boundOf word)
  | "-mtime" | "-ctime" | "-atime" => return .aged (← boundOf word) 86400 true
  | "-mmin" | "-cmin" | "-amin" => return .aged (← boundOf word) 60 false
  | "-newer" | "-anewer" | "-cnewer" => return .newer (← nodeOf (← valueOf word)).2.changed
  | "-newermt" =>
    let value ← valueOf word
    match Calendar.read? (← get).disk.now value with
    | some time => return .newer time
    | none => throw ("I cannot figure out how to interpret " ++ quoted value ++ " as a date or time")
  | "-samefile" => return .same (← nodeOf (← valueOf word)).1
  | "-perm" => modeOf (← valueOf word)
  | "-readable" => return .may .read
  | "-writable" => return .may .write
  | "-executable" => return .may .enter
  | "-user" | "-group" =>
    let value ← valueOf word
    if value = userName ∨ value = shown userNumber then return .owned
    else if value = ownerName ∨ value = ['0'] then return .not_ .owned
    else throw (quoted value ++ " is not the name of " ++ if word = "-user".toList then "a known user" else "an existing group")
  | "-nouser" | "-nogroup" => return .always false
  | "-print" => return .show_ '\n'
  | "-print0" => return .show_ '\x00'
  | "-printf" => return .tell (← valueOf word)
  | "-delete" => return .remove
  | "-exec" => programOf word false
  | "-execdir" => programOf word true
  | "-prune" => return .prune
  | "-quit" => return .quit
  | "-true" => return .always true
  | "-false" => return .always false
  | "-maxdepth" =>
    let n ← numberOf word
    modify fun r => { r with reach := { r.reach with most := some n } }
    return .always true
  | "-mindepth" =>
    let n ← numberOf word
    modify fun r => { r with reach := { r.reach with least := n } }
    return .always true
  | "-depth" | "-d" =>
    modify fun r => { r with reach := { r.reach with inside := true } }
    return .always true
  | "-follow" =>
    modify fun r => { r with reach := { r.reach with follow := .always } }
    return .always true
  | "-mount" | "-xdev" | "-noleaf" | "-daystart" | "-warn" | "-nowarn" | "-ignore_readdir_race" => return .always true
  | _ =>
    if word.head? = some '-' then throw ("unknown predicate \x60" ++ told word ++ "'")
    else throw ("paths must precede expression: \x60" ++ told word ++ "'")

mutual

/-- Tests of which the last counts. Every unit of fuel pays for a step. -/
def list : Nat → Reader Quest
  | 0 => return .always true
  | fuel + 1 => do
    let a ← some_ fuel
    match (← get).words with
    | [','] :: _ =>
      let _ ← next?
      return .then_ a (← list fuel)
    | _ => return a

/-- Tests of which one has to hold. -/
def some_ : Nat → Reader Quest
  | 0 => return .always true
  | fuel + 1 => do
    let a ← every fuel
    match (← get).words with
    | word :: _ =>
      if word = "-o".toList ∨ word = "-or".toList then
        let _ ← next?
        return .either a (← some_ fuel)
      else return a
    | [] => return a

/-- Tests that all have to hold. -/
def every : Nat → Reader Quest
  | 0 => return .always true
  | fuel + 1 => do
    let a ← one fuel
    match (← get).words with
    | word :: _ =>
      if ["-o", "-or", ")", ","].contains (String.ofList word) then return a
      else
        if word = "-a".toList ∨ word = "-and".toList then let _ ← next?
        return .both a (← every fuel)
    | [] => return a

def one : Nat → Reader Quest
  | 0 => return .always true
  | fuel + 1 => do
    match ← next? with
    | none => return .always true
    | some word =>
      if word = ['!'] ∨ word = "-not".toList then return .not_ (← one fuel)
      else if word = ['('] then
        let inner ← list fuel
        match ← next? with
        | some [')'] => return inner
        | _ =>
          throw "invalid expression; I was expecting to find a ')' somewhere but did not see one."
      else primary word

end

/-- A word that begins what is asked, behind the paths. -/
def begins (word : List Char) : Bool :=
  match word with
  | '-' :: _ :: _ => true
  | ['('] => true
  | ['!'] => true
  | _ => false

/-- The words behind those that say which links are followed, and what they say. -/
def followed (follow : Copying.Follow) : List (List Char) → Copying.Follow × List (List Char)
  | ['-', 'H'] :: rest => followed .named rest
  | ['-', 'L'] :: rest => followed .always rest
  | ['-', 'P'] :: rest => followed .never rest
  | ('-' :: 'O' :: _) :: rest => followed follow rest
  | words => (follow, words)

/-- The paths, and what is asked. -/
def read (disk : Disk) (args : List (List Char)) : Except String (List (List Char) × Quest × Reach) :=
  let (follow, args) := followed .never args
  let paths := args.takeWhile (!begins ·)
  let words := args.drop paths.length
  let start : Reading := ⟨words, ⟨none, 0, false, follow⟩, disk, none⟩
  let paths := if paths.isEmpty then [['.']] else paths
  if words.isEmpty then .ok (paths, .show_ '\n', start.reach)
  else
    match StateT.run (list (4 * words.length + 4)) start with
    | .error what => .error what
    | .ok (quest, r) =>
      match r.words with
      | word :: _ => .error ("paths must precede expression: \x60" ++ told word ++ "'")
      | [] =>
        let reach := { r.reach with inside := r.reach.inside || quest.descendsFirst }
        .ok (paths, if quest.acts then quest else .both quest (.show_ '\n'), reach)

/-! ## Going through files -/

/-- Something that is found: its path, where it stands, where it is looked at, how deep it lies, and the path
    from which the search came. -/
structure Entry where
  path : List Char
  place : Place
  seen : Place
  depth : Nat
  root : List Char

/-- How far the search has come. -/
structure Walk where
  /-- What lies below the entry that was asked about last is left out. -/
  pruned : Bool
  /-- Programs, and the paths that are kept for them. -/
  kept : List (List (List Char) × List Char)
  failed : Bool
  ended : Bool

/-- A search that goes on. -/
abbrev Search := StateT Walk Act

/-- A text with a path in place of braces. -/
def withPath (path : List Char) : List Char → List Char
  | '\x7b' :: '\x7d' :: rest => path ++ withPath path rest
  | c :: rest => c :: withPath path rest
  | [] => []

def complain (what : String) : Search Unit := do
  let tell : Act Unit := modify fun m => m.emit 2 (spread ("find: " ++ what ++ "\n"))
  liftM tell
  modify fun w => { w with failed := true }

/-- What starts a program that words name. -/
abbrev Starting := List (List Char) → Act Unit

def disk : Search Disk := do
  let m : Machine ← liftM (get : Act Machine)
  return m.disk

/-- What is known of an entry, by a letter of a format. -/
def facet (disk : Disk) (e : Entry) (n : Node) (letter : Char) : List Char :=
  let number := (disk.numberAt? e.seen).getD 0
  let far (c : Content) : Char := if Listing.letterOf c = '-' then 'f' else Listing.letterOf c
  let stat (letter : Char) : List Char := Listing.facet e.path n number (disk.linkCount e.seen) none letter
  match letter with
  | 'p' => e.path
  | 'P' => (e.path.drop e.root.length).dropWhile (· == '/')
  | 'H' => e.root
  | 'f' => FileTool.lastName e.path
  | 'h' => if e.path.contains '/' then FileTool.around e.path else ['.']
  | 's' => stat 's'
  | 'm' => stat 'a'
  | 'M' => stat 'A'
  | 'y' => [far n.content]
  | 'Y' =>
    match n.content with
    | .link _ => match (FileTool.placeOf? disk e.path).bind disk.at? with
      | some c => [far c]
      | none => ['N']
    | c => [far c]
  | 'd' => shown e.depth
  | 'l' =>
    match n.content with
    | .link target => spread (String.ofList target)
    | _ => []
  | 'n' => stat 'h'
  | 'i' => stat 'i'
  | 'u' => stat 'U'
  | 'g' => stat 'G'
  | 'U' => stat 'u'
  | 'G' => stat 'g'
  | 'k' => shown (Listing.blocksOf n.content)
  | 'b' => stat 'b'
  | 't' | 'c' | 'a' => Calendar.format n.changed 64 "%a %b %e %H:%M:%S.%N0 %Y".toList
  | 'D' => stat 'd'
  | '%' => ['%']
  | c => ['%', c]

/-- A format filled in. Every unit of fuel pays for a character. -/
def filledIn (disk : Disk) (e : Entry) (n : Node) : Nat → List Char → List Char
  | 0, _ => []
  | _ + 1, [] => []
  | fuel + 1, '%' :: rest =>
    let flags := rest.takeWhile fun c => ['-', '+', ' ', '#', '0'].contains c
    let digits := (rest.drop flags.length).takeWhile Char.isDigit
    let behind := rest.drop (flags.length + digits.length)
    match behind with
    | [] => ['%']
    | letter :: more =>
      let dated := (letter = 'T' ∨ letter = 'A' ∨ letter = 'C') ∧ !more.isEmpty
      let text := if dated then
          match more.headD 'c' with
          | '@' => Calendar.format n.changed 16 "%s.%N0".toList
          | '+' => Calendar.format n.changed 32 "%Y-%m-%d+%H:%M:%S.%N0".toList
          | 'S' => Calendar.format n.changed 16 "%S.%N0".toList
          | 'T' | 'X' => Calendar.format n.changed 32 "%H:%M:%S.%N0".toList
          | c => Calendar.format n.changed 8 ['%', c]
        else facet disk e n letter
      let text := if flags.contains '#' && letter = 'm' then '0' :: text else text
      let width := ((String.ofList digits).toNat?).getD 0
      let text := if flags.contains '-' then Listing.toLeft width text else Listing.toRight width text
      text ++ filledIn disk e n fuel (if dated then more.drop 1 else more)
  | _ + 1, '\\' :: 'c' :: _ => []
  | fuel + 1, '\\' :: rest =>
    let (c, behind) := escape rest
    c :: filledIn disk e n fuel behind
  | fuel + 1, c :: rest => c :: filledIn disk e n fuel rest

/-- What is asked of something found, with what is done. -/
def ask (start : Starting) (e : Entry) : Quest → Search Bool
  | .always holds => return holds
  | .like whole folded pattern => do
    let s := if whole then e.path else FileTool.lastName e.path
    return Sign.matchAll pattern (if folded then s.map Char.toLower else s)
  | .leads pattern => do
    match (← disk).at? e.seen with
    | some (.link target) => return Sign.matchAll pattern (spread (String.ofList target))
    | _ => return false
  | .spelled folded expression => do
    let text := e.path.toArray
    match Regular.find? folded expression text 0 with
    | some m => return m.start == 0 && m.finish == text.size
    | none => return false
  | .kind letters => do
    let letter := match (← disk).at? e.seen with
      | some c => if Listing.letterOf c = '-' then 'f' else Listing.letterOf c
      | none => 'f'
    return letters.contains letter
  | .empty => do
    let disk ← disk
    match disk.at? e.seen with
    | some .directory => return (disk.listAt e.seen).isEmpty
    | some (.file bytes) => return bytes.isEmpty
    | _ => return false
  | .sized bound unit => do
    let size := (((← disk).at? e.seen).map Listing.sizeOf).getD 0
    return bound.holds ((size + unit - 1) / unit)
  | .named bound => return bound.holds ((← disk).linkCount e.seen)
  | .aged bound unit whole => do
    let disk ← disk
    let age := disk.now - ((disk.nodeAt? e.seen).map (·.changed)).getD disk.now
    let units := if whole then age / (unit * Calendar.second) else (age + unit * Calendar.second - 1) / (unit * Calendar.second)
    return bound.holds units
  | .newer time => return time < (((← disk).nodeAt? e.seen).map (·.changed)).getD 0
  | .mode sign bits => do
    let mode := (((← disk).nodeAt? e.seen).map (·.mode)).getD 0
    match sign with
    | none => return mode == bits
    | some '-' => return mode &&& bits == bits
    | some _ => return bits == 0 || mode &&& bits != 0
  | .may r => do
    let disk ← disk
    match FileTool.placeOf? disk e.path with
    | some place => return disk.allowsAt place r
    | none => return false
  | .owned => return (((← disk).nodeAt? e.seen).map (·.owned)).getD false
  | .same number => return (← disk).numberAt? e.seen == some number
  | .show_ ending => do
    let tell : Act Unit := modify fun m => m.emit 1 (e.path ++ [ending])
    liftM tell
    return true
  | .tell format => do
    let disk ← disk
    match disk.nodeAt? e.seen with
    | some n =>
      let tell : Act Unit := modify fun m => m.emit 1 (filledIn disk e n (format.length + 1) format)
      liftM tell
    | none => pure ()
    return true
  | .remove => do
    let disk ← disk
    if e.depth = 0 && FileTool.lastName e.path == ['.'] then return true
    else if !(disk.listAt e.place).isEmpty then
      complain ("cannot delete " ++ quoted e.path ++ ": " ++ SystemFault.notEmpty.text)
      return false
    else if !disk.changeable e.place.dropLast then
      complain ("cannot delete " ++ quoted e.path ++ ": " ++ SystemFault.notPermitted.text)
      return false
    else
      let act : Act Unit := modify fun m => { m with disk := m.disk.remove e.place }
      liftM act
      return true
  | .call inside words => do
    let path := if inside then "./".toList ++ FileTool.lastName e.path else e.path
    let act : Act Nat := do
      let here := (← get).disk.here
      if inside then modify fun m => { m with disk := { m.disk with here := e.place.dropLast } }
      start (words.map (withPath path))
      modify fun m => { m with disk := { m.disk with here } }
      return (← get).status
    return (← (liftM act : Search Nat)) == 0
  | .keep words => do
    modify fun w => { w with kept := w.kept ++ [(words, e.path)] }
    return true
  | .prune => do
    modify fun w => { w with pruned := true }
    return true
  | .quit => do
    modify fun w => { w with ended := true }
    return true
  | .not_ q => do
    let holds ← ask start e q
    return !holds
  | .both a b => do
    let holds ← ask start e a
    if holds && !(← get).ended then ask start e b else return holds
  | .either a b => do
    let holds ← ask start e a
    if holds || (← get).ended then return holds else ask start e b
  | .then_ a b => do
    let holds ← ask start e a
    if (← get).ended then return holds else ask start e b

/-- Something found asked about, and all that is in it. Every unit of fuel pays for a directory around. -/
def visit (start : Starting) (quest : Quest) (reach : Reach) : Nat → Entry → Search Unit
  | 0, _ => return
  | fuel + 1, e => do
    let question : Search Unit := do
      if reach.least ≤ e.depth then
        let _ ← ask start e quest
    modify fun w => { w with pruned := false }
    if !reach.inside then question
    let w ← get
    let deeper := !w.ended && !(w.pruned && !reach.inside) && (match reach.most with
      | some most => e.depth < most
      | none => true)
    if deeper && (← disk).isDirectoryAt e.seen then
      if !(← disk).allowsAt e.seen .read then
        complain (quoted e.path ++ ": " ++ SystemFault.notPermitted.text)
      else
        for name in FileTool.namesAt (← disk) e.seen do
          if !(← get).ended then
            let path := FileTool.within e.path name
            let place := e.seen ++ [String.ofList (pathOf name)]
            let now ← disk
            if (now.at? place).isSome then
              let seen := if reach.follow = .always then (FileTool.placeOf? now path).getD place else place
              visit start quest reach fuel ⟨path, place, seen, e.depth + 1, e.root⟩
    if reach.inside && !(← get).ended then question

/-- All that is found at a path asked about. -/
def visitFrom (start : Starting) (quest : Quest) (reach : Reach) (path : List Char) : Search Unit := do
  if (← get).ended then return
  let now ← disk
  match now.locateSelf (pathOf path) with
  | .error fault => complain (quoted path ++ ": " ++ fault.text)
  | .ok place =>
    let seen := if reach.follow = .never then place else (FileTool.placeOf? now path).getD place
    visit start quest reach Copying.depthMax ⟨path, place, seen, 0, path⟩

/-- Programs called with the paths that are kept for them. -/
def callKept (start : Starting) : Search Unit := do
  let kept := (← get).kept
  for words in (kept.map (·.1)).eraseDups do
    let paths := (kept.filter (·.1 == words)).map (·.2)
    let act : Act Nat := do
      start (words ++ paths)
      return (← get).status
    if (← (liftM act : Search Nat)) != 0 then modify fun w => { w with failed := true }

def find (start : Starting) (args : List (List Char)) : Act Unit := do
  match read (← get).disk args with
  | .error what => modify fun m => { m.emit 2 (spread ("find: " ++ what ++ "\n")) with status := 1 }
  | .ok (paths, quest, reach) =>
    let search : Search Unit := do
      for path in paths do
        visitFrom start quest reach path
      callKept start
    let (_, w) ← search.run ⟨false, [], false, false⟩
    modify fun m => { m with status := if w.failed then 1 else 0 }

end DiagramStudio.Script.Find
