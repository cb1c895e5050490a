import DiagramStudio.Script.Pattern
import DiagramStudio.Script.Process
import DiagramStudio.Script.Sum

/-!
What the words of scripts stand for. Values and outputs are put in place, what is not quoted is cut into
fields, and fields that are patterns give way to the names of files that they match. A word without a
meaning ends the script.
-/

namespace DiagramStudio.Script

/-- A step that may end the script. -/
abbrev Trial := ExceptT Unit Act

namespace Trial

/-- The script ended with a complaint. -/
def refuse {α : Type} (what : List Char) : Trial α := do
  modify fun m => m.fault what
  throw ()

/-- What a step gives; nothing if it ends the script. -/
def result? {α : Type} (trial : Trial α) : Act (Option α) := do
  match ← ExceptT.run trial with
  | .ok a => return some a
  | .error () => return none

end Trial

/-- What a part of a word comes to. -/
inductive Piece where
  /-- A character. One that is `literal` is no sign of a pattern, one that is `free` may be where the
      word is cut. -/
  | letter (c : Char) (literal free : Bool)
  /-- There is a field here even if it stays empty. -/
  | mark
  /-- The word is cut here. -/
  | cut
deriving Inhabited

namespace Piece

def ofValue (quoted : Bool) (s : List Char) : List Piece :=
  (if quoted then [mark] else []) ++ s.map fun c => letter c quoted (!quoted)

/-- Values of which each is a field of its own. -/
def ofValues (quoted : Bool) (values : List (List Char)) : List Piece :=
  [cut].intercalate (values.map (ofValue quoted))

/-- The characters of a word that is not cut. -/
def text (pieces : List Piece) : List Char :=
  pieces.filterMap fun
    | letter c .. => some c
    | mark => none
    | cut => some ' '

/-- The letters of a word that is a pattern. -/
def letters (pieces : List Piece) : List Letter :=
  pieces.filterMap fun
    | letter c literal _ => some (c, literal)
    | mark => none
    | cut => some (' ', true)

end Piece

/-! ## Cutting -/

/-- What was met behind the last field that is complete. -/
inductive Gap where
  | none
  /-- White space only. -/
  | white
  /-- A separator that is not white. -/
  | sign
deriving DecidableEq

/-- Fields as far as they are known: those that are complete, the last first, and the one that may go
    on. -/
structure Fields where
  complete : List (List Letter)
  current : Option (List Letter)
  gap : Gap

namespace Fields

def empty : Fields := ⟨[], none, .none⟩

def close (f : Fields) (gap : Gap) : Fields :=
  match f.current with
  | some field => ⟨field.reverse :: f.complete, none, gap⟩
  | none => { f with gap }

/-- The fields with one more piece. White space around a separator that is not white belongs to it. -/
def add (separators : List Char) (f : Fields) : Piece → Fields
  | .mark => { f with current := some (f.current.getD []) }
  | .cut => f.close .none
  | .letter c literal free =>
    if free && separators.contains c then
      if c == ' ' || c == '\t' || c == '\n' then
        if f.current.isSome then f.close .white else f
      else if f.current.isSome || f.gap == .white then f.close .sign
      else { f with complete := [] :: f.complete, gap := .sign }
    else { f with current := some ((c, literal) :: f.current.getD []) }

def toList (f : Fields) : List (List Letter) := (f.close .none).complete.reverse

end Fields

/-! ## Names of files -/

/-- The parts of a pattern between separators of paths. -/
def steps (s : List Letter) : List (List Letter) :=
  s.foldr (fun l parts =>
    if l.1 == Path.separator then [] :: parts
    else
      match parts with
      | [] => [[l]]
      | first :: more => (l :: first) :: more) [[]]

/-- The names in a directory that a pattern matches; a leading point has to be given. -/
def matching (disk : Disk) (directory : List Char) (s : List Letter) : List (List Char) :=
  let names := (disk.list (pathOf (if directory.isEmpty then Path.here else directory))).map spread
  let signs := Sign.ofLetters s
  let hidden := s.head?.map (·.1) == some '.'
  (names.filter fun name => Sign.matchAll signs name && (hidden || name.head? != some '.')).mergeSort

/-- The paths that a pattern matches, behind those that its front matches. -/
def paths (disk : Disk) (found : List (List Char)) : List (List Letter) → List (List Char)
  | [] => found
  | s :: more =>
    let further := found.flatMap fun front =>
      if Sign.isPattern s then (matching disk front s).map (front ++ ·) else [front ++ s.map (·.1)]
    let further := further.filter fun path => path.isEmpty || disk.leads (pathOf path)
    paths disk (if more.isEmpty then further else further.map (· ++ [Path.separator])) more

/-- The fields that a field stands for. -/
def globbed (m : Machine) (field : List Letter) : List (List Char) :=
  if m.has 'f' || !Sign.isPattern field then [field.map (·.1)]
  else
    match paths m.disk [[]] (steps field) with
    | [] => [field.map (·.1)]
    | found => found

/-! ## Words -/

/-- What carries out commands for their output. -/
abbrev Capture := Command → Act (List Char)

/-- What a parameter stands for as it is. -/
def valuePieces (m : Machine) (quoted : Bool) (name : List Char) : List Piece :=
  if name = ['@'] then Piece.ofValues quoted m.params
  else if name = ['*'] then
    if quoted then
      let glue := match entryFor? "IFS".toList m.variables_ with
        | none => [' ']
        | some s => s.take 1
      Piece.ofValue true (glue.intercalate m.params)
    else Piece.ofValues false m.params
  else Piece.ofValue quoted (m.value name)

/-- A parameter without a value may not be used. -/
def checkSet (m : Machine) (name : List Char) : Trial Unit := do
  if m.has 'u' && (m.value? name).isNone && name != ['@'] && name != ['*'] then
    Trial.refuse (name ++ ": parameter not set".toList)

/-- The pieces of a word. `free` says that texts which are not quoted may be cut. Every unit of fuel
    pays for a part. -/
def pieces (capture : Capture) : Nat → Bool → Word → Trial (List Piece)
  | 0, _, _ => return []
  | _ + 1, _, [] => return []
  | fuel + 1, free, part :: more => do
    let front : List Piece ← match part with
      | .text quoted s =>
        pure ((if quoted then [Piece.mark] else [])
          ++ s.map fun c => Piece.letter c quoted (free && !quoted))
      | .output quoted body => do
        let out ← liftM (capture body)
        pure (Piece.ofValue quoted out)
      | .sum quoted expression => do
        let text := Piece.text (← pieces capture fuel false expression)
        let m ← get
        match Sum.evaluate m.variables_ text with
        | .ok (n, variables_) =>
          set { m with variables_ }
          pure (Piece.ofValue quoted (toString n).toList)
        | .error fault => Trial.refuse (fault.message text)
      | .value quoted name form => do
        let m ← get
        match form with
        | .plain =>
          checkSet m name
          pure (valuePieces m quoted name)
        | .length =>
          checkSet m name
          pure (Piece.ofValue quoted (shown (m.value name).length))
        | .unknown => Trial.refuse "Bad substitution".toList
        | .trimmed atEnd longest pattern =>
          checkSet m name
          let signs := Sign.ofLetters (Piece.letters (← pieces capture fuel false pattern))
          pure (Piece.ofValue quoted (Sign.trim signs atEnd longest (m.value name)))
        | .fallback kind orEmpty word =>
          let missing := match m.value? name with
            | none => true
            | some s => orEmpty && s.isEmpty
          match kind, missing with
          | .replaced, true => pieces capture fuel true word
          | .replaced, false => pure (valuePieces m quoted name)
          | .masked, true => pure (if quoted then [Piece.mark] else [])
          | .masked, false => pieces capture fuel true word
          | .assigned, false => pure (valuePieces m quoted name)
          | .assigned, true =>
            let value := Piece.text (← pieces capture fuel false word)
            if isName name then
              modify fun m => m.set name value
              pure (Piece.ofValue quoted value)
            else Trial.refuse (name ++ ": bad variable name".toList)
          | .refused, false => pure (valuePieces m quoted name)
          | .refused, true =>
            let told := Piece.text (← pieces capture fuel false word)
            let told := if !word.isEmpty then told
              else if orEmpty then "parameter not set or null".toList else "parameter not set".toList
            Trial.refuse (name ++ ": ".toList ++ told)
    return front ++ (← pieces capture fuel free more)

/-- A word with the path of the directory that a tilde at its front stands for. -/
def withHome (m : Machine) (w : Word) : Word :=
  match w with
  | .text false ('~' :: rest) :: more =>
    let name := rest.takeWhile (· != Path.separator)
    let ends := name.length < rest.length || more.isEmpty
    let home? :=
      if !ends then none
      else if name.isEmpty then entryFor? "HOME".toList m.variables_
      else if name = "root".toList then some "/root".toList
      else none
    match home? with
    | some home => .text true home :: .text false (rest.drop name.length) :: more
    | none => w
  | _ => w

/-- How many parts deep and far words are read. -/
def wordFuel : Nat := 10000

/-- The text that a word stands for where it is not cut. -/
def single (capture : Capture) (w : Word) : Trial (List Char) :=
  return Piece.text (← pieces capture wordFuel false (withHome (← get) w))

/-- The pattern that a word stands for. -/
def pattern (capture : Capture) (w : Word) : Trial (List Sign) :=
  return Sign.ofLetters (Piece.letters (← pieces capture wordFuel false (withHome (← get) w)))

/-- The fields that words stand for. -/
def fields (capture : Capture) (words : List Word) : Trial (List (List Char)) :=
  match words with
  | [] => return []
  | w :: more => do
    let found ← pieces capture wordFuel false (withHome (← get) w)
    let m ← get
    let here := (found.foldl (Fields.add m.separators) .empty).toList.flatMap (globbed m)
    return here ++ (← fields capture more)

end DiagramStudio.Script
