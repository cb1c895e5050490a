import DiagramStudio.Script.Token

/-!
Reading the commands of scripts. Commands hold lists of commands, so what reads one is given a reader of
lists; `lists` ties the two together. A script is read line by line, each when the one before has been
carried out, since a line may still be wrong when others have had their effect.
-/

namespace DiagramStudio.Script.Reader

/-- What reads lists of commands. -/
structure Lists where
  /-- Commands that are at least one. -/
  some_ : Reader Command
  /-- Commands, or none. -/
  any : Reader Command

namespace Lists

/-- Commands up to a parenthesis, which is taken. -/
def closed (lists : Lists) : Reader Command := do
  let command ← lists.any
  match (← get).held with
  | some .close => return command
  | some t => unexpected t (some .close)
  | none => unexpected .finish (some .close)

def next (lists : Lists) (keys lines : Bool) : Reader Token :=
  Reader.next lists.closed lists.any keys keys lines

/-- The next token where a word is wanted that may be at the front. -/
def nextWord (lists : Lists) (front : Bool) : Reader Token :=
  Reader.next lists.closed lists.any false front false

/-- A token that has to come now. -/
def expect (lists : Lists) (t : Token) (keys lines : Bool) : Reader Unit := do
  let found ← lists.next keys lines
  if found.shown == t.shown then return () else unexpected found (some t)

end Lists

/-! ## Bindings -/

/-- What a number is bound to. -/
def bindingTarget (lists : Lists) (binding : Binding) : Reader Word := do
  match ← lists.next false false with
  | .word w =>
    match binding with
    | .document strips =>
      let number := (← get).documents.length
      let expands := !w.any fun
        | .text quoted _ => quoted
        | _ => false
      modify fun s =>
        { s with documents := s.documents ++ [[]]
                 pending := s.pending ++ [⟨number, spelling w, strips, expands⟩] }
      return [.text true (toString number).toList]
    | _ => return w
  | t => unexpected t none

/-- Bindings behind a command. Every unit of fuel pays for one. -/
def bindings (lists : Lists) : Nat → Reader (List Bound)
  | 0 => return []
  | fuel + 1 => do
    match ← lists.next true false with
    | .bind_ number binding =>
      let target ← bindingTarget lists binding
      return (number, binding, target) :: (← bindings lists fuel)
    | t =>
      hold t
      return []

/-! ## Single commands -/

/-- The names that no function can have. -/
def specialNames : List String :=
  [".", ":", "break", "continue", "eval", "exec", "exit", "export", "readonly", "return", "set", "shift",
    "times", "trap", "unset"]

/-- The variable that a word sets, and the word for its value. -/
def assignment? (w : Word) : Option (List Char × Word) :=
  match w with
  | .text false chars :: more =>
    match Text.cut? (· == '=') chars with
    | some (name, value) =>
      if isName name then some (name, if value.isEmpty then more else .text false value :: more) else none
    | none => none
  | _ => none

/-- A command without commands of its own as far as it has been read. -/
structure Simple where
  sets : List (List Char × Word)
  words : List Word
  bounds : List Bound

/-- The words and bindings of a command. A word and parentheses in front of anything else make it a
    function. Every unit of fuel pays for a token. -/
def simple (lists : Lists) (command : Reader Command) (line : Nat) : Nat → Simple → Reader Command
  | 0, _ => return .nothing
  | fuel + 1, s => do
    let finished : Command := .call line s.sets s.words s.bounds
    match ← lists.nextWord s.words.isEmpty with
    | .word w =>
      match if s.words.isEmpty then assignment? w else none with
      | some assigned => simple lists command line fuel { s with sets := s.sets ++ [assigned] }
      | none => simple lists command line fuel { s with words := s.words ++ [w] }
    | .bind_ number binding =>
      let target ← bindingTarget lists binding
      simple lists command line fuel { s with bounds := s.bounds ++ [(number, binding, target)] }
    | .open_ =>
      match s.sets, s.words, s.bounds with
      | [], [w], [] =>
        lists.expect .close false false
        match bare? w with
        | some name =>
          if !isName name || specialNames.contains (String.ofList name) then fail .badFunctionName
          else
            let t ← lists.next true true
            hold t
            return .define name (← command)
        | none => fail .badFunctionName
      | _, _, _ =>
        hold .open_
        return finished
    | t =>
      hold t
      return finished

/-! ## Commands with commands of their own -/

/-- The rest of a choice behind the word that opens it. Every unit of fuel pays for a test. -/
def choice (lists : Lists) : Nat → Reader Command
  | 0 => return .nothing
  | fuel + 1 => do
    let test ← lists.some_
    lists.expect (.key .then_) false false
    let yes ← lists.some_
    match ← lists.next false false with
    | .key .elif => return .choice test yes (← choice lists fuel)
    | .key .else_ =>
      let no ← lists.some_
      lists.expect (.key .fi) false false
      return .choice test yes no
    | t =>
      hold t
      lists.expect (.key .fi) false false
      return .choice test yes .nothing

/-- The words of a repetition up to the end of the line. Every unit of fuel pays for one. -/
def eachWords (lists : Lists) : Nat → Reader (List Word)
  | 0 => return []
  | fuel + 1 => do
    match ← lists.next false false with
    | .word w => return w :: (← eachWords lists fuel)
    | .newline =>
      hold .newline
      return []
    | .stop => return []
    | t => unexpected t none

/-- All the words that the script was given. -/
def allParams : Word := [.value true ['@'] .plain]

/-- The rest of a repetition over words. -/
def each (lists : Lists) (line : Nat) : Reader Command := do
  let name ← match ← lists.next false false with
    | .word w =>
      match bare? w with
      | some name => if isName name then pure name else fail .badLoopName
      | none => fail .badLoopName
    | _ => fail .badLoopName
  let fuel ← length
  let words ← match ← lists.next true true with
    | .key .in_ => eachWords lists (fuel + 1)
    | .stop => pure [allParams]
    | t => do
      hold t
      pure [allParams]
  lists.expect (.key .do_) true true
  let body ← lists.some_
  return .each line name words body

/-- The patterns of a branch, of which the first token has been read, up to its parenthesis. Every unit
    of fuel pays for one. -/
def patterns (lists : Lists) : Nat → Token → Reader (List Word)
  | 0, _ => return []
  | fuel + 1, t => do
    let w : Word := match t with
      | .word w => w
      | .key k => [.text false k.spelling.toList]
      | _ => []
    match ← lists.next false false with
    | .pipe =>
      let t ← lists.next false false
      return w :: (← patterns lists fuel t)
    | .close => return [w]
    | t => unexpected t (some .close)

/-- The branches of a selection up to its end. Every unit of fuel pays for one. -/
def branches (lists : Lists) : Nat → Reader (List (List Word × Command))
  | 0 => return []
  | fuel + 1 => do
    match ← lists.next true true with
    | .key .esac => return []
    | t =>
      let t ← match t with
        | .open_ => lists.next false false
        | t => pure t
      let patterns ← patterns lists ((← length) + 1) t
      let body ← lists.any
      match ← lists.next true true with
      | .key .esac => return [(patterns, body)]
      | .endBranch => return (patterns, body) :: (← branches lists fuel)
      | t => unexpected t (some .endBranch)

/-- The rest of a selection. -/
def select (lists : Lists) (line : Nat) : Reader Command := do
  match ← lists.next false false with
  | .word subject =>
    match ← lists.next true true with
    | .key .in_ => return .select line subject (← branches lists ((← length) + 1))
    | t => unexpected t (some (.key .in_))
  | t => unexpected t (some (.word []))

/-- A command with the bindings behind it. -/
def withBindings (lists : Lists) (line : Nat) (c : Command) : Reader Command := do
  let bounds ← bindings lists ((← length) + 1)
  return if bounds.isEmpty then c else .bound line c bounds

/-- One command. Every unit of fuel pays for a function. -/
def command (lists : Lists) : Nat → Reader Command
  | 0 => return .nothing
  | fuel + 1 => do
    let line := (← get).line
    let ended (t : Token) (c : Command) : Reader Command := do
      lists.expect t false false
      withBindings lists line c
    match ← lists.next false false with
    | .key .if_ => withBindings lists line (← choice lists ((← length) + 1))
    | .key .while_ => do
      let test ← lists.some_
      lists.expect (.key .do_) false false
      ended (.key .done) (.loop false test (← lists.some_))
    | .key .until_ => do
      let test ← lists.some_
      lists.expect (.key .do_) false false
      ended (.key .done) (.loop true test (← lists.some_))
    | .key .for_ => ended (.key .done) (← each lists line)
    | .key .case_ => withBindings lists line (← select lists line)
    | .open_ => do
      let body ← lists.some_
      lists.expect .close false false
      return .inner line body (← bindings lists ((← length) + 1))
    | .key .open_ => ended (.key .close) (← lists.some_)
    | .word w =>
      hold (.word w)
      simple lists (command lists fuel) line ((← length) + 2) ⟨[], [], []⟩
    | .bind_ number binding =>
      hold (.bind_ number binding)
      simple lists (command lists fuel) line ((← length) + 2) ⟨[], [], []⟩
    | t => unexpected t none

/-! ## Lists -/

/-- The commands of a pipeline behind its first. Every unit of fuel pays for one. -/
def stages (lists : Lists) (command : Reader Command) : Nat → Reader (List Command)
  | 0 => return []
  | fuel + 1 => do
    match ← lists.next false false with
    | .pipe =>
      let t ← lists.next true true
      hold t
      let c ← command
      return c :: (← stages lists command fuel)
    | t =>
      hold t
      return []

/-- Commands of which each reads what the one before writes. -/
def pipeline (lists : Lists) : Reader Command := do
  let fuel := (← length) + 2
  let t ← lists.next false false
  let negated := match t with
    | .key .not_ => true
    | _ => false
  let t ← if negated then lists.next true false else pure t
  hold t
  let first ← command lists fuel
  let more ← stages lists (command lists fuel) fuel
  let c : Command := if more.isEmpty then first else .pipe (first :: more)
  return if negated then .negation c else c

/-- What a chain goes on with. Every unit of fuel pays for a pipeline. -/
def links (lists : Lists) : Nat → Command → Reader Command
  | 0, before => return before
  | fuel + 1, before => do
    let further (join : Command → Command → Command) : Reader Command := do
      let t ← lists.next true true
      hold t
      links lists fuel (join before (← pipeline lists))
    match ← lists.next false false with
    | .both => further .both
    | .either => further .either
    | t =>
      hold t
      return before

/-- Commands one after another. At the top the list ends with its line, and nothing else may end it.
    `before` are the commands read so far. Every unit of fuel pays for one. -/
def listFrom (lists : Lists) (top mayEnd : Bool) : Nat → Option Command → Reader (Option Command)
  | 0, before => return before
  | fuel + 1, before => do
    let t ← lists.next true (!top)
    let ended : Reader (Option Command) := do
      documents lists.closed lists.any (← get).pending
      return before
    match t with
    | .newline => ended
    | .finish =>
      hold .finish
      ended
    | t =>
      hold t
      if mayEnd && !top && t.endsList then return before
      else
        let c ← links lists fuel (← pipeline lists)
        let t ← lists.next false false
        let c : Command := match t with
          | .apart => .apart c
          | _ => c
        let before : Command := match before with
          | some b => .sequence b c
          | none => c
        match t with
        | .finish =>
          hold .finish
          documents lists.closed lists.any (← get).pending
          return some before
        | .newline =>
          hold .newline
          listFrom lists top true fuel (some before)
        | .apart => listFrom lists top true fuel (some before)
        | .stop => listFrom lists top true fuel (some before)
        | t =>
          if top then unexpected t none
          else
            hold t
            return some before

/-- Readers of lists that are nested so deep at most. -/
def lists : Nat → Lists
  | 0 => ⟨return .nothing, return .nothing⟩
  | depth + 1 =>
    let list (mayEnd : Bool) : Reader Command := do
      return (← listFrom (lists depth) false mayEnd ((← length) + 2) none).getD .nothing
    ⟨list false, list true⟩

/-- The commands of the next line; nothing at the end of the script. -/
def line : Reader (Option Command) := do
  let fuel := (← length) + 2
  let lists := lists fuel
  let found ← listFrom lists true false fuel none
  match found, (← get).held with
  | none, some .finish => return none
  | none, _ => return some .nothing
  | some c, _ => return some c

end DiagramStudio.Script.Reader
