import DiagramStudio.Script.Perl.Running

/-!
Perl called with words: the options, the program among them or in a file, and loops over lines around it.
-/

namespace DiagramStudio.Script.Perl

open Work

/-- What a call asks for. -/
structure Setup where
  /-- The lines of a program that stand among the words. -/
  lines : List (List Char)
  loops : Bool
  prints : Bool
  splits : Bool
  cutter : Option (List Char)
  /-- Line ends are taken away, and put behind what is printed. -/
  chops : Bool
  /-- The code of what is put behind it, if that is told. -/
  ending : Option Nat
  /-- What ends lines, if it is told; nothing stands for the end of everything. -/
  separator : Option (Option (List Char))
  place : Option (List Char)
  checks : Bool
  modules : List (List Char)
  warns : Bool
  speaks : Bool
deriving Inhabited

/-- What comes of reading the options. -/
inductive Asked where
  | program (s : Setup) (rest : List (List Char))
  | fails (what : List Char) (status : Nat)
  | shows (what : List Char)

def versionText : List Char :=
  "\nThis is perl 5, version 38, subversion 2 (v5.38.2) built for x86_64-linux-gnu-thread-multi\n".toList

/-- The text that a number in front stands for as what ends lines, and what follows it. -/
def separatorOf (s : List Char) : Option (List Char) × List Char :=
  let digits := (s.takeWhile isOctal).take 4
  let n := Expression.numberIn 8 digits
  (if digits.isEmpty then some ['\x00'] else if n = 0 ∧ digits.length > 1 then some [] else if 0o377 < n then none
    else some [Char.ofNat n], s.drop digits.length)

/-- The letters of one word. Every unit of fuel pays for one. -/
def readLetters : Nat → List Char → List (List Char) → Setup → Except Asked (Setup × List (List Char))
  | 0, _, rest, s => .ok (s, rest)
  | _ + 1, [], rest, s => .ok (s, rest)
  | fuel + 1, c :: more, rest, s =>
    let next (s : Setup) : Except Asked (Setup × List (List Char)) := readLetters fuel more rest s
    match c with
    | 'n' => next { s with loops := true }
    | 'p' => next { s with loops := true, prints := true }
    | 'a' => next { s with loops := true, splits := true }
    | 'F' => .ok ({ s with loops := true, splits := true, cutter := some more }, rest)
    | 'l' =>
      let digits := more.takeWhile isOctal
      readLetters fuel (more.drop digits.length) rest
        { s with chops := true, ending := if digits.isEmpty then
            match s.separator with
            | some (some [c]) => some c.toNat
            | _ => s.ending
          else some (Expression.numberIn 8 digits) }
    | '0' =>
      let (separator, after) := separatorOf more
      readLetters fuel after rest { s with separator := some separator }
    | 'e' | 'E' =>
      let s := if c = 'E' then { s with speaks := true } else s
      match more, rest with
      | [], [] => .error (.fails ("No code specified for -".toList ++ [c, '.']) 29)
      | [], text :: rest => .ok ({ s with lines := s.lines ++ [text] }, rest)
      | text, rest => .ok ({ s with lines := s.lines ++ [text] }, rest)
    | 'i' => .ok ({ s with place := some more }, rest)
    | 'M' | 'm' =>
      match more, rest with
      | [], [] => .error (.fails ("Missing argument to -".toList ++ [c]) 2)
      | [], word :: rest => .ok ({ s with modules := s.modules ++ [word] }, rest)
      | word, rest => .ok ({ s with modules := s.modules ++ [word] }, rest)
    | 'I' => .ok (s, if more.isEmpty then rest.tail else rest)
    | 'c' => next { s with checks := true }
    | 'v' => .error (.shows versionText)
    | 'w' | 'W' => next { s with warns := true }
    | 'X' | 's' | 't' | 'T' | 'u' | 'U' | 'S' | 'f' | 'C' | 'x' => next s
    | '-' => .ok (s, rest)
    | c => .error (.fails ("Unrecognized switch: -".toList ++ c :: more ++ "  (-h will show valid options).".toList) 29)

/-- The options of a call. Every unit of fuel pays for a word. -/
def readWords : Nat → List (List Char) → Setup → Except Asked (Setup × List (List Char))
  | 0, rest, s => .ok (s, rest)
  | fuel + 1, words, s =>
    match words with
    | ['-', '-'] :: rest => .ok (s, rest)
    | ('-' :: c :: more) :: rest => do
      let (s, rest) ← readLetters (more.length + 2) (c :: more) rest s
      readWords fuel rest s
    | words => .ok (s, words)

/-- The names that a word brings in. -/
def namesOf (word : List Char) : List (List Char) :=
  match Text.cut? (· == '=') word with
  | some (_, list) => Text.words (· == ',') list
  | none => []

/-- The statements carried out for each line, with what is done in front of them and behind them. -/
def looped (s : Setup) (body : List Statement) : List Statement :=
  let topic := Expr.variable_ Work.topic
  let front : List Statement :=
    (if s.chops then [.expr 0 (.builtin "chomp" [topic])] else []) ++
    (if s.splits then
      let cutter : Expr := match s.cutter with
        | none => .text [' ']
        | some given =>
          let inner := match given with
            | '/' :: rest => (Text.dropBack? ['/'] rest).getD rest
            | '"' :: rest => (Text.dropBack? ['"'] rest).getD rest
            | '\'' :: rest => (Text.dropBack? ['\''] rest).getD rest
            | rest => rest
          .match_ none [.plain inner] []
      [.expr 0 (.assign none (.variable_ ⟨'@', ['F']⟩) (.builtin "split" [cutter, topic]))]
    else [])
  let printing : Expr := .print "print" none []
  let back : List Statement := if s.prints then
      [.expr 0 (.binary "or" printing (.builtin "die" [.text "-p destination: ".toList, .variable_ ⟨'$', ['!']⟩]))]
    else []
  [.while_ 0 "LINE".toList false (some (.line none)) (front ++ body) back]

/-- The values of variables that a program begins with. -/
def firstScalars (file : List Char) (now : Int) : List (String × Value) :=
  [("0", .text file), ("\"", .text [' ']), ("/", .text ['\n']), (";", .text ['\x1c']), ("!", .both 0 []), ("@", .text []),
    ("?", .whole 0), ("|", .whole 0), ("^O", .text "linux".toList), ("^W", .whole 0), ("^T", .whole (now / Calendar.second)),
    ("]", .text "5.038002".toList), ("^V", .text "v5.38.2".toList), ("^X", .text "/usr/bin/perl".toList)]

/-- What a program begins with. -/
def prepared (s : Setup) (file : List Char) (words : List (List Char)) (told : List (List Char × List Char)) :
    Work Unit := do
  for (name, v) in firstScalars file (← outside get).disk.now do
    setGlobal name v
  fillArray (← globalOf ⟨'@', "ARGV".toList⟩) (words.map Value.text)
  fillHash (← globalOf ⟨'%', "ENV".toList⟩) (told.flatMap fun (k, v) => [.text k, .text v])
  match s.separator with
  | some none => setGlobal "/" .missing
  | some (some text) => setGlobal "/" (.text text)
  | none => pure ()
  if s.chops then
    setGlobal "\\" (match s.ending with
      | some n => .text [Char.ofNat n]
      | none => .text ['\n'])

/-- The bodies among statements that are carried out first, or last. -/
def edges (first : Bool) (body : List Statement) : List (List Statement) :=
  body.filterMap fun st => match st with
    | .atEdge f inner => if f = first then some inner else none
    | _ => none

/-- How deep programs can go. -/
def depthFuel : Nat := 10 ^ 6

/-- Something that may end the program: how it ended, if it did. -/
def untilEnd (act : Work Unit) : Work (Option Nat) :=
  tryCatch (do
    act
    return none) fun stop => do
      match stop with
      | .exit status => return some status
      | .died v =>
        complain (← textOf v)
        let errno := (← global "!").toInt
        let status := (← global "?").toInt / 256 % 256
        return some (if errno % 256 ≠ 0 then (errno % 256).toNat else if status ≠ 0 then status.toNat else 255)
      | .flow kind label =>
        let what := if label.isEmpty then "Can't \"".toList ++ kind.toList ++ "\" outside a loop block".toList
          else "Label not found for \"".toList ++ kind.toList ++ ' ' :: label ++ ['"']
        complain (what ++ (← placeText))
        return some 255
      | .returned _ =>
        complain ("Can't return outside a subroutine".toList ++ (← placeText))
        return some 255

/-- A program carried out; its status. -/
def carriedOut (l : Launcher) (s : Setup) (body : List Statement) : Work Nat := do
  let run := runNode l depthFuel
  let all (bodies : List (List Statement)) : Work Unit := do
    for b in bodies do
      let _ ← enclosed (run (.body false b))
  announce body
  let main : Work Unit := do
    all (edges true body)
    let _ ← run (.body false (if s.loops then looped s body else body))
  let ended ← untilEnd main
  setGlobal "?" (.ofNat (ended.getD 0))
  let last ← untilEnd (all (edges false body).reverse)
  closeAll l
  return last.getD (ended.getD 0)

/-- The options in the first line of a program. -/
def leading (text : List Char) : List (List Char) :=
  let row := text.takeWhile (· != '\n')
  if "#!".toList.isPrefixOf row then
    match Text.cutAt? "perl".toList row with
    | some (_, rest) => (Text.words Awk.isGap rest).filter fun w => w.head? == some '-' && w.length > 1
    | none => []
  else []

/-- Perl called with words. -/
def perl (l : Launcher) (told : List (List Char × List Char)) (args : List (List Char)) : Act Unit := do
  let fail (what : List Char) (status : Nat) : Act Unit := modify fun m => { m.emit 2 (what ++ ['\n']) with status }
  let start : Setup := default
  match readWords (args.length + 1) args start with
  | .error (.fails what status) => fail what status
  | .error (.shows what) => modify fun m => { m.emit 1 what with status := 0 }
  | .error (.program ..) => return
  | .ok (s, rest) =>
    let m ← get
    let (file, text?, words) : List Char × Except SystemFault (List Char) × List (List Char) :=
      if !s.lines.isEmpty then
        ("-e".toList, .ok ((s.lines.map (· ++ ['\n'])).flatten), rest)
      else
        match rest with
        | [] => (['-'], .ok [], [])
        | path :: words =>
          if path = ['-'] then (['-'], .ok [], words)
          else (path, (m.disk.read (pathOf path)).map charsOf, words)
    let text? ← if file = ['-'] then do
        pure (.ok (← Shell.wholeInput 0))
      else pure text?
    match text? with
    | .error fault =>
      fail ("Can't open perl script \"".toList ++ file ++ "\": ".toList ++ fault.text.toList) (fault.number?.getD 2)
    | .ok text =>
      let s := if s.lines.isEmpty then
          match readWords 10 (leading text) s with
          | .ok (s, _) => s
          | .error _ => s
        else s
      let imported := (s.modules.flatMap namesOf)
      let usual := if s.modules.any fun w => ["POSIX", "MIME::Base64", "File::Basename"].any fun n => n.toList.isPrefixOf w
        then moduleNames.map String.toList else []
      let strict := s.modules.contains "strict".toList
      let manner : Manner :=
        ⟨file, 1, (if s.speaks then ["say".toList] else []) ++ usual ++ imported, strict, []⟩
      match readProgram manner text with
      | .error fault => fail (['\n'].intercalate fault.lines) 255
      | .ok body =>
        if s.checks then modify fun m => { m.emit 2 (file ++ " syntax OK\n".toList) with status := 0 }
        else
          let begun : State :=
            { cells := #[], arrays := #[], hashes := #[], codes := #[], patterns := #[], globals := [], known := []
              functions := [], handles := firstHandles, handleNames := firstHandleNames, chosen := output, undo := []
              matched := none, positions := [], line := 0, file, lastRead := none, wantsList := false
              inFunction := false, warns := s.warns || s.modules.contains "warnings".toList, isStrict := strict, imported := usual ++ imported, visited := []
              entered := [], begun := false, place := s.place, changing := none, seed := 42, depth := callMax
              lastStatus := 0 }
          let all : Work Nat := do
            prepared s file words told
            carriedOut l s body
          let (result, _) ← StateT.run (ExceptT.run all) begun
          modify fun m => { m with status := match result with
            | .ok status => status
            | .error _ => 255 }

end DiagramStudio.Script.Perl
