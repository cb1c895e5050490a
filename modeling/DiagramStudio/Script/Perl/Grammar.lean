import DiagramStudio.Script.Awk.Value
import DiagramStudio.Script.Perl.Filling

/-!
Reading programs in Perl: the ranks of operators, the words with a grammar of their own, and statements.
-/

namespace DiagramStudio.Script.Perl

open Reader

/-! ## Operators -/

/-- The signs between operands with their ranks, those first that begin like others and are longer. -/
def signs : List (String × Nat) :=
  [("**=", 6), ("||=", 6), ("&&=", 6), ("//=", 6), ("<=>", 13), ("<<=", 6), (">>=", 6), ("...", 8), ("**", 21), ("=~", 19),
    ("!~", 19), ("==", 13), ("!=", 13), ("<=", 14), (">=", 14), ("&&", 10), ("||", 9), ("//", 9), ("..", 8), ("+=", 6),
    ("-=", 6), ("*=", 6), ("/=", 6), (".=", 6), ("%=", 6), ("&=", 6), ("|=", 6), ("^=", 6), ("<<", 16), (">>", 16),
    ("=>", 5), ("+", 17), ("-", 17), ("*", 18), ("/", 18), ("%", 18), (".", 17), ("<", 14), (">", 14), ("&", 12), ("|", 11),
    ("^", 11), ("=", 6), ("?", 7), (",", 5)]

/-- The words between operands with their ranks. -/
def links : List (String × Nat) :=
  [("lt", 14), ("gt", 14), ("le", 14), ("ge", 14), ("eq", 13), ("ne", 13), ("cmp", 13), ("and", 2), ("or", 1), ("xor", 1)]

/-- The operator in front of a text between operands, with its rank. -/
def operator? (rest : List Char) : Option (String × Nat) :=
  let w := rest.takeWhile isNamePart
  match w with
  | [] => signs.find? fun (s, _) => s.toList.isPrefixOf rest
  | 'x' :: digits =>
    if digits.isEmpty then
      match rest.drop 1 with
      | '=' :: c :: _ => some (if c = '=' ∨ c = '~' ∨ c = '>' then ("x", 18) else ("x=", 6))
      | _ => some ("x", 18)
    else if digits.all Char.isDigit then some ("x", 18) else links.find? fun (s, _) => s.toList == w
  | w => links.find? fun (s, _) => s.toList == w

/-- The words that stand behind statements. -/
def modifiers : List String := ["if", "unless", "while", "until", "for", "foreach"]

/-- Words that cannot stand at the start of an operand. -/
def isLink (w : List Char) : Bool :=
  links.any (·.1.toList == w) || modifiers.any (·.toList == w) || w == ['x']

/-- An operand begins in front; `many` says that signs count for one where that is open. -/
def startsTerm (rest : List Char) (many : Bool) : Bool :=
  match rest with
  | [] => false
  | '-' :: '-' :: _ => true
  | '+' :: '+' :: _ => true
  | '-' :: c :: _ => c != '=' && (many || !isBlank c)
  | '<' :: '<' :: c :: _ => c == '"' || c == '\'' || c == '~' || c.isAlpha
  | '<' :: '=' :: _ => false
  | '<' :: c :: _ => many && (c.isAlpha || c == '$' || c == '>')
  | '=' :: _ => false
  | '.' :: c :: _ => c.isDigit
  | '/' :: c :: _ => many && c != '/'
  | '%' :: c :: _ => c.isAlpha || c == '$' || c == '_' || c == '\x7b' || c == '+'
  | '&' :: c :: _ => c.isAlpha || c == '$' || c == '_' || c == '\x7b'
  | '*' :: c :: _ => many && c.isAlpha
  | '!' :: c :: _ => c != '=' && c != '~'
  | c :: _ =>
    if c.isAlpha || c == '_' then !isLink (rest.takeWhile isNamePart)
    else c.isDigit || "$@\"'\x60\\([\x7b+~!".toList.contains c

/-- The parts behind a comma. Every unit of fuel pays for one. -/
def commaParts (self : Self) : Nat → Reader (List Expr)
  | 0 => return []
  | fuel + 1 => do
    if (← accept "=>") then commaParts self fuel
    else if (← accept ",") then commaParts self fuel
    else
      skip
      if startsTerm (← get).rest true then
        let e ← self (.expr 6)
        skip
        let rest := (← get).rest
        if ",".toList.isPrefixOf rest || "=>".toList.isPrefixOf rest then return e :: (← commaParts self fuel)
        else return [e]
      else return []

/-- What is searched for behind the sign for that. -/
def bound (negated : Bool) (left right : Expr) : Expr :=
  let e := match right with
    | .match_ none pattern letters => .match_ (some left) pattern letters
    | .substitute none pattern replacement letters => .substitute (some left) pattern replacement letters
    | .translate none from_ to_ letters => .translate (some left) from_ to_ letters
    | right => .match_ (some left) [.value right] []
  if negated then .unary "!" e else e

/-- An operand with the operators behind it that bind at least so much. Every unit of fuel pays for one. -/
def climb (self : Self) (least : Nat) : Nat → Expr → Reader Expr
  | 0, e => return e
  | fuel + 1, e => do
    skip
    match operator? (← get).rest with
    | none => return e
    | some (op, rank) =>
      if rank < least then return e
      else if rank = 5 then
        let more ← commaParts self ((← get).rest.length + 1)
        climb self least fuel (.list (e :: more))
      else
        take op.length
        if op = "?" then
          let yes ← self (.expr 6)
          close ":"
          let no ← self (.expr 7)
          climb self least fuel (.choose e yes no)
        else if rank = 6 then
          let value ← self (.expr 6)
          let op := if op = "=" then none else some ((op.dropEnd 1).toString)
          climb self least fuel (.assign op e value)
        else if rank = 19 then
          let right ← self (.expr 20)
          climb self least fuel (bound (op = "!~") e right)
        else if rank = 8 then
          let high ← self (.expr 9)
          climb self least fuel (.range (← get).rest.length e high)
        else
          let right ← self (.expr (if rank = 21 then 20 else rank + 1))
          climb self least fuel (.binary op e right)

/-! ## Words with operands -/

/-- Words with one operand, or none. -/
def singleWords : List String :=
  ["defined", "ref", "scalar", "lc", "uc", "lcfirst", "ucfirst", "length", "chr", "ord", "int", "abs", "sqrt", "sin", "cos",
    "exp", "log", "hex", "oct", "chdir", "rmdir", "readline", "close", "quotemeta", "rand", "srand", "exit", "umask",
    "sleep", "localtime", "gmtime", "caller", "fc", "pos", "undef", "each", "keys", "values", "shift", "pop", "delete", "exists",
    "stat", "lstat", "readlink", "require", "fileno", "eof", "getc", "closedir", "readdir", "lock", "alarm", "chomp", "chop"]

/-- Words with any number of operands. -/
def manyWords : List String :=
  ["push", "unshift", "splice", "join", "split", "sprintf", "die", "warn", "open", "reverse", "unlink", "mkdir", "rename",
    "chmod", "system", "exec", "kill", "index", "rindex", "substr", "atan2", "binmode", "opendir", "select", "link",
    "symlink", "utime", "waitpid", "seek", "read", "bless", "pack", "unpack", "sysopen", "syswrite", "truncate", "printf"]

/-- Words without operands. -/
def loneWords : List String := ["time", "times", "wantarray", "wait", "__LINE__", "__FILE__", "__PACKAGE__"]

/-- Words in front of something that is done for each value of a list. -/
def throughWords : List String := ["map", "grep", "first", "any", "all", "none", "reduce"]

/-- The operand of a word, in parentheses or not, if there is one. -/
def operand? (self : Self) : Reader (Option Expr) := do
  skip
  let rest := (← get).rest
  if rest.head? = some '(' then
    take 1
    if ← accept ")" then return some (.list [])
    let e ← self (.expr 1)
    close ")"
    return some e
  else if startsTerm rest false then return some (← self (.expr 16))
  else return none

/-- All operands of a word, in parentheses or not. -/
def operands (self : Self) : Reader (List Expr) := do
  skip
  let rest := (← get).rest
  if rest.head? = some '(' then arguments self
  else if startsTerm rest true || "//".toList.isPrefixOf rest then
    match ← self (.expr 5) with
    | .list parts => return parts
    | e => return [e]
  else return []

/-- What is done for each value, and the list. -/
def throughTerm (self : Self) (kind : String) : Reader Expr := do
  let open_ ← accept "("
  skip
  let rest := (← get).rest
  let listOf (e : Expr) : List Expr := match e with
    | .list parts => parts
    | e => [e]
  let restOfList : Reader (List Expr) := do
    skip
    if startsTerm (← get).rest true then return listOf (← self (.expr 5)) else return []
  let e ← if rest.head? = some '\x7b' then do
      let body ← block self
      if ← accept "," then pure (.through kind (match body with
          | [.expr _ e] => .hashOf (listOf e)
          | body => .block body) (← restOfList))
      else pure (.through kind (.block body) (← restOfList))
    else do
      match ← self (.expr 5) with
      | .list (body :: more) => pure (.through kind body more)
      | body => pure (.through kind body [])
  if open_ then close ")"
  return e

/-- A list in an order that a block, a function or a variable tells. -/
def sortTerm (self : Self) : Reader Expr := do
  let open_ ← accept "("
  skip
  let r ← get
  let w ← word
  let order ← if r.rest.head? = some '\x7b' then do
      let body ← block self
      let _ ← accept ","
      pure (some (.block body))
    else if !w.isEmpty && r.functions.contains w then do
      take w.length
      pure (some (.call w [] true))
    else
      match r.rest with
      | '$' :: rest =>
        let name := rest.takeWhile isNamePart
        let behind := rest.drop name.length
        if !name.isEmpty && (behind.head?.map isBlank).getD false && startsTerm (behind.dropWhile isBlank) false then do
          take (name.length + 1)
          pure (some (.callBehind (.variable_ ⟨'$', name⟩) []))
        else pure none
      | _ => pure none
  skip
  let list ← if startsTerm (← get).rest true then do
      match ← self (.expr 5) with
      | .list parts => pure parts
      | e => pure [e]
    else pure []
  if open_ then close ")"
  return .sorted order list

/-- Where something is printed, if that is told in front of it. -/
def handle? (self : Self) : Reader (Option Expr) := do
  skip
  let r ← get
  match r.rest with
  | '\x7b' :: _ =>
    let body ← block self
    return some (.block body)
  | '$' :: rest =>
    let name := rest.takeWhile isNamePart
    let behind := rest.drop name.length
    let after := behind.dropWhile isBlank
    let starts := match after with
      | c :: _ => c == '"' || c == '\'' || c == '$' || c == '@' || c == '\\' || c == '<' && after.take 2 == ['<', '<']
          && (after.drop 2).head? != some ' '
          || ((c.isAlpha || c == '_') && !isLink (after.takeWhile isNamePart)) || c.isDigit
      | [] => false
    if !name.isEmpty && (behind.head?.map isBlank).getD false && starts then
      take (name.length + 1)
      let e := .variable_ ⟨'$', name⟩
      use_ e
      return some e
    else return none
  | _ =>
    let w ← word
    let behind := r.rest.drop w.length
    let after := behind.dropWhile isBlank
    let isStandard := ["STDOUT", "STDERR", "STDIN"].any (·.toList == w)
    let known := (singleWords ++ manyWords ++ loneWords ++ throughWords ++ ["sort", "my", "our", "local", "do", "eval", "sub", "q",
      "qq", "qw", "m", "s", "tr", "y", "qr", "not", "return", "if", "unless"]).any (·.toList == w)
    let ends := match after with
      | [] => true
      | c :: _ => c == ';' || c == '\x7d' || c == ')'
    if w.isEmpty || known || isLink w || r.functions.contains w then return none
    else if isStandard && (ends || startsTerm after true) || (!ends && after.head? != some '(' && behind.head? != some ':'
        && after.head? != some '-' && startsTerm after false) then
      take w.length
      return some (.text w)
    else return none

/-- Something printed. -/
def printTerm (self : Self) (kind : String) : Reader Expr := do
  let open_ ← accept "("
  let target ← handle? self
  skip
  let args ← if startsTerm (← get).rest true then do
      match ← self (.expr 5) with
      | .list parts => pure parts
      | e => pure [e]
    else pure []
  if open_ then close ")"
  return .print kind target args

/-- A variable without what follows it. -/
def declared : Reader Variable := do
  skip
  match (← get).rest with
  | sigil :: rest =>
    let name := qualified rest
    if (sigil = '$' ∨ sigil = '@' ∨ sigil = '%') ∧ !name.isEmpty then
      take (name.length + 1)
      return ⟨sigil, name⟩
    else unexpected
  | [] => unexpected

/-- Variables up to a parenthesis; those that are called `undef` have no name. Every unit of fuel pays for one. -/
def declaredList : Nat → Reader (List Variable)
  | 0 => unexpected
  | fuel + 1 => do
    if ← accept ")" then return []
    let v ← if ← acceptWord "undef" then pure ⟨'$', []⟩ else declared
    let _ ← accept ","
    return v :: (← declaredList fuel)

def declareTerm (scope : Scope) : Reader Expr := do
  let note (vars : List Variable) : Reader Unit := modify fun r => { r with declared := vars ++ r.declared }
  if ← accept "(" then
    let vars ← declaredList ((← get).rest.length + 1)
    note vars
    return .declare scope true vars
  else
    let v ← declared
    note [v]
    return .declare scope false [v]

/-! ## Quotes -/

/-- The letters behind a pattern. -/
def letters : Reader Letters := do
  let found := (← get).rest.takeWhile Char.isAlpha
  take found.length
  return found

/-- A pattern with names in it. -/
def patternOf (self : Self) (sign : Char) (body : List Char) (line : Nat) : Reader (List Piece) :=
  if sign = '\'' then return [.plain body] else filling self .pattern body line

/-- The second part of a quote with two of them. -/
def secondPart (sign : Char) : Reader (List Char) := do
  if closing sign = sign then
    let r ← get
    match quotedBody sign sign (r.rest.length + 1) 0 r.rest with
    | none => fault "Substitution replacement not terminated".toList
    | some (body, after) =>
      take (r.rest.length - after.length)
      return body
  else
    skip
    return (← quoted).2

/-- The characters that a text with ranges and escapes stands for. Every unit of fuel pays for a character. -/
def spreadOut : Nat → List Char → List Char
  | 0, _ => []
  | _ + 1, [] => []
  | fuel + 1, '\\' :: rest =>
    match rest with
    | '-' :: rest => '-' :: spreadOut fuel rest
    | rest =>
      let (out, left) := behindBackslash rest
      ranging fuel out left
  | fuel + 1, c :: rest => ranging fuel [c] rest
where
  /-- A character, or a range that it begins, and what follows. -/
  ranging (fuel : Nat) (out left : List Char) : List Char :=
    match out, left with
    | [low], '-' :: high :: rest =>
      let found : List Char × List Char := if high = '\\' then behindBackslash rest else ([high], rest)
      let high := found.1.headD low
      (List.range (high.toNat + 1 - low.toNat)).map (fun i => Char.ofNat (low.toNat + i)) ++ spreadOut fuel found.2
    | out, left => out ++ spreadOut fuel left

/-- The text of a document whose lines stand behind the line that is read. -/
def document (self : Self) : Reader Expr := do
  take 2
  let dented ← accept "~"
  let r ← get
  let (sign, name) ← match r.rest with
    | '"' :: _ => quoted
    | '\'' :: _ => quoted
    | rest =>
      let w := rest.takeWhile isNamePart
      take w.length
      pure ('"', w)
  let r ← get
  let front := r.rest.takeWhile (· != '\n')
  let lines := Text.lines ((r.rest.drop front.length).drop 1)
  let isEnd (line : List Char) : Bool := (if dented then line.dropWhile (fun c => c == ' ' || c == '\t') else line) == name
  let body := lines.takeWhile fun line => !isEnd line
  if body.length = lines.length then
    throw ⟨["Can't find string terminator ".toList ++ (if sign = '"' then ['"'] ++ name ++ ['"'] else ['\''] ++ name ++ ['\''])
      ++ " anywhere before EOF".toList ++ place r ++ ['.']]⟩
  let dent (line : List Char) : Nat := (line.takeWhile fun c => c == ' ' || c == '\t').length
  let least := ((body.filter fun line => line.any fun c => c != ' ' && c != '\t').map dent).min?.getD 0
  let kept := if dented then body.map (·.drop least) else body
  let text := (kept.map (· ++ ['\n'])).flatten
  let after := lines.drop (body.length + 1)
  set { r with rest := front ++ '\n' :: ['\n'].intercalate after, ahead := r.ahead + body.length + 1 }
  if sign = '\'' then return .text text else filled self text (r.line + 1)

/-- What stands between angles, if something can be read there. -/
def angled (self : Self) : Reader Expr := do
  let line := (← get).line
  let (_, body) ← quoted
  match body with
  | [] => return .line none
  | ['<', '>'] => return .line none
  | '$' :: name =>
    if name.all isNamePart then
      let e := .variable_ ⟨'$', name⟩
      use_ e
      return .line (some e)
    else return .names (← filling self .text body line)
  | name => if name.all isNamePart then return .line (some (.text name)) else return .names (← filling self .text body line)

/-! ## Numbers -/

/-- A number as a program spells it. -/
def numberTerm : Reader Expr := do
  let rest := (← get).rest
  let clean (s : List Char) : List Char := s.filter (· != '_')
  let based (base : Nat) (skipped : Nat) (isDigit : Char → Bool) : Reader Expr := do
    let digits := (rest.drop skipped).takeWhile fun c => isDigit c || c == '_'
    take (digits.length + skipped)
    return .whole (Expression.numberIn base (clean digits))
  match rest with
  | '0' :: 'x' :: _ => based 16 2 Expression.isHexDigit
  | '0' :: 'X' :: _ => based 16 2 Expression.isHexDigit
  | '0' :: 'b' :: _ => based 2 2 fun c => c == '0' || c == '1'
  | _ =>
    let isDigit (c : Char) : Bool := c.isDigit || c == '_'
    let whole := rest.takeWhile isDigit
    let behind := rest.drop whole.length
    if whole.length > 1 ∧ whole.head? = some '0' ∧ whole.all isDigit then based 8 1 Char.isDigit
    else
      let fraction := match behind with
        | '.' :: '.' :: _ => []
        | '.' :: more => '.' :: more.takeWhile isDigit
        | _ => []
      let behind := behind.drop fraction.length
      let power := match behind with
        | e :: more =>
          if e = 'e' ∨ e = 'E' then
            let (sign, digits) := match more with
              | '-' :: more => (['-'], more)
              | '+' :: more => (['+'], more)
              | more => ([], more)
            let digits := digits.takeWhile Char.isDigit
            if digits.isEmpty then [] else e :: sign ++ digits
          else []
        | [] => []
      take (whole.length + fraction.length + power.length)
      let n := Expression.numberIn 10 (clean whole)
      if fraction.isEmpty && power.isEmpty && n < 2 ^ 64 then return .whole n
      else return .real (Awk.numberFront (clean (whole ++ fraction ++ power))).1

/-! ## Operands -/

/-- A block that is a function. -/
def codeTerm (self : Self) : Reader Expr := do
  skip
  if (← get).rest.head? = some '(' then
    let _ ← quoted
    return .codeOf (← block self)
  else return .codeOf (← block self)

/-- An operand that begins with a word. -/
def wordTerm (self : Self) : Reader Expr := do
  let r ← get
  let w := r.rest.takeWhile isNamePart
  let behind := r.rest.drop w.length
  let after := (skipFrom (behind.length + 1) false 0 behind).2
  let line := r.line
  if "=>".toList.isPrefixOf after then
    take w.length
    return .text w
  let name := String.ofList w
  /- A quote follows, and not something that ends an operand. -/
  let quotes := match after with
    | c :: _ =>
      let near := behind.head? == some c
      c != ',' && c != ';' && c != ')' && (near || c != '=') && (near || c != '#') && !(isNamePart c && near) && !isBlank c
    | [] => false
  let word : Reader Unit := take w.length
  let quote : Reader (Char × List Char) := do
    take (r.rest.length - after.length)
    quoted
  if quotes && name = "q" then
    let (sign, body) ← quote
    let _ := sign
    return .text (singleQuoted body)
  else if quotes && name = "qq" then
    let (_, body) ← quote
    filled self body line
  else if quotes && name = "qw" then
    let (_, body) ← quote
    let list : Expr := .list ((Text.words isBlank body).map fun s => .text (singleQuoted s))
    if (← get).rest.head? = some '[' then return .picks list (← bracketed self) else return list
  else if quotes && name = "m" then
    let (sign, body) ← quote
    let pattern ← patternOf self sign body line
    return .match_ none pattern (← letters)
  else if quotes && name = "qr" then
    let (sign, body) ← quote
    let pattern ← patternOf self sign body line
    return .compiled pattern (← letters)
  else if quotes && name = "qx" then
    let (_, body) ← quote
    return .command (← filling self .text body line)
  else if quotes && name = "s" then
    let (sign, body) ← quote
    let line' := (← get).line
    let second ← secondPart sign
    let found ← letters
    let pattern ← patternOf self sign body line
    let replacement ← if found.contains 'e' then inside second line' (self .body)
      else if sign = '\'' then pure (.text second) else filled self second line'
    return .substitute none pattern replacement found
  else if quotes && (name = "tr" || name = "y") then
    let (sign, body) ← quote
    let second ← secondPart sign
    return .translate none (spreadOut (2 * body.length + 2) body) (spreadOut (2 * second.length + 2) second) (← letters)
  else
    match name with
    | "my" | "state" =>
      word
      declareTerm .my
    | "our" =>
      word
      declareTerm .our
    | "local" =>
      word
      return .localized (← self (.expr 20))
    | "do" =>
      word
      skip
      if (← get).rest.head? = some '\x7b' then return .block (← block self)
      else return .builtin "do" (← operands self)
    | "eval" =>
      word
      skip
      if (← get).rest.head? = some '\x7b' then return .trial (← block self)
      else return .builtin "eval" ((← operand? self).toList)
    | "sub" =>
      word
      codeTerm self
    | "print" | "printf" | "say" =>
      word
      printTerm self name
    | "sort" =>
      word
      sortTerm self
    | "return" =>
      word
      skip
      if startsTerm (← get).rest true then return .leave (some (← self (.expr 5))) else return .leave none
    | "next" | "last" | "redo" =>
      word
      let label ← Reader.word
      let isLabel := !label.isEmpty && !isLink label
      if isLabel then take label.length
      return .flow name (if isLabel then label else [])
    | "not" =>
      word
      return .unary "!" (← self (.expr 3))
    | "__END__" | "__DATA__" => unexpected
    | _ =>
      if throughWords.contains name && (["map", "grep"].contains name || r.functions.contains w) then
        word
        throughTerm self name
      else if r.functions.contains w then
        word
        let given := after.head? = some '('
        return .call w (← operands self) (given || true)
      else if loneWords.contains name then
        word
        if ← accept "(" then close ")"
        return .builtin name [.whole line]
      else if singleWords.contains name then
        word
        return .builtin name ((← operand? self).toList)
      else if manyWords.contains name then
        word
        return .builtin name (← operands self)
      else
        let whole := qualified r.rest
        take whole.length
        let r' ← get
        let after := (skipFrom (r'.rest.length + 1) false 0 r'.rest).2
        match after with
        | '(' :: _ => return .call whole (← arguments self) true
        | '-' :: '>' :: _ => return .text whole
        | ':' :: ':' :: _ =>
          take 2
          return .text whole
        | _ =>
          if r.strict && !whole.all (fun c => c.isUpper || c.isDigit || c == '_') then
            let what := "Bareword \"".toList ++ whole ++ "\" not allowed while \"strict subs\" in use".toList ++ place r ++ ['.']
            modify fun r => { r with undeclared := r.undeclared ++ [what] }
          return .call whole [] false

/-- The letters of tests on files. -/
def fileTests : List Char := "edfrwxszlpSbcugkoROWXMAC".toList

/-- One operand with what follows it. -/
def term (self : Self) : Reader Expr := do
  skip
  let r ← get
  let fuel := r.rest.length + 1
  let chain (e : Expr) : Reader Expr := suffixes self .program fuel false e
  match r.rest with
  | [] => unexpected
  | '$' :: '#' :: c :: _ =>
    if c = '\x7b' ∨ c = '$' ∨ c.isAlpha ∨ c = '_' then lastTerm self
    else
      take 2
      return .variable_ ⟨'$', ['#']⟩
  | '$' :: _ =>
    take 1
    scalarTerm self .program
  | '@' :: _ =>
    take 1
    arrayTerm self .program
  | '%' :: _ =>
    take 1
    let e ← named self '%' fuel
    use_ e
    return e
  | '&' :: '$' :: _ =>
    take 1
    let e ← named self '&' fuel
    match e with
    | .behind _ e => return .callBehind e (← if (← get).rest.head? = some '(' then arguments self else pure [])
    | e => return e
  | '&' :: '\x7b' :: _ =>
    take 1
    let body ← block self
    return .callBehind (.block body) (← if (← get).rest.head? = some '(' then arguments self else pure [])
  | '&' :: _ =>
    take 1
    let w := qualified (← get).rest
    if w.isEmpty then unexpected
    take w.length
    skip
    if (← get).rest.head? = some '(' then return .call w (← arguments self) true
    else return .call w [.variable_ ⟨'@', ['_']⟩] true
  | '"' :: _ =>
    let (_, body) ← quoted
    filled self body r.line
  | '\'' :: _ =>
    let (_, body) ← quoted
    return .text (singleQuoted body)
  | '\x60' :: _ =>
    let (_, body) ← quoted
    return .command (← filling self .text body r.line)
  | '/' :: _ =>
    let (sign, body) ← quoted
    let pattern ← patternOf self sign body r.line
    return .match_ none pattern (← letters)
  | '<' :: '<' :: c :: _ =>
    if c = '"' ∨ c = '\'' ∨ c = '~' ∨ c.isAlpha ∨ c = '_' then document self
    else angled self
  | '<' :: _ => angled self
  | '(' :: _ =>
    take 1
    let e ← if ← accept ")" then pure (.list []) else do
      let e ← self (.expr 1)
      close ")"
      pure (match e with
        | .list parts => .list parts
        | e => .list [e])
    if (← get).rest.head? = some '[' then return .picks e (← bracketed self)
    else
      skip
      if "->".toList.isPrefixOf (← get).rest then
        match e with
        | .list [inner] => suffixes self .program fuel false inner
        | e => chain e
      else return e
  | '[' :: _ =>
    take 1
    modify fun r => { r with braces := r.braces + 1 }
    skip
    let parts ← if ← accept "]" then pure [] else do
      let e ← self (.expr 1)
      close "]"
      pure (match e with
        | .list parts => parts
        | e => [e])
    modify fun r => { r with braces := r.braces - 1 }
    chain (.arrayOf parts)
  | '\x7b' :: _ =>
    take 1
    modify fun r => { r with braces := r.braces + 1 }
    skip
    let parts ← if ← accept "\x7d" then pure [] else do
      let e ← self (.expr 1)
      close "\x7d"
      pure (match e with
        | .list parts => parts
        | e => [e])
    modify fun r => { r with braces := r.braces - 1 }
    chain (.hashOf parts)
  | '\\' :: _ =>
    take 1
    return .referTo (← self (.expr 20))
  | '-' :: '-' :: _ =>
    take 2
    return .step false false (← self (.expr 22))
  | '+' :: '+' :: _ =>
    take 2
    return .step false true (← self (.expr 22))
  | '-' :: c :: rest =>
    let w := (c :: rest).takeWhile isNamePart
    let after := rest.dropWhile isBlank
    let isTest := w.length = 1 ∧ fileTests.contains c ∧ !"=>".toList.isPrefixOf after ∧ after.head? ≠ some ','
      ∧ after.head? ≠ some '='
    if isTest then
      take 2
      match ← operand? self with
      | some e => return .fileTest c e
      | none => return .fileTest c (.variable_ ⟨'$', ['_']⟩)
    else
      take 1
      return .unary "-" (← self (.expr 20))
  | '+' :: _ =>
    take 1
    self (.expr 20)
  | '!' :: _ =>
    take 1
    return .unary "!" (← self (.expr 20))
  | '~' :: _ =>
    take 1
    return .unary "~" (← self (.expr 20))
  | '*' :: c :: rest =>
    if c.isAlpha then
      let name := qualified (c :: rest)
      take (name.length + 1)
      return .text name
    else unexpected
  | '.' :: c :: _ => if c.isDigit then numberTerm else unexpected
  | c :: _ =>
    if c.isDigit then numberTerm
    else if c.isAlpha ∨ c = '_' then
      let e ← wordTerm self
      match e with
      | .text _ => chain e
      | .builtin .. => chain e
      | .call _ _ true => chain e
      | e => return e
    else unexpected

/-- An operand with steps up or down behind it. -/
def stepped (self : Self) : Reader Expr := do
  let e ← term self
  if "++".toList.isPrefixOf (← get).rest then
    take 2
    return .step true true e
  else if "--".toList.isPrefixOf (← get).rest then
    take 2
    return .step true false e
  else
    skip
    match (← get).rest with
    | '+' :: '+' :: rest =>
      if startsTerm (rest.dropWhile isBlank) false then return e
      else
        take 2
        return .step true true e
    | _ => return e

/-! ## Statements -/

/-- The label of a loop in front, which is used up. -/
def label : Reader (List Char) := do
  let w ← word
  let rest := ((← get).rest.drop w.length).dropWhile isBlank
  match rest with
  | ':' :: c :: _ =>
    if !w.isEmpty && w.all (fun c => c.isUpper || c.isDigit || c == '_') && c != ':' then
      take w.length
      expect ":"
      skip
      return w
    else return []
  | _ => return []

/-- A test between parentheses. -/
def tested (self : Self) : Reader Expr := do
  expect "("
  let e ← self (.expr 1)
  close ")"
  return e

def negatedIf (negated : Bool) (e : Expr) : Expr := if negated then .unary "!" e else e

/-- What follows the body of a statement with tests. Every unit of fuel pays for a branch. -/
def branches (self : Self) : Nat → Reader (List (Expr × List Statement) × List Statement)
  | 0 => return ([], [])
  | fuel + 1 => do
    if ← acceptWord "elsif" then
      let test ← tested self
      let body ← block self
      let (more, otherwise) ← branches self fuel
      return ((test, body) :: more, otherwise)
    else if ← acceptWord "else" then return ([], ← block self)
    else return ([], [])

/-- An optional expression in front of a sign. -/
def upTo (self : Self) (sign : String) : Reader (Option Expr) := do
  if ← accept sign then return none
  let e ← self (.expr 1)
  close sign
  return some e

/-- A loop over a list, or one with a start, a test and a step. -/
def forStatement (self : Self) (line : Nat) (label : List Char) : Reader Statement := do
  let outside := (← get).declared
  let done (s : Statement) : Reader Statement := do
    modify fun r => { r with declared := outside }
    return s
  let listOf : Reader Expr := do
    expect "("
    if ← accept ")" then return .list []
    let e ← self (.expr 1)
    close ")"
    return e
  skip
  if (← acceptWord "my") || (← acceptWord "our") then
    let v ← declared
    let list ← listOf
    modify fun r => { r with declared := v :: r.declared }
    done (.each line label true v list (← block self))
  else if (← get).rest.head? = some '$' then
    let v ← declared
    use_ (.variable_ v)
    let list ← listOf
    done (.each line label false v list (← block self))
  else
    expect "("
    let first ← if ← accept ";" then pure none else do
      if ← accept ")" then return (← done (.each line label false ⟨'$', ['_']⟩ (.list []) (← block self)))
      let e ← self (.expr 1)
      if ← accept ")" then return (← done (.each line label false ⟨'$', ['_']⟩ e (← block self)))
      close ";"
      pure (some e)
    let test ← upTo self ";"
    let next ← upTo self ")"
    done (.for_ line label first test next (← block self))

/-- The words of a list in which strings and lists of words stand. -/
def wordsOf : Expr → List (List Char)
  | .text s => [s]
  | .list parts => parts.flatMap fun e => match e with
    | .text s => [s]
    | .list more => more.filterMap fun e => match e with
      | .text s => some s
      | _ => none
    | _ => []
  | _ => []

/-- Names that come with modules. -/
def moduleNames : List String :=
  ["sum", "sum0", "product", "max", "min", "maxstr", "minstr", "uniq", "first", "any", "all", "none", "reduce", "floor", "ceil",
    "fmod", "pow", "strftime", "looks_like_number", "basename", "dirname", "shuffle", "blessed", "reftype", "isatty",
    "encode_base64", "decode_base64", "usleep"]

def useStatement (self : Self) (line : Nat) : Reader Statement := do
  skip
  let w := qualified (← get).rest
  let isVersion := (w.head?.map Char.isDigit).getD false || (w.head? = some 'v' && (w.drop 1).all Char.isDigit && w.length > 1)
  if isVersion then
    take ((← get).rest.takeWhile fun c => isNamePart c || c == '.').length
    let _ ← accept ";"
    modify fun r => { r with functions := "say".toList :: r.functions }
    return .use line w []
  else
    take w.length
    skip
    let e ← if startsTerm (← get).rest true then self (.expr 5) else pure (.list [])
    let names := wordsOf e
    let _ ← accept ";"
    if w = "strict".toList then modify fun r => { r with strict := true }
    else if w = "vars".toList then
      modify fun r => { r with declared := names.filterMap (fun s => match s with
        | c :: name => some ⟨c, name⟩
        | [] => none) ++ r.declared }
    else if w = "POSIX".toList ∨ w = "MIME::Base64".toList ∨ w = "File::Basename".toList then
      modify fun r => { r with functions := moduleNames.map String.toList ++ r.functions }
    else modify fun r => { r with functions := names.filter (fun s => moduleNames.any (·.toList == s)) ++ r.functions }
    return .use line w names

/-- What ends a statement: a semicolon, or something that ends all of them. -/
def ending : Reader Unit := do
  if !(← accept ";") then
    match (← get).rest.head? with
    | none | some '\x7d' => return
    | some _ => unexpected

/-- What stands behind a brace is a key with an arrow behind it, and not a statement. -/
def opensTable (rest : List Char) : Bool :=
  let body := rest.dropWhile isBlank
  let after := match body with
    | '$' :: more => more.dropWhile isNamePart
    | '"' :: more => (more.dropWhile (· != '"')).drop 1
    | '\'' :: more => (more.dropWhile (· != '\'')).drop 1
    | more => more.dropWhile isNamePart
  after.length < body.length && "=>".toList.isPrefixOf (after.dropWhile isBlank)

/-- One statement, if there is one in front. -/
def statement? (self : Self) : Reader (Option Statement) := do
  skip
  let r ← get
  let line := r.line
  match r.rest with
  | [] => return none
  | '\x7d' :: _ => return none
  | ';' :: _ =>
    take 1
    return some (.block [] [])
  | '\x7b' :: rest =>
    if opensTable rest then
      let e ← self (.expr 1)
      let _ ← accept ";"
      return some (.expr line e)
    else return some (.block [] (← block self))
  | _ =>
    let label ← label
    let w := String.ofList (← word)
    let after := (((← get).rest.drop w.length).dropWhile isBlank)
    let plain := !"=>".toList.isPrefixOf after
    let isWord (words : List String) : Bool := words.contains w && plain
    if isWord ["__END__", "__DATA__"] then
      modify fun r => { r with rest := [] }
      return none
    else if isWord ["if", "unless"] then
      take w.length
      let outside := (← get).declared
      let test ← tested self
      let body ← block self
      let (more, otherwise) ← branches self ((← get).rest.length + 1)
      modify fun r => { r with declared := outside }
      return some (.if_ line ((negatedIf (w == "unless") test, body) :: more) otherwise)
    else if isWord ["while", "until"] then
      take w.length
      let outside := (← get).declared
      expect "("
      let test ← upTo self ")"
      let body ← block self
      let after ← if ← acceptWord "continue" then block self else pure []
      modify fun r => { r with declared := outside }
      return some (.while_ line label (w == "until") test body after)
    else if isWord ["for", "foreach"] then
      take w.length
      return some (← forStatement self line label)
    else if (← get).rest.head? = some '\x7b' then return some (.block label (← block self))
    else if isWord ["sub"] && (after.head?.map fun c => c.isAlpha || c == '_').getD false then
      take w.length
      skip
      let name := qualified (← get).rest
      take name.length
      modify fun r => { r with functions := name :: r.functions }
      match ← codeTerm self with
      | .codeOf body => return some (.function name body)
      | _ => return none
    else if isWord ["use"] then
      take w.length
      return some (← useStatement self line)
    else if isWord ["no"] then
      take w.length
      skip
      let name := qualified (← get).rest
      modify fun r => { r with rest := r.rest.dropWhile fun c => c != ';' && c != '\x7d' }
      if name = "strict".toList then modify fun r => { r with strict := false }
      ending
      return some (.block [] [])
    else if isWord ["package"] then
      modify fun r => { r with rest := r.rest.dropWhile fun c => c != ';' && c != '\x7d' }
      ending
      return some (.block [] [])
    else if isWord ["BEGIN", "INIT", "CHECK", "UNITCHECK"] && after.head? == some '\x7b' then
      take w.length
      return some (.atEdge true (← block self))
    else if isWord ["END"] && after.head? == some '\x7b' then
      take w.length
      return some (.atEdge false (← block self))
    else
      let e ← self (.expr 1)
      let modifier := String.ofList (← word)
      if modifiers.contains modifier then
        take modifier.length
        let test ← self (.expr 1)
        ending
        match modifier with
        | "if" => return some (.if_ line [(test, [.expr line e])] [])
        | "unless" => return some (.if_ line [(.unary "!" test, [.expr line e])] [])
        | "while" | "until" =>
          match e with
          | .block body => return some (.repeat_ line (modifier == "until") body test)
          | e => return some (.while_ line [] (modifier == "until") (some test) [.expr line e] [])
        | _ => return some (.each line [] false ⟨'$', ['_']⟩ test [.expr line e])
      else
        ending
        return some (.expr line e)

/-- Statements up to a brace or the end. Every unit of fuel pays for one. -/
def statements (self : Self) : Nat → Reader (List Statement)
  | 0 => return []
  | fuel + 1 => do
    match ← statement? self with
    | none => return []
    | some (.block [] []) => statements self fuel
    | some s => return s :: (← statements self fuel)

/-- What is asked for. Every unit of fuel pays for one thing around. -/
def goalFrom : Nat → Self
  | 0, _ => unexpected
  | fuel + 1, .expr least => do
    let e ← stepped (goalFrom fuel)
    climb (goalFrom fuel) least ((← get).rest.length + 1) e
  | fuel + 1, .body => return .block (← statements (goalFrom fuel) ((← get).rest.length + 1))

/-- How a program is to be read. -/
structure Manner where
  /-- The name of the program. -/
  file : List Char
  firstLine : Nat
  functions : List (List Char)
  strict : Bool
  declared : List Variable

/-- The statements of a program. -/
def readProgram (manner : Manner) (text : List Char) : Except ProgramFault (List Statement) := do
  let text := (Text.dropBack? ['\n'] text).getD text
  let start : Reading :=
    { rest := text, line := manner.firstLine, last := text, file := manner.file, functions := manner.functions
      strict := manner.strict, declared := manner.declared, undeclared := [], braces := 0, ahead := 0 }
  let whole : Reader (List Statement) := do
    let e ← goalFrom (text.length + 8) .body
    skip
    if !(← get).rest.isEmpty then unexpected
    return statementsOf e
  let (body, r) ← whole start
  if r.undeclared.isEmpty then return body else .error ⟨r.undeclared ++ [aborted r]⟩

end DiagramStudio.Script.Perl
