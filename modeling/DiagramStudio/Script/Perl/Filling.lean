import DiagramStudio.Script.Perl.Reading

/-!
Reading names with signs in front of them, what follows them, and texts into which they are put.
-/

namespace DiagramStudio.Script.Perl

/-- What is to be read next: an expression whose operators bind at least so much, or statements up to a brace. -/
inductive Goal where
  | expr (least : Nat)
  | body
deriving Repr, DecidableEq, Inhabited

/-- What reads what stands within something. Statements are found as a block. -/
abbrev Self := Goal → Reader Expr

namespace Reader

/-! ## Braces -/

def statementsOf : Expr → List Statement
  | .block body => body
  | _ => []

/-- Statements between braces. What they declare is forgotten behind them. -/
def block (self : Self) : Reader (List Statement) := do
  expect "\x7b"
  let before := (← get).declared
  modify fun r => { r with braces := r.braces + 1 }
  let e ← self .body
  if !(← accept "\x7d") then unexpected
  modify fun r => { r with braces := r.braces - 1, declared := before }
  return statementsOf e

def isBlank (c : Char) : Bool := c == ' ' || c == '\t' || c == '\n'

/-- What closes brackets. -/
def close (bracket : String) : Reader Unit := do
  if !(← accept bracket) then unexpected

/-- A key up to the brace behind it: a single word stands for itself. -/
def key (self : Self) : Reader Expr := do
  skip
  let rest := (← get).rest
  let sign := rest.takeWhile (· == '-')
  let body := rest.drop sign.length
  let w := body.takeWhile isNamePart
  let behind := (body.drop w.length).dropWhile isBlank
  let starts := (w.head?.map fun c => c.isAlpha || c == '_').getD false
  if starts && sign.length < 2 && behind.head? == some '\x7d' then
    take (rest.length - behind.length + 1)
    return .text (sign ++ w)
  else
    let e ← self (.expr 1)
    close "\x7d"
    return e

/-- A key between braces in front. -/
def braced (self : Self) : Reader Expr := do
  take 1
  modify fun r => { r with braces := r.braces + 1 }
  let e ← key self
  modify fun r => { r with braces := r.braces - 1 }
  return e

/-- An index between brackets in front. -/
def bracketed (self : Self) : Reader Expr := do
  take 1
  modify fun r => { r with braces := r.braces + 1 }
  let e ← self (.expr 1)
  close "]"
  modify fun r => { r with braces := r.braces - 1 }
  return e

/-! ## Names -/

/-- Signs that are the names of variables. -/
def isSpecial (c : Char) : Bool := "&\x60'+!@/\\,;.?<>()[]|\"-:".toList.contains c

/-- Names that need not be declared. -/
def isKnown (name : List Char) : Bool :=
  ["_", "a", "b", "ENV", "ARGV", "STDIN", "STDOUT", "STDERR", "INC", "0", "F"].any (·.toList == name)
    || !(name.head?.map Char.isAlpha).getD false || name.contains ':'

/-- A name is used. -/
def used (v : Variable) : Reader Unit := do
  let r ← get
  if r.strict && !isKnown v.name && !r.declared.contains v then
    let whole := v.sigil :: v.name
    let what := "Global symbol \"".toList ++ whole
      ++ "\" requires explicit package name (did you forget to declare \"my ".toList ++ whole ++ "\"?)".toList
      ++ place r ++ ['.']
    set { r with undeclared := r.undeclared ++ [what] }

/-- What stands behind a sign: a name, or something that leads there. Every unit of fuel pays for a sign. -/
def named (self : Self) (sigil : Char) : Nat → Reader Expr
  | 0 => unexpected
  | fuel + 1 => do
    let r ← get
    let variable_ (name : List Char) : Expr :=
      .variable_ ⟨sigil, (Text.dropFront? "main::".toList name).getD name⟩
    match r.rest with
    | '\x7b' :: more =>
      let inner := more.dropWhile isBlank
      let inner := if inner.head? = some '^' then inner.drop 1 else inner
      let name := qualified inner
      let behind := (inner.drop name.length).dropWhile isBlank
      if !name.isEmpty && behind.head? == some '\x7d' then
        take (r.rest.length - behind.length + 1)
        return variable_ name
      else
        let body ← block self
        return .behind sigil (.block body)
    | '$' :: c :: _ =>
      if isNamePart c || c == '$' || c == '\x7b' then
        take 1
        let inner ← named self '$' fuel
        match inner with
        | .variable_ v => used v
        | _ => pure ()
        return .behind sigil inner
      else
        take 1
        return variable_ ['$']
    | ['$'] =>
      take 1
      return variable_ ['$']
    | '^' :: c :: _ =>
      take 2
      return variable_ ['^', c]
    | ':' :: ':' :: rest =>
      let name := qualified rest
      take (name.length + 2)
      return variable_ name
    | c :: _ =>
      let name := if c.isDigit then r.rest.takeWhile Char.isDigit else qualified r.rest
      if name.isEmpty then
        take 1
        return variable_ [c]
      else
        take name.length
        return variable_ name
    | [] => unexpected

/-- What holds the parts of what is written with a sign in front. -/
def container (sigil : Char) : Expr → Expr
  | .variable_ v => .variable_ { v with sigil }
  | .behind _ e => .behind sigil e
  | e => .behind sigil e

def use_ (e : Expr) : Reader Unit := do
  match e with
  | .variable_ v => used v
  | _ => return

/-- Where something stands: in the program, in a text, or in a pattern. -/
inductive Site where
  | program
  | text
  | pattern
deriving Repr, DecidableEq, Inhabited

/-- Brackets behind a name hold an index; in a pattern they may hold characters. -/
def opensIndex (site : Site) (rest : List Char) : Bool :=
  match rest with
  | '[' :: more =>
    if site != .pattern then
      site == .program || !(more.head?.map fun c => isBlank c || c == ']' || c == '^').getD true
    else
      let inner := more.takeWhile (· != ']')
      let digits := (Text.dropFront? ['-'] inner).getD inner
      let name := inner.drop 1
      !digits.isEmpty && (digits.all Char.isDigit || (inner.head? == some '$' && !name.isEmpty && name.all isNamePart))
  | _ => false

/-- Braces behind a name hold a key; in a pattern they may hold numbers. -/
def opensKey (site : Site) (rest : List Char) : Bool :=
  match rest with
  | '\x7b' :: more => site != .pattern || !(more.head?.map fun c => c.isDigit || c == ',').getD true
  | _ => false

/-- The values of a call between parentheses in front. -/
def arguments (self : Self) : Reader (List Expr) := do
  expect "("
  if ← accept ")" then return []
  let e ← self (.expr 1)
  close ")"
  match e with
  | .list parts => return parts
  | e => return [e]

/-- What follows something that leads on. `chained` says that arrows can be left out. Every unit of fuel pays for
    one step. -/
def suffixes (self : Self) (site : Site) : Nat → (chained : Bool) → Expr → Reader Expr
  | 0, _, e => return e
  | fuel + 1, chained, e => do
    let rest := (← get).rest
    let body := if site = .program then (skipFrom (rest.length + 1) false 0 rest).2 else rest
    match body with
    | '-' :: '>' :: more =>
      let inner := if site = .program then (skipFrom (more.length + 1) false 0 more).2 else more
      let arrow : Reader Unit := take (rest.length - inner.length)
      match inner with
      | '[' :: _ =>
        if site != .program && !opensIndex site inner then return e
        arrow
        let i ← bracketed self
        suffixes self site fuel true (.item (.behind '@' e) i)
      | '\x7b' :: _ =>
        if !opensKey site inner then return e
        arrow
        let k ← braced self
        suffixes self site fuel true (.entry (.behind '%' e) k)
      | '(' :: _ =>
        if site != .program then return e
        arrow
        let args ← arguments self
        suffixes self site fuel true (.callBehind e args)
      | '@' :: '*' :: _ =>
        take (rest.length - inner.length + 2)
        return .behind '@' e
      | '%' :: '*' :: _ =>
        take (rest.length - inner.length + 2)
        return .behind '%' e
      | '$' :: '*' :: _ =>
        take (rest.length - inner.length + 2)
        suffixes self site fuel true (.behind '$' e)
      | c :: _ =>
        if site = .program ∧ (c.isAlpha ∨ c = '_') then
          let name := qualified inner
          take (rest.length - inner.length + name.length)
          let args ← if (← get).rest.head? = some '(' then arguments self else pure []
          suffixes self site fuel true (.method e name args)
        else return e
      | [] => return e
    | _ =>
      if chained && opensIndex site rest then
        let i ← bracketed self
        suffixes self site fuel true (.item (.behind '@' e) i)
      else if chained && opensKey site rest then
        let k ← braced self
        suffixes self site fuel true (.entry (.behind '%' e) k)
      else if chained && site = .program && rest.head? == some '(' then
        let args ← arguments self
        suffixes self site fuel true (.callBehind e args)
      else return e

/-- Something with a dollar in front, which has been used up. -/
def scalarTerm (self : Self) (site : Site) : Reader Expr := do
  let fuel := (← get).rest.length + 1
  let e ← named self '$' fuel
  let rest := (← get).rest
  let isText (name : List Char) : Bool := site == .text && (name.head?.map isSpecial).getD false &&
    !(name == ['+'] && rest.head? == some '\x7b')
  let closed := match e with
    | .variable_ v => isText v.name
    | _ => false
  if !closed && opensIndex site rest then
    let all := container '@' e
    use_ all
    let i ← bracketed self
    suffixes self site fuel true (.item all i)
  else if !closed && opensKey site rest then
    let all := container '%' e
    use_ all
    let k ← braced self
    suffixes self site fuel true (.entry all k)
  else
    use_ e
    suffixes self site fuel false e

/-- The place of the last item of an array, with the signs for that in front. -/
def lastTerm (self : Self) : Reader Expr := do
  take 2
  match ← named self '@' ((← get).rest.length + 1) with
  | .behind _ e => return .lastOf (.behind '@' e)
  | e =>
    use_ e
    return .lastOf e

/-- Something with an at sign in front, which has been used up. -/
def arrayTerm (self : Self) (site : Site) : Reader Expr := do
  let fuel := (← get).rest.length + 1
  let e ← named self '@' fuel
  let rest := (← get).rest
  if opensIndex site rest then
    use_ e
    return .items e (← bracketed self)
  else if opensKey site rest then
    let all := container '%' e
    use_ all
    return .entries all (← braced self)
  else
    use_ e
    return e

/-! ## Texts -/

def hexDigits (s : List Char) : List Char := s.takeWhile Expression.isHexDigit

/-- What a backslash and what follows it stand for, and what comes behind them. -/
def behindBackslash : List Char → List Char × List Char
  | [] => (['\\'], [])
  | 'n' :: rest => (['\n'], rest)
  | 't' :: rest => (['\t'], rest)
  | 'r' :: rest => (['\r'], rest)
  | 'a' :: rest => (['\x07'], rest)
  | 'b' :: rest => (['\x08'], rest)
  | 'e' :: rest => (['\x1b'], rest)
  | 'f' :: rest => (['\x0c'], rest)
  | 'x' :: '\x7b' :: rest =>
    let inner := rest.takeWhile (· != '\x7d')
    ([Char.ofNat (Expression.numberIn 16 (hexDigits (inner.dropWhile (· == ' '))))], rest.drop (inner.length + 1))
  | 'x' :: rest =>
    let digits := (rest.take 2).takeWhile Expression.isHexDigit
    ([Char.ofNat (Expression.numberIn 16 digits)], rest.drop digits.length)
  | 'N' :: '\x7b' :: 'U' :: '+' :: rest =>
    let inner := rest.takeWhile (· != '\x7d')
    ([Char.ofNat (Expression.numberIn 16 (hexDigits inner))], rest.drop (inner.length + 1))
  | 'c' :: c :: rest => ([Char.ofNat (c.toUpper.toNat ^^^ 64)], rest)
  | c :: rest =>
    if '0' ≤ c ∧ c ≤ '7' then
      let digits := ((c :: rest).take 3).takeWhile fun d => '0' ≤ d && d ≤ '7'
      ([Char.ofNat (Expression.numberIn 8 digits)], (c :: rest).drop digits.length)
    else ([c], rest)

/-- The letters behind backslashes that change what follows. -/
def isMark (c : Char) : Bool := "ULQEul".toList.contains c

/-- A name may follow the dollar at a place in a text. -/
def startsName (site : Site) (rest : List Char) : Bool :=
  match rest with
  | [] => false
  | '$' :: rest => site == .text || (rest.head?.map fun c => isNamePart c || c == '\x7b').getD false
  | c :: _ =>
    isNamePart c || c == '\x7b' || c == '&' || (site == .text && "\x60'+!@/\\,;.0?|".toList.contains c)

/-- What stands in a text with names in it, up to its end. `plain` is what has been read and holds none, from its
    end on. Every unit of fuel pays for a character. -/
def fillingFrom (self : Self) (site : Site) : Nat → (plain : List Char) → Reader (List Piece)
  | 0, plain => return [.plain plain.reverse]
  | fuel + 1, plain => do
    let done (more : List Piece) : List Piece := if plain.isEmpty then more else .plain plain.reverse :: more
    match (← get).rest with
    | [] => return done []
    | '\\' :: c :: rest =>
      if isMark c then
        take 2
        return done (.mark c :: (← fillingFrom self site fuel []))
      else if site = .pattern then
        take 2
        fillingFrom self site fuel (c :: '\\' :: plain)
      else
        let (out, left) := behindBackslash (c :: rest)
        take (rest.length + 2 - left.length)
        fillingFrom self site fuel (out.reverse ++ plain)
    | '$' :: rest =>
      let asksLast : Bool := match rest with
        | '#' :: c :: _ => site == .text && (c == '\x7b' || c == '$' || c.isAlpha || c == '_')
        | _ => false
      if asksLast then
        let e ← lastTerm self
        return done (.value e :: (← fillingFrom self site fuel []))
      else if startsName site rest then
        take 1
        let e ← scalarTerm self site
        return done (.value e :: (← fillingFrom self site fuel []))
      else
        take 1
        fillingFrom self site fuel ('$' :: plain)
    | '@' :: rest =>
      let opens := match rest with
        | '$' :: c :: _ => isNamePart c || c == '\x7b'
        | c :: _ => c.isAlpha || c == '_' || c == '\x7b'
        | [] => false
      if opens then
        take 1
        let e ← arrayTerm self site
        return done (.values e :: (← fillingFrom self site fuel []))
      else
        take 1
        fillingFrom self site fuel ('@' :: plain)
    | c :: _ =>
      take 1
      fillingFrom self site fuel (c :: plain)

/-- Something read from a text of its own. -/
def inside {α : Type} (body : List Char) (line : Nat) (act : Reader α) : Reader α := do
  let r ← get
  set { r with rest := body, line }
  let found ← act
  modify fun s => { s with rest := r.rest, line := r.line, last := r.last }
  return found

def filling (self : Self) (site : Site) (body : List Char) (line : Nat) : Reader (List Piece) :=
  inside body line (fillingFrom self site (body.length + 1) [])

/-- A text with names in it as an expression. -/
def filled (self : Self) (body : List Char) (line : Nat) : Reader Expr := do
  match ← filling self .text body line with
  | [] => return .text []
  | [.plain s] => return .text s
  | parts => return .filled parts

end Reader

end DiagramStudio.Script.Perl
