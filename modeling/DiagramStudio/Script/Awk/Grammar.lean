import DiagramStudio.Script.Awk.Token

/-!
Reading programs that go through lines from their tokens.
-/

namespace DiagramStudio.Script.Awk

/-- What is still to be read, and what is open around it. -/
structure Reading where
  rest : List (Token × Nat)
  /-- The line of the last token. -/
  line : Nat
  parens : Nat
  braces : Nat
  loops : Nat
  inFunction : Bool
  /-- Records can be gone on to. -/
  inRule : Bool
  /-- The functions that are called, with how many values and in which line. -/
  called : List (List Char × Nat × Nat)
  /-- The names that are used as tables, or as variables with one value; those of parameters count for nothing. -/
  kinds : List (List Char × Bool)
  params : List (List Char)

abbrev Reader := StateT Reading (Except ProgramFault)

namespace Reader

/-- The next token. -/
def peek : Reader (Option Token) := return (((← get).rest.head?).map (·.1))

def nextIs (m : String) : Reader Bool := do
  match ← peek with
  | some (.mark s) => return s == m
  | _ => return false

def nextIsWord (w : String) : Reader Bool := do
  match ← peek with
  | some (.word s) => return s == w
  | _ => return false

/-- The next token is used up. -/
def advance : Reader Unit := modify fun r =>
  match r.rest with
  | [] => r
  | (t, line) :: rest =>
    let r := { r with rest, line }
    match t with
    | .mark "(" => { r with parens := r.parens + 1 }
    | .mark ")" => { r with parens := r.parens - 1 }
    | .mark "\x7b" => { r with braces := r.braces + 1 }
    | .mark "\x7d" => { r with braces := r.braces - 1 }
    | _ => r

/-- A complaint at the place that has been reached. -/
def complain {α : Type} (what : List Char) : Reader α := do
  let r ← get
  throw ⟨((r.rest.head?).map (·.2)).getD r.line, false, what⟩

/-- A name is used as a table, or as a variable with one value. -/
def uses (isTable : Bool) (name : List Char) : Reader Unit := do
  let r ← get
  if r.params.contains name then return
  match entryFor? name r.kinds with
  | none => set { r with kinds := (name, isTable) :: r.kinds }
  | some known =>
    if known != isTable then
      complain ((if known then "illegal reference to array " else "illegal reference to variable ").toList ++ name)

/-- The next token cannot stand where it does. -/
def unexpected {α : Type} : Reader α := do
  let r ← get
  match r.rest with
  | [] =>
    let what := if 0 < r.braces then "missing \x7d near end of file" else "syntax error at or near end of file"
    throw ⟨r.line + 1, false, what.toList⟩
  | (t, line) :: _ =>
    let open_ := 0 < r.parens && (match t with
      | .mark "\x7d" | .mark ";" | .newline => true
      | _ => false)
    if open_ then throw ⟨line, false, "missing ) near ".toList ++ t.shown⟩
    else
      match t with
      | .mark "\x7d" =>
        if r.braces = 0 then throw ⟨line, false, "extra '\x7d'".toList⟩
        else throw ⟨line, false, "syntax error at or near ".toList ++ t.shown⟩
      | _ => throw ⟨line, false, "syntax error at or near ".toList ++ t.shown⟩

def expect (m : String) : Reader Unit := do
  if ← nextIs m then advance else unexpected

/-- Line ends are left out. Every unit of fuel pays for one. -/
def skipLines : Nat → Reader Unit
  | 0 => return
  | fuel + 1 => do
    match ← peek with
    | some .newline =>
      advance
      skipLines fuel
    | _ => return

def lines : Reader Unit := do skipLines ((← get).rest.length + 1)

/-- Line ends and semicolons are left out. Every unit of fuel pays for one. -/
def skipEnds : Nat → Reader Unit
  | 0 => return
  | fuel + 1 => do
    match ← peek with
    | some .newline | some (.mark ";") =>
      advance
      skipEnds fuel
    | _ => return

def ends : Reader Unit := do skipEnds ((← get).rest.length + 1)

end Reader

open Reader

/-! ## Expressions -/

/-- What an expression may not hold outside of parentheses. -/
structure Limits where
  /-- A sign that would send output somewhere. -/
  noGreater : Bool
  /-- The word that looks for a key. -/
  noIn : Bool

def Limits.free : Limits := ⟨false, false⟩

/-- The ranks of operators, from the loosest on. -/
inductive Rank where
  | choice
  | or_
  | and_
  | key
  | match_
  | order
  | joined
  | sum
  | product
  | sign
  | power
  | step
  | operand
deriving DecidableEq

/-- An expression that something can be assigned to. -/
def isTarget : Expr → Bool
  | .variable_ _ | .item .. | .field _ => true
  | _ => false

def assignment? (t : Option Token) : Option (Option Arithmetic) :=
  match t with
  | some (.mark "=") => some none
  | some (.mark "+=") => some (some .add)
  | some (.mark "-=") => some (some .subtract)
  | some (.mark "*=") => some (some .multiply)
  | some (.mark "/=") => some (some .divide)
  | some (.mark "%=") => some (some .remainder)
  | some (.mark "^=") => some (some .power)
  | _ => none

def comparison? (noGreater : Bool) (t : Option Token) : Option Comparison :=
  match t with
  | some (.mark "<") => some .less
  | some (.mark "<=") => some .lessEqual
  | some (.mark "==") => some .equal
  | some (.mark "!=") => some .notEqual
  | some (.mark ">=") => some .greaterEqual
  | some (.mark ">") => if noGreater then none else some .greater
  | _ => none

/-- A token that an operand may begin with, which can stand right behind another one. -/
def beginsOperand : Option Token → Bool
  | some (.number ..) | some (.text _) | some (.name _) | some (.call _) => true
  | some (.mark m) => m == "$" || m == "(" || m == "!" || m == "++" || m == "--"
  | some (.word w) => Token.builtins.contains w
  | _ => false

/-- Operands with operators between them, put together from the left. Every unit of fuel pays for an operator. -/
def chain (operand : Reader Expr) (operator? : Option Token → Option (Expr → Expr → Expr)) : Nat → Expr → Reader Expr
  | 0, e => return e
  | fuel + 1, e => do
    match operator? (← peek) with
    | none => return e
    | some build =>
      advance
      let right ← operand
      chain operand operator? fuel (build e right)

/-- Operands right behind one another. Every unit of fuel pays for one. -/
def chainJoined (operand : Reader Expr) : Nat → Expr → Reader Expr
  | 0, e => return e
  | fuel + 1, e => do
    if beginsOperand (← peek) then
      let right ← operand
      chainJoined operand fuel (.joined e right)
    else return e

/-- Expressions with commas between them. Every unit of fuel pays for one. -/
def listed (one : Reader Expr) : Nat → Reader (List Expr)
  | 0 => return []
  | fuel + 1 => do
    let e ← one
    if ← nextIs "," then
      advance
      lines
      return e :: (← listed one fuel)
    else return [e]

/-- An expression of a rank; `self` reads those within. -/
def expression (self : Rank → Limits → Reader Expr) (rank : Rank) (limits : Limits) : Reader Expr := do
  let count := (← get).rest.length + 1
  let list (close : String) : Reader (List Expr) := do
    lines
    if ← nextIs close then
      advance
      return []
    let found ← listed (self .choice .free) count
    lines
    expect close
    return found
  /- What something is read into, if that is told. -/
  let target? : Reader (Option Expr) := do
    match ← peek with
    | some (.name _) | some (.mark "$") => return some (← self .operand limits)
    | _ => return none
  match rank with
  | .choice =>
    let test ← self .or_ limits
    if ← nextIs "?" then
      advance
      lines
      let yes ← self .choice limits
      lines
      expect ":"
      lines
      let no ← self .choice limits
      return .choose test yes no
    else return test
  | .or_ =>
    let operand := do
      lines
      self .and_ limits
    chain operand (fun t => match t with
      | some (.mark "||") => some .either
      | _ => none) count (← self .and_ limits)
  | .and_ =>
    let operand := do
      lines
      self .key limits
    chain operand (fun t => match t with
      | some (.mark "&&") => some .both
      | _ => none) count (← self .key limits)
  | .key =>
    let rec tables (fuel : Nat) (e : Expr) : Reader Expr := do
      match fuel with
      | 0 => return e
      | fuel + 1 =>
        if !limits.noIn && (← nextIsWord "in") then
          advance
          match ← peek with
          | some (.name table) =>
            advance
            let indexes := match e with
              | .group parts => parts
              | e => [e]
            uses true table
            tables fuel (.inside indexes table)
          | _ => unexpected
        else return e
    tables count (← self .match_ limits)
  | .match_ =>
    chain (self .order limits) (fun t => match t with
      | some (.mark "~") => some (.found false)
      | some (.mark "!~") => some (.found true)
      | _ => none) count (← self .order limits)
  | .order =>
    chain (self .joined limits) (fun t => (comparison? limits.noGreater t).map Expr.compare) count
      (← self .joined limits)
  | .joined =>
    let e ← chainJoined (self .sum limits) count (← self .sum limits)
    match isTarget e, assignment? (← peek) with
    | true, some op =>
      advance
      lines
      let value ← self .choice limits
      return .assign op e value
    | _, _ => return e
  | .sum =>
    chain (self .product limits) (fun t => match t with
      | some (.mark "+") => some (.arithmetic .add)
      | some (.mark "-") => some (.arithmetic .subtract)
      | _ => none) count (← self .product limits)
  | .product =>
    chain (self .sign limits) (fun t => match t with
      | some (.mark "*") => some (.arithmetic .multiply)
      | some (.mark "/") => some (.arithmetic .divide)
      | some (.mark "%") => some (.arithmetic .remainder)
      | _ => none) count (← self .sign limits)
  | .sign =>
    match ← peek with
    | some (.mark "!") =>
      advance
      return .not (← self .sign limits)
    | some (.mark "-") =>
      advance
      return .negative (← self .sign limits)
    | some (.mark "+") =>
      advance
      return .positive (← self .sign limits)
    | _ => self .power limits
  | .power =>
    let base ← self .step limits
    if ← nextIs "^" then
      advance
      let exponent ← self .sign limits
      return .arithmetic .power base exponent
    else return base
  | .step =>
    let e ← match ← peek with
      | some (.mark "++") | some (.mark "--") =>
        let up ← nextIs "++"
        advance
        let target ← self .operand limits
        if isTarget target then pure (Expr.step true up target) else unexpected
      | _ =>
        let e ← self .operand limits
        match isTarget e, ← peek with
        | true, some (.mark "++") =>
          advance
          pure (.step false true e)
        | true, some (.mark "--") =>
          advance
          pure (.step false false e)
        | _, _ => pure e
    let rec commands (fuel : Nat) (e : Expr) : Reader Expr := do
      match fuel with
      | 0 => return e
      | fuel + 1 =>
        match (← get).rest with
        | (.mark "|", _) :: (.word "getline", _) :: _ =>
          advance
          advance
          let target ← target?
          commands fuel (.lineOfCommand target e)
        | _ => return e
    commands count e
  | .operand =>
    match ← peek with
    | some (.number x _) =>
      advance
      return .number x
    | some (.text s) =>
      advance
      return .text s
    | some (.regex s) =>
      advance
      return .regex s
    | some (.mark "(") =>
      advance
      lines
      let parts ← listed (self .choice .free) count
      lines
      expect ")"
      return .group parts
    | some (.mark "$") =>
      advance
      match ← peek with
      | some (.mark "-") =>
        advance
        return .field (.negative (← self .step limits))
      | some (.mark "++") | some (.mark "--") => return .field (← self .step limits)
      | _ => return .field (← self .operand limits)
    | some (.name name) =>
      advance
      if ← nextIs "[" then
        uses true name
        advance
        let indexes ← list "]"
        return .item name indexes
      else
        let sets := match ← peek with
          | some (.mark m) => m == "++" || m == "--" || (assignment? (some (.mark m))).isSome
          | _ => false
        if sets then uses false name
        return .variable_ name
    | some (.call name) =>
      let line := (← get).line
      advance
      expect "("
      let args ← list ")"
      modify fun r => { r with called := (name, args.length, line) :: r.called }
      return .call name args
    | some (.word "getline") =>
      advance
      let target ← target?
      if ← nextIs "<" then
        advance
        let path ← self .step limits
        return .lineOfFile target path
      else return .line target
    | some (.word w) =>
      if Token.builtins.contains w then
        advance
        if ← nextIs "(" then
          advance
          return .builtin w (← list ")")
        else if w = "length" then return .builtin w []
        else unexpected
      else unexpected
    | _ => unexpected

/-- An expression of a rank. Every unit of fuel pays for a rank. -/
def expressionFrom : Nat → Rank → Limits → Reader Expr
  | 0, _, _ => unexpected
  | fuel + 1, rank, limits => expression (expressionFrom fuel) rank limits

def rankCount : Nat := 14

def expr (limits : Limits) : Reader Expr := do
  expressionFrom (rankCount * ((← get).rest.length + 2)) .choice limits

/-! ## Statements -/

/-- The end of a statement: a line end, a semicolon, or a brace in front. -/
def statementEnd : Reader Unit := do
  match ← peek with
  | some .newline | some (.mark ";") =>
    advance
    lines
  | some (.mark "\x7d") | none => return
  | _ => unexpected

/-- What is printed, and where to. -/
def printed (formatted : Bool) : Reader Statement := do
  let first ← peek
  let none_ := match first with
    | none | some .newline | some (.mark ";") | some (.mark "\x7d") | some (.mark ">") | some (.mark ">>")
    | some (.mark "|") => true
    | _ => false
  let parts ← if none_ then pure [] else listed (expr ⟨true, false⟩) ((← get).rest.length + 1)
  let args := match parts with
    | [.group inner] => inner
    | parts => parts
  let goal? : Option Goal := match ← peek with
    | some (.mark ">") => some .file
    | some (.mark ">>") => some .append
    | some (.mark "|") => some .command
    | _ => none
  match goal? with
  | none => return .print formatted args none
  | some goal =>
    advance
    let path ← expr ⟨true, false⟩
    return .print formatted args (some (goal, path))

/-- A statement that no other one stands in. -/
def simple : Reader Statement := do
  match ← peek with
  | some (.word "print") =>
    advance
    printed false
  | some (.word "printf") =>
    advance
    printed true
  | some (.word "delete") =>
    advance
    match ← peek with
    | some (.name table) =>
      advance
      if ← nextIs "[" then
        advance
        let indexes ← listed (expr .free) ((← get).rest.length + 1)
        expect "]"
        return .delete table (some indexes)
      else return .delete table none
    | _ => unexpected
  | _ => return .expr (← expr .free)

/-- A statement that may be missing, in front of a sign. -/
def optional (m : String) : Reader (Option Statement) := do
  if ← nextIs m then return none else return some (← simple)

/-- The end of a statement that is one word, or a word and a value. -/
def endsHere : Reader Bool := do
  match ← peek with
  | none | some .newline | some (.mark ";") | some (.mark "\x7d") => return true
  | _ => return false

/-- Statements up to the brace that closes them. Every unit of fuel pays for one. -/
def statements (one : Reader Statement) : Nat → Reader (List Statement)
  | 0 => return []
  | fuel + 1 => do
    ends
    if ← nextIs "\x7d" then
      advance
      return []
    if (← peek).isNone then unexpected
    let s ← one
    return s :: (← statements one fuel)

/-- A statement, with its end; `self` reads those within. -/
def statement (self : Reader Statement) : Reader Statement := do
  let count := (← get).rest.length + 1
  let loop (body : Reader Statement) : Reader Statement := do
    modify fun r => { r with loops := r.loops + 1 }
    let s ← body
    modify fun r => { r with loops := r.loops - 1 }
    return s
  /- A body, which may be missing where there is a semicolon. -/
  let body : Reader Statement := do
    lines
    if ← nextIs ";" then
      advance
      lines
      return .block []
    else self
  let test : Reader Expr := do
    expect "("
    let e ← expr .free
    expect ")"
    return e
  match ← peek with
  | some (.mark "\x7b") =>
    advance
    return .block (← statements self count)
  | some (.mark ";") =>
    advance
    lines
    return .block []
  | some (.word "if") =>
    advance
    let condition ← test
    let yes ← body
    let r ← get
    ends
    if ← nextIsWord "else" then
      advance
      return .if_ condition yes (some (← body))
    else
      set r
      return .if_ condition yes none
  | some (.word "while") =>
    advance
    let condition ← test
    if ← nextIs ";" then
      advance
      return .while_ condition (.block [])
    return .while_ condition (← loop body)
  | some (.word "do") =>
    advance
    let inner ← loop body
    ends
    if ← nextIsWord "while" then
      advance
      let condition ← test
      statementEnd
      return .repeat_ inner condition
    else unexpected
  | some (.word "for") =>
    advance
    expect "("
    match (← get).rest with
    | (.name name, _) :: (.word "in", _) :: (.name table, _) :: (.mark ")", _) :: _ =>
      advance
      advance
      advance
      advance
      return .each name table (← loop body)
    | _ =>
      let first ← optional ";"
      expect ";"
      lines
      let condition ← if ← nextIs ";" then pure none else pure (some (← expr .free))
      expect ";"
      lines
      let next ← optional ")"
      expect ")"
      return .for_ first condition next (← loop body)
  | some (.word w) =>
    let done (s : Statement) : Reader Statement := do
      statementEnd
      return s
    match w with
    | "next" | "nextfile" =>
      if !(← get).inRule then complain ("improper use of " ++ w).toList
      advance
      done (if w = "next" then .next else .nextFile)
    | "exit" =>
      advance
      if ← endsHere then done (.exit none) else done (.exit (some (← expr .free)))
    | "return" =>
      if !(← get).inFunction then complain "return outside function body".toList
      advance
      if ← endsHere then done (.return_ none) else done (.return_ (some (← expr .free)))
    | "break" | "continue" =>
      if (← get).loops = 0 then complain (w ++ " statement outside of loop").toList
      advance
      done (if w = "break" then .break_ else .continue_)
    | _ => done (← simple)
  | _ =>
    let s ← simple
    statementEnd
    return s

/-- A statement. Every unit of fuel pays for one around. -/
def statementFrom : Nat → Reader Statement
  | 0 => unexpected
  | fuel + 1 => statement (statementFrom fuel)

/-- The statements between braces, of which the first is next. -/
def action : Reader (List Statement) := do
  expect "\x7b"
  let count := (← get).rest.length + 1
  statements (statementFrom count) count

/-! ## Programs -/

/-- The names of parameters up to the parenthesis that closes them. Every unit of fuel pays for one. -/
def params : Nat → Reader (List (List Char))
  | 0 => return []
  | fuel + 1 => do
    lines
    match ← peek with
    | some (.mark ")") =>
      advance
      return []
    | some (.name name) =>
      advance
      if ← nextIs "," then advance
      return name :: (← params fuel)
    | _ => unexpected

/-- Rules and functions up to the end. Every unit of fuel pays for one. -/
def items : Nat → Program → Reader Program
  | 0, p => return p
  | fuel + 1, p => do
    ends
    let count := (← get).rest.length + 1
    let inPlace (rule function : Bool) : Reader Unit := modify fun r => { r with inRule := rule, inFunction := function }
    let rule (o : Occasion) (body : Option (List Statement)) : Reader Program :=
      items fuel { p with rules := p.rules ++ [⟨o, body⟩] }
    match ← peek with
    | none => return p
    | some (.word "BEGIN") =>
      advance
      inPlace false false
      rule .first (some (← action))
    | some (.word "END") =>
      advance
      inPlace false false
      rule .last (some (← action))
    | some (.word "function") =>
      advance
      match ← peek with
      | some (.name name) | some (.call name) =>
        advance
        expect "("
        let names ← params count
        lines
        inPlace false true
        modify fun r => { r with params := names }
        let body ← action
        modify fun r => { r with params := [] }
        items fuel { p with functions := p.functions ++ [(name, ⟨names, body⟩)] }
      | _ => unexpected
    | some (.mark "\x7b") =>
      inPlace true false
      rule .always (some (← action))
    | _ =>
      inPlace true false
      let e ← expr .free
      let occasion ← if ← nextIs "," then do
          advance
          lines
          pure (Occasion.range e (← expr .free))
        else pure (.where_ e)
      if ← nextIs "\x7b" then rule occasion (some (← action))
      else
        match ← peek with
        | none | some .newline | some (.mark ";") => rule occasion none
        | _ => unexpected

/-- The program that a text spells. -/
def Program.read (s : List Char) : Except ProgramFault Program := do
  let tokens ← Token.read s
  let (p, r) ← (items (tokens.length + 1) ⟨[], []⟩).run ⟨tokens, 1, 0, 0, 0, false, true, [], [], []⟩
  match r.called.reverse.find? fun (name, _) => (entryFor? name p.functions).isNone with
  | some (name, _) => throw ⟨r.line + 1, false, "function ".toList ++ name ++ " never defined".toList⟩
  | none =>
    let tooMany (call : List Char × Nat × Nat) : Bool :=
      match entryFor? call.1 p.functions with
      | some f => f.params.length < call.2.1
      | none => false
    match r.called.reverse.find? tooMany with
    | some (name, _, line) => throw ⟨line, false, "too many arguments in call to ".toList ++ name⟩
    | none => return p

end DiagramStudio.Script.Awk
