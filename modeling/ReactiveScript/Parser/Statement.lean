import ReactiveScript.Parser.Expression

/-! # The grammar of statements

Statements are told apart by their first keyword; without one they are declarations, assignments or
expressions. A type may start a declaration, a function or a cast, so the stream is rewound when
what follows the type does not decide for one of the first two. -/

namespace ReactiveScript

/-- The greatest count that may stand before a loop's condition is looked at. -/
def prerollBound : Nat := Nat.pow 2 32

/-- The symbols that assign. -/
def assignmentSymbols : List String := ["=", "+=", "-=", "*=", "/=", "%="]

/-- The assignment of a value to what an expression denotes; only names and elements can be
assigned. A combining assignment to an element reads the element first. -/
def assignmentTo (span : Span) (target : Expr) (op : Token) (value : Expr) : Except Fault Stmt :=
  match target with
  | .var _ name =>
    if op.lexeme = "=" then .ok (.assignment span name value)
    else do
      let combine ← BinaryOp.ofSymbol op.lexeme
      return .compound span name combine value
  | .index at_ container position =>
    if op.lexeme = "=" then .ok (.element span container position value)
    else do
      let combine ← BinaryOp.ofSymbol op.lexeme
      let current := Expr.index at_ container position
      return .element span container position (.binary op.span combine current value)
  | _ => .error (.malformed s!"invalid assignment target for '{op.lexeme}'" op.span)

namespace Parse

/-- An assignment or an expression. -/
def assignmentOrExpression (span : Span) : Parse Stmt := do
  let target ← expr
  match ← acceptAny assignmentSymbols with
  | none => return .expression span target
  | some op =>
    let value ← expr
    assignmentTo span target op value

/-- A declaration, an assignment or an expression, without the semicolon. -/
def simple : Parse Stmt := do
  let token ← peek
  if token.startsType then
    let start ← get
    let declared ← type
    let named ← peek
    if named.kind = .identifier then
      advance
      if ← accept "=" then
        let value ← expr
        return .declaration token.span declared named.lexeme (some value)
      else return .declaration token.span declared named.lexeme none
    else
      set start
      assignmentOrExpression token.span
  else assignmentOrExpression token.span

/-- An expression in parentheses. -/
def parenthesized (context : String) : Parse Expr := do
  expect "(" context
  let inner ← expr
  expect ")" context
  return inner

/-- The parameters of a function of which at least one has to follow. -/
def paramsWithin : Nat → Parse (List Param)
  | 0 => cutOff
  | fuel + 1 => do
    let declared ← type
    let name ← identifier "for parameter name"
    if ← accept "," then
      let params ← paramsWithin fuel
      return ⟨declared, name⟩ :: params
    else return [⟨declared, name⟩]

/-- The parameters of a function with their parentheses. -/
def params : Parse (List Param) := do
  expect "(" "after function name"
  if ← sees ")" then
    expect ")" "after parameters"
    return []
  else
    let found ← paramsWithin ((← get).ahead.length + 1)
    expect ")" "after parameters"
    return found

/-- The count that may stand between a loop's condition and its body. -/
def preroll : Parse Nat := do
  if ← accept ":" then
    let token ← peek
    let count := if token.kind = .number then Number.readNatural token.lexeme.toList else none
    match count.filter (· < prerollBound) with
    | some found =>
      advance
      return found
    | none => refuse "expected preroll count after ':'"
  else return 0

/-- The head of a loop over a container, or nothing if another kind of loop follows. -/
def forEachHead : Parse (Option (Ty × String)) := do
  let start ← get
  let token ← peek
  let declared ← if token.startsType then type else pure .any
  let stream ← get
  if stream.peek.kind = .identifier && stream.second.is "in" then
    advance
    advance
    return some (declared, stream.peek.lexeme)
  else
    set start
    return none

/-- The end of a function body. -/
def leave (span : Span) : Parse Stmt := do
  advance
  if ← accept ";" then return .leave span none
  else
    let value ← expr
    expect ";" "after return value"
    return .leave span (some value)

/-- A fault made by the program. -/
def raise (span : Span) : Parse Stmt := do
  advance
  let value ← expr
  expect ";" "after throw value"
  return .raise span value

/-- An import. -/
def load (span : Span) : Parse Stmt := do
  advance
  let token ← peek
  if token.kind = .path || token.kind = .text then
    advance
    let label ←
      if ← accept "as" then
        let name ← identifier "after 'as'"
        pure (some name)
      else pure none
    expect ";" "after import"
    return .load span token.lexeme label
  else refuse "expected import path"

/-- The declaration or the emission of a signal. -/
def signalStatement (keyword : Token) : Parse Stmt := do
  advance
  let name ← identifier s!"after '{keyword.lexeme}'"
  expect ";" "after signal name"
  return if keyword.lexeme = "signal" then .signal keyword.span name else .emit keyword.span name

/-- The name that a handler waits for, in parentheses or not. -/
def handlerName (keyword : Token) : Parse String := do
  let bracketed ← accept "("
  let name ← identifier s!"after '{keyword.lexeme}'"
  if bracketed then expect ")" "after name"
  return name

/-- The kinds of statement that a keyword starts. -/
inductive Opening where
  | branch
  | whileLoop
  | untilLoop
  | forLoop
  | choice
  | leave
  | raise
  | load
  | signal
  | handler
  | stray
  | other
deriving DecidableEq, Repr

/-- The kind of statement that a token starts. -/
def Opening.ofToken (token : Token) : Opening :=
  if token.kind = .keyword then
    match token.lexeme with
    | "if" => .branch
    | "while" => .whileLoop
    | "until" => .untilLoop
    | "for" => .forLoop
    | "switch" => .choice
    | "return" => .leave
    | "throw" => .raise
    | "import" => .load
    | "signal" => .signal
    | "emit" => .signal
    | "when" => .handler
    | "watch" => .handler
    | "break" => .stray
    | _ => .other
  else .other

mutual

/-- A statement. -/
def statementWithin : Nat → Parse Stmt
  | 0 => cutOff
  | fuel + 1 => do
    let token ← peek
    match Opening.ofToken token with
    | .branch => branchWithin fuel
    | .whileLoop =>
      advance
      let condition ← parenthesized "around loop condition"
      let count ← preroll
      let body ← blockWithin fuel
      return .whileLoop token.span condition count body
    | .untilLoop =>
      advance
      let condition ← parenthesized "around loop condition"
      let count ← preroll
      let body ← blockWithin fuel
      return .untilLoop token.span condition count body
    | .forLoop =>
      advance
      expect "(" "after 'for'"
      match ← forEachHead with
      | some (declared, name) =>
        let iterable ← expr
        expect ")" "after for-in iterable"
        let body ← blockWithin fuel
        return .forEach token.span declared name iterable body
      | none =>
        let first ← simple
        expect ";" "after for initializer"
        let condition ← expr
        expect ";" "after for condition"
        let step ← simple
        let _ ← accept ";"
        expect ")" "after for clauses"
        let body ← blockWithin fuel
        return .forLoop token.span first condition step body
    | .choice =>
      advance
      let subject ← parenthesized "around switch subject"
      expect "\x7b" "to open switch body"
      let (cases, fallback) ← casesWithin fuel none
      return .choice token.span subject cases fallback
    | .leave => leave token.span
    | .raise => raise token.span
    | .load => load token.span
    | .signal => signalStatement token
    | .handler =>
      advance
      let name ← handlerName token
      let body ← blockWithin fuel
      return if token.lexeme = "when" then .when token.span name body
        else .watch token.span name body
    | .stray => throw (.malformed "'break' is only allowed inside a switch case" token.span)
    | .other =>
      if token.startsType then
        let start ← get
        let returns ← type
        let stream ← get
        if stream.peek.kind = .identifier && stream.second.is "(" then
          let name ← identifier "for function name"
          let found ← params
          let body ← blockWithin fuel
          return .function token.span returns name found body
        else
          set start
          let statement ← simple
          expect ";" "after statement"
          return statement
      else
        let statement ← simple
        expect ";" "after statement"
        return statement

/-- A branch, at its keyword. -/
def branchWithin : Nat → Parse Stmt
  | 0 => cutOff
  | fuel + 1 => do
    let token ← next
    let condition ← parenthesized "around if condition"
    let thenBody ← blockWithin fuel
    if ← accept "else" then
      if ← sees "if" then
        let elseBranch ← branchWithin fuel
        return .branch token.span condition thenBody (some [elseBranch])
      else
        let elseBody ← blockWithin fuel
        return .branch token.span condition thenBody (some elseBody)
    else return .branch token.span condition thenBody none

/-- Statements in braces. -/
def blockWithin : Nat → Parse (List Stmt)
  | 0 => cutOff
  | fuel + 1 => do
    expect "\x7b" "to open block"
    statementsWithin fuel

/-- Statements up to the closing brace. -/
def statementsWithin : Nat → Parse (List Stmt)
  | 0 => cutOff
  | fuel + 1 => do
    if (← sees "\x7d") || (← seesEnd) then
      expect "\x7d" "to close block"
      return []
    else
      let statement ← statementWithin fuel
      let statements ← statementsWithin fuel
      return statement :: statements

/-- The cases of a choice up to the closing brace; the fallback may be given once. -/
def casesWithin : Nat → Option (List Stmt) → Parse (List (Case Stmt) × Option (List Stmt))
  | 0, _ => cutOff
  | fuel + 1, fallback => do
    match ← acceptAny ["case", "default"] with
    | some token =>
      if token.lexeme = "case" then
        let label ← exprStepped false
        expect ":" "after case value"
        let body ← caseBodyWithin fuel
        let (cases, found) ← casesWithin fuel fallback
        return (⟨token.span, label, body⟩ :: cases, found)
      else
        match fallback with
        | some _ => throw (.malformed "switch has more than one default case" token.span)
        | none =>
          expect ":" "after 'default'"
          let body ← caseBodyWithin fuel
          casesWithin fuel (some body)
    | none =>
      if ← accept "\x7d" then return ([], fallback)
      else refuse "expected 'case', 'default' or '\x7d' in switch"

/-- The statements of a case, which a break may end. -/
def caseBodyWithin : Nat → Parse (List Stmt)
  | 0 => cutOff
  | fuel + 1 => do
    if (← sees "case") || (← sees "default") || (← sees "\x7d") then return []
    else if ← seesEnd then refuse "expected '\x7d' to close switch body"
    else if ← accept "break" then
      expect ";" "after 'break'"
      return []
    else
      let statement ← statementWithin fuel
      let statements ← caseBodyWithin fuel
      return statement :: statements

end

/-- How often the rules for statements call each other before they take a token. -/
def statementLayers : Nat := 4

/-- The statements of a whole source. -/
def programWithin : Nat → Parse (List Stmt)
  | 0 => cutOff
  | fuel + 1 => do
    if ← seesEnd then return []
    else
      let statement ← statementWithin (statementLayers * ((← get).ahead.length + 1))
      let statements ← programWithin fuel
      return statement :: statements

end Parse

/-- The program that a stream of tokens spells. -/
def TokenStream.program (stream : TokenStream) : Except Fault (List Stmt) :=
  (Parse.programWithin (stream.ahead.length + 1)).run' stream

/-- The program that a source text spells. -/
def readProgram (source : String) : Except Fault (List Stmt) := do
  let stream ← TokenStream.ofSource source
  stream.program

end ReactiveScript
