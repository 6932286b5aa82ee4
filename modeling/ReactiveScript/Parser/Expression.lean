import ReactiveScript.Number.Reader
import ReactiveScript.Parser.Cursor
import ReactiveScript.Syntax.Tree

/-! # The grammar of expressions

Expressions are layered by how tightly their operators bind. Each layer is a chain of the next
tighter one, joined from the left; a range takes two or three sums and does not chain. Where a colon
would end the expression, in a key of a dictionary or a label of a choice, ranges take no step. -/

namespace ReactiveScript

/-- The layers of the grammar, from loose to tight. -/
inductive Level where
  /-- `|` and `^`. -/
  | either
  /-- `&`. -/
  | both
  /-- `==` and `!=`. -/
  | equality
  /-- `<`, `<=`, `>` and `>=`. -/
  | order
  /-- `..` and `...`. -/
  | range
  /-- `+` and `-` between operands. -/
  | sum
  /-- `*`, `/` and `%`. -/
  | product
  /-- `!`, `-` before an operand, and casts. -/
  | unary
  /-- Indexing. -/
  | indexed
  /-- Literals, names, calls and everything in brackets. -/
  | primary
deriving DecidableEq, Repr, Inhabited

/-- The layer that the operands of a chain belong to. -/
def Level.tighter : Level → Level
  | .either => .both
  | .both => .equality
  | .equality => .order
  | .order => .range
  | .range => .sum
  | .sum => .product
  | .product => .unary
  | .unary => .indexed
  | .indexed => .primary
  | .primary => .primary

/-- How a symbol joins two operands of a layer, if it does. -/
def Level.joinSymbol? (span : Span) (level : Level) (symbol : String) :
    Option (Expr → Expr → Expr) :=
  match level, symbol with
  | .either, "|" => some (.logical span .or)
  | .either, "^" => some (.logical span .xor)
  | .both, "&" => some (.logical span .and)
  | .equality, "==" => some (.comparison span .equal)
  | .equality, "!=" => some (.comparison span .notEqual)
  | .order, "<" => some (.comparison span .less)
  | .order, "<=" => some (.comparison span .lessEqual)
  | .order, ">" => some (.comparison span .greater)
  | .order, ">=" => some (.comparison span .greaterEqual)
  | .sum, "+" => some (.binary span .add)
  | .sum, "-" => some (.binary span .sub)
  | .product, "*" => some (.binary span .mul)
  | .product, "/" => some (.binary span .div)
  | .product, "%" => some (.binary span .mod)
  | _, _ => none

/-- How a token joins two operands of a layer, if it does. -/
def Level.join? (level : Level) (token : Token) : Option (Expr → Expr → Expr) :=
  if token.kind = .symbol then level.joinSymbol? token.span token.lexeme else none

/-- The literal that a number token spells: a point or an exponent makes it a floating-point one. -/
def numberLiteral (token : Token) : Except Fault Literal :=
  let chars := token.lexeme.toList
  if chars.any fun c => c = '.' || c = 'e' || c = 'E' then
    match Number.readFloat chars with
    | some value => .ok (.float value)
    | none => .error (.malformed s!"invalid number '{token.lexeme}'" token.span)
  else
    match Number.readWord chars with
    | some value => .ok (.int value)
    | none =>
      .error (.malformed s!"integer literal '{token.lexeme}' is out of range" token.span)

/-- The literal that an imaginary token spells. -/
def imaginaryLiteral (token : Token) : Except Fault Literal :=
  match Number.readFloat token.lexeme.toList with
  | some value => .ok (.imaginary value)
  | none => .error (.malformed s!"invalid imaginary literal '{token.render}'" token.span)

namespace Parse

mutual

/-- An expression of a layer; `stepped` says whether ranges may take a step. -/
def exprWithin (stepped : Bool) : Nat → Level → Parse Expr
  | 0, _ => cutOff
  | fuel + 1, .range => do
    let first ← exprWithin stepped fuel .sum
    match ← acceptAny ["..", "..."] with
    | none => return first
    | some op =>
      let last ← exprWithin stepped fuel .sum
      let step ← stepWithin stepped fuel
      return .range op.span first last step (op.lexeme = "...")
  | fuel + 1, .unary => do
    match ← acceptAny ["!", "-"] with
    | some op =>
      let operand ← exprWithin stepped fuel .unary
      return .unary op.span (if op.lexeme = "!" then .not else .negate) operand
    | none =>
      let token ← peek
      if token.startsType then
        let target ← type
        expect "->" "after cast type"
        let operand ← exprWithin stepped fuel .unary
        return .cast token.span target operand
      else exprWithin stepped fuel .indexed
  | fuel + 1, .indexed => do
    let target ← exprWithin stepped fuel .primary
    indicesWithin stepped fuel target
  | fuel + 1, .primary => primaryWithin stepped fuel
  | fuel + 1, level => do
    let left ← exprWithin stepped fuel level.tighter
    chainWithin stepped fuel level left

/-- The step of a range, after a colon. -/
def stepWithin (stepped : Bool) : Nat → Parse (Option Expr)
  | 0 => cutOff
  | fuel + 1 => do
    if stepped then
      if ← accept ":" then
        let step ← exprWithin stepped fuel .sum
        return some step
      else return none
    else return none

/-- The operands that follow the first of a chain. -/
def chainWithin (stepped : Bool) : Nat → Level → Expr → Parse Expr
  | 0, _, _ => cutOff
  | fuel + 1, level, left => do
    match level.join? (← peek) with
    | none => return left
    | some join =>
      advance
      let right ← exprWithin stepped fuel level.tighter
      chainWithin stepped fuel level (join left right)

/-- The indices that follow an expression. -/
def indicesWithin (stepped : Bool) : Nat → Expr → Parse Expr
  | 0, _ => cutOff
  | fuel + 1, target => do
    match ← acceptAny ["["] with
    | none => return target
    | some bracket =>
      let position ← exprWithin stepped fuel .either
      expect "]" "after index"
      indicesWithin stepped fuel (.index bracket.span target position)

/-- A literal, a name, a call or something in brackets. -/
def primaryWithin (stepped : Bool) : Nat → Parse Expr
  | 0 => cutOff
  | fuel + 1 => do
    let token ← peek
    match token.kind with
    | .number =>
      advance
      let value ← numberLiteral token
      return .literal token.span value
    | .imaginary =>
      advance
      let value ← imaginaryLiteral token
      return .literal token.span value
    | .text =>
      advance
      return .literal token.span (.text token.lexeme)
    | .identifier =>
      advance
      if ← accept "(" then
        let arguments ← argumentsWithin stepped fuel
        return .call token.span token.lexeme arguments
      else return .var token.span token.lexeme
    | _ =>
      if token.is "true" then
        advance
        return .literal token.span (.boolean true)
      else if token.is "false" then
        advance
        return .literal token.span (.boolean false)
      else if token.is "(" then
        advance
        let inner ← exprWithin stepped fuel .either
        expect ")" "to close group"
        return inner
      else if token.is "[" then
        advance
        let items ← itemsWithin stepped fuel
        return .list token.span items
      else if token.is "\x7b" then
        advance
        let entries ← entriesWithin stepped fuel
        return .dict token.span entries
      else refuse "expected expression"

/-- The arguments of a call, after its bracket. -/
def argumentsWithin (stepped : Bool) : Nat → Parse (List Expr)
  | 0 => cutOff
  | fuel + 1 => do
    if ← accept ")" then return []
    else moreArgumentsWithin stepped fuel

/-- The arguments of a call of which at least one has to follow. -/
def moreArgumentsWithin (stepped : Bool) : Nat → Parse (List Expr)
  | 0 => cutOff
  | fuel + 1 => do
    let argument ← exprWithin stepped fuel .either
    if ← accept "," then
      let arguments ← moreArgumentsWithin stepped fuel
      return argument :: arguments
    else
      expect ")" "after arguments"
      return [argument]

/-- The items of a list, after its bracket; a comma may stand behind the last. -/
def itemsWithin (stepped : Bool) : Nat → Parse (List Expr)
  | 0 => cutOff
  | fuel + 1 => do
    if ← accept "]" then return []
    else
      let item ← exprWithin stepped fuel .either
      if ← accept "," then
        let items ← itemsWithin stepped fuel
        return item :: items
      else
        expect "]" "to close list"
        return [item]

/-- The entries of a dictionary, after its brace; a comma may stand behind the last. -/
def entriesWithin (stepped : Bool) : Nat → Parse (List (Expr × Expr))
  | 0 => cutOff
  | fuel + 1 => do
    if ← accept "\x7d" then return []
    else
      let key ← exprWithin false fuel .either
      expect ":" "between dict key and value"
      let value ← exprWithin stepped fuel .either
      if ← accept "," then
        let entries ← entriesWithin stepped fuel
        return (key, value) :: entries
      else
        expect "\x7d" "to close dict"
        return [(key, value)]

end

/-- How often the rules for expressions call each other before they take a token. -/
def layers : Nat := 16

/-- An expression; `stepped` says whether ranges may take a step. -/
def exprStepped (stepped : Bool) : Parse Expr := do
  exprWithin stepped (layers * ((← get).ahead.length + 1)) .either

/-- An expression. -/
def expr : Parse Expr := exprStepped true

end Parse

end ReactiveScript
