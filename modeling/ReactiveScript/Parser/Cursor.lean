import ReactiveScript.Token.Lexer
import ReactiveScript.Ty

/-! # Reading a stream of tokens

The steps that every rule of the grammar is made of: looking at the next token, taking it when it is
the expected one, and refusing it with a message that names it. At the end of the source the token
that stands there is seen again and again. -/

namespace ReactiveScript

namespace TokenStream

/-- The next token. -/
def peek (stream : TokenStream) : Token := stream.ahead.headD (.atEnd stream.ending)

/-- The token after the next. -/
def second (stream : TokenStream) : Token := (stream.ahead.drop 1).headD (.atEnd stream.ending)

/-- The stream after its next token. -/
def advance (stream : TokenStream) : TokenStream := { stream with ahead := stream.ahead.drop 1 }

@[simp] theorem peek_cons (token : Token) (rest : List Token) (ending : Span) :
    peek ⟨token :: rest, ending⟩ = token := rfl

@[simp] theorem advance_cons (token : Token) (rest : List Token) (ending : Span) :
    advance ⟨token :: rest, ending⟩ = ⟨rest, ending⟩ := rfl

end TokenStream

/-- A rule of the grammar: takes tokens from a stream and gives what they mean, or a fault. -/
abbrev Parse := StateT TokenStream (Except Fault)

namespace Parse

/-- The next token. -/
def peek : Parse Token := return (← get).peek

/-- Passes over the next token. -/
def advance : Parse Unit := modify TokenStream.advance

/-- Takes the next token. -/
def next : Parse Token := do
  let token ← peek
  advance
  return token

/-- Refuses the next token. -/
def refuse {α : Type} (message : String) : Parse α := do
  let token ← peek
  throw (.malformed (message ++ ", found " ++ token.render) token.span)

/-- Gives up on a rule that has used up its bound. The bounds are wide enough for every source, so
this fault, which has no place and is of no kind that a source can lead to, is never seen. -/
def cutOff {α : Type} : Parse α :=
  throw { kind := .runtimeError, message := "a rule of the grammar has used up its bound" }

/-- Whether the next token is the given symbol or keyword. -/
def sees (text : String) : Parse Bool := return (← peek).is text

/-- Whether the source has ended. -/
def seesEnd : Parse Bool := return (← peek).kind = .ending

/-- Takes the next token if it is the given symbol or keyword. -/
def accept (text : String) : Parse Bool := do
  if ← sees text then
    advance
    return true
  else return false

/-- Takes the next token if it is one of the given symbols or keywords. -/
def acceptAny (texts : List String) : Parse (Option Token) := do
  let token ← peek
  if texts.any token.is then
    advance
    return some token
  else return none

/-- Takes the given symbol or keyword, or refuses what stands there. -/
def expect (text context : String) : Parse Unit := do
  if ← sees text then advance
  else refuse s!"expected '{text}' {context}"

/-- Takes an identifier, or refuses what stands there. -/
def identifier (context : String) : Parse String := do
  let token ← peek
  if token.kind = .identifier then
    advance
    return token.lexeme
  else refuse s!"expected identifier {context}"

end Parse

/-- Whether a token starts a type. -/
def Token.startsType (token : Token) : Bool :=
  match token.kind with
  | .keyword => isTypeKeyword token.lexeme
  | .symbol => token.lexeme = "?"
  | _ => false

namespace Parse

/-- A type with at most `fuel` types inside each other. -/
def typeWithin : Nat → Parse Ty
  | 0 => cutOff
  | fuel + 1 => do
    let token ← peek
    if !token.startsType then refuse "expected type"
    else
      advance
      if token.lexeme = "list" then
        if ← accept "<" then
          let element ← typeWithin fuel
          expect ">" "to close list type"
          return .list element
        else return .anyList
      else if token.lexeme = "dict" then
        if ← accept "<" then
          let key ← typeWithin fuel
          expect "," "between dict key and value types"
          let value ← typeWithin fuel
          expect ">" "to close dict type"
          return .dict key value
        else return .anyDict
      else return Ty.ofWord token.lexeme

/-- A type. Every type inside another takes a token first, so the tokens bound the nesting. -/
def type : Parse Ty := do
  typeWithin ((← get).ahead.length + 1)

end Parse

end ReactiveScript
