import ReactiveScript.Span

/-! # Tokens

The words, numbers, texts and symbols of a program, each with the place where it starts. -/

namespace ReactiveScript

/-- The classes of token. -/
inductive TokenKind where
  | number
  /-- A number with the imaginary mark, which its text leaves out. -/
  | imaginary
  /-- A quoted text; the token holds what the quotes and escapes stand for. -/
  | text
  | identifier
  | keyword
  | symbol
  /-- A path between angle brackets after the word that imports. -/
  | path
  /-- The end of the source. -/
  | ending
deriving DecidableEq, Repr, Inhabited

/-- A token and where it starts. -/
structure Token where
  /-- The class of the token. -/
  kind : TokenKind
  /-- The content of the token. -/
  lexeme : String
  /-- Where the token starts. -/
  span : Span
deriving DecidableEq, Repr, Inhabited

namespace Token

/-- Whether a token is the given symbol or keyword. -/
def is (token : Token) (text : String) : Bool :=
  (token.kind = .symbol || token.kind = .keyword) && token.lexeme = text

/-- The token that stands at the end of a source. -/
def atEnd (span : Span) : Token := ⟨.ending, "", span⟩

/-- How a message names a token. -/
def render (token : Token) : String :=
  match token.kind with
  | .ending => "end of input"
  | .text => "\"" ++ token.lexeme ++ "\""
  | .path => "<" ++ token.lexeme ++ ">"
  | .imaginary => token.lexeme ++ "j"
  | _ => token.lexeme

end Token

/-- The words that name a type. -/
def typeKeywords : List String :=
  ["int", "float", "complex", "string", "boolean", "void", "list", "dict"]

/-- The words that name no type and are no identifiers. -/
def plainKeywords : List String :=
  ["if", "else", "while", "until", "for", "in", "switch", "case", "default", "break", "return",
    "throw", "import", "as", "signal", "emit", "when", "watch", "true", "false"]

/-- Whether a word names a type. -/
def isTypeKeyword (word : String) : Bool := typeKeywords.contains word

/-- Whether a word is reserved. -/
def isKeyword (word : String) : Bool := isTypeKeyword word || plainKeywords.contains word

end ReactiveScript
