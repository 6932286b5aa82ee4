import ReactiveScript.Fault
import ReactiveScript.Text.Blank
import ReactiveScript.Text.Numeric
import ReactiveScript.Token.Basic

/-! # From characters to tokens

At every place of a source one piece is read: a blank, a comment or a token, given by how many
characters it takes after its first. The pieces follow each other without a gap, so the place of a
piece is found by walking over the characters before it. -/

namespace ReactiveScript

/-- The line and column of the next character, both counted from one. -/
structure Place where
  /-- The line, counted from one. -/
  line : Nat
  /-- The column, counted from one. -/
  column : Nat
deriving DecidableEq, Repr, Inhabited

namespace Place

/-- Where a source starts. -/
def start : Place := ⟨1, 1⟩

/-- The place after one character. -/
def next (place : Place) (c : Char) : Place :=
  if c = '\n' then ⟨place.line + 1, 1⟩ else ⟨place.line, place.column + 1⟩

/-- The place after some characters. -/
def after (place : Place) (chars : List Char) : Place :=
  chars.foldl next place

/-- The place as a span. -/
def span (place : Place) : Span := .at place.line place.column

@[simp] theorem after_nil (place : Place) : place.after [] = place := rfl

@[simp] theorem after_cons (place : Place) (c : Char) (chars : List Char) :
    place.after (c :: chars) = (place.next c).after chars := rfl

@[simp] theorem after_append (place : Place) (left right : List Char) :
    place.after (left ++ right) = (place.after left).after right := by
  simp [after]

end Place

namespace Lexer

/-- What keeps a source from being read as tokens, and how far behind the start of the piece. -/
structure Problem where
  /-- What is wrong. -/
  message : String
  /-- How many characters stand between the start of the piece and the place that is blamed. -/
  offset : Nat

/-- One piece of a source: what it is, and how many characters it takes after its first. -/
inductive Piece where
  /-- A blank or a comment. -/
  | gap (extra : Nat)
  /-- A token. -/
  | token (kind : TokenKind) (lexeme : String) (extra : Nat)

/-- How many characters a piece takes after its first. -/
def Piece.extra : Piece → Nat
  | .gap extra => extra
  | .token _ _ extra => extra

/-- What a piece at a place adds to the tokens. -/
def Piece.tokens (place : Place) : Piece → List Token
  | .gap _ => []
  | .token kind lexeme _ => [⟨kind, lexeme, place.span⟩]

/-- Whether a path between angle brackets may follow: right after the word that imports, blanks and
comments aside. -/
def Piece.opensPath (before : Bool) : Piece → Bool
  | .gap _ => before
  | .token kind lexeme _ => kind = .keyword && lexeme = "import"

/-- How many characters a block comment takes after its opening, its closing included. -/
def blockComment : List Char → Option Nat
  | [] => none
  | '*' :: '/' :: _ => some 2
  | _ :: rest => (blockComment rest).map (· + 1)

/-- The character that an escape stands for. -/
def unescape (c : Char) : Option Char :=
  if c = 'n' then some '\n'
  else if c = 't' then some '\t'
  else if c = 'r' then some '\r'
  else if c = '0' then some '\x00'
  else if c = '\\' then some '\\'
  else if c = '"' then some '"'
  else if c = '\'' then some '\''
  else none

/-- The content of a quoted text after `taken` of its characters, and how many it takes in all,
the closing quote included. -/
def quotedText (delimiter : Char) (taken : Nat) : List Char → Except Problem (List Char × Nat)
  | [] => .error ⟨"unterminated string", 0⟩
  | c :: rest =>
    if c = delimiter then .ok ([], taken + 1)
    else if c = '\\' then
      match rest with
      | [] => .error ⟨"unterminated string", 0⟩
      | escaped :: more =>
        match unescape escaped with
        | none =>
          .error ⟨"unknown escape sequence '\\" ++ String.singleton escaped ++ "'", taken + 2⟩
        | some meant => do
          let (content, total) ← quotedText delimiter (taken + 2) more
          return (meant :: content, total)
    else do
      let (content, total) ← quotedText delimiter (taken + 1) rest
      return (c :: content, total)

/-- The path up to its closing bracket, which has to stand on the same line. -/
def pathText : List Char → Option (List Char)
  | [] => none
  | c :: rest =>
    if c = '>' then some []
    else if c = '\n' then none
    else (pathText rest).map (c :: ·)

/-- The fraction at the start of the characters: a point and at least one digit. -/
def fractionPart : List Char → List Char
  | '.' :: rest =>
    if (rest.takeWhile Char.isDigit).isEmpty then [] else '.' :: rest.takeWhile Char.isDigit
  | _ => []

/-- The exponent at the start of the characters: a mark, an optional sign and at least one digit. -/
def exponentPart : List Char → List Char
  | mark :: rest =>
    if mark = 'e' ∨ mark = 'E' then
      let sign := rest.take 1 |>.filter fun c => c = '+' || c = '-'
      let digits := (rest.drop sign.length).takeWhile Char.isDigit
      if digits.isEmpty then [] else mark :: (sign ++ digits)
    else []
  | [] => []

/-- The longest number at the start of the characters. -/
def numberText (chars : List Char) : List Char :=
  let whole := chars.takeWhile Char.isDigit
  let fraction := fractionPart (chars.drop whole.length)
  whole ++ fraction ++ exponentPart (chars.drop (whole.length + fraction.length))

/-- Whether a character starts a name. -/
def startsName (c : Char) : Bool := Text.isAlphabetic c || c = '_'

/-- Whether a character continues a name. -/
def continuesName (c : Char) : Bool := Text.isAlphanumeric c || c = '_'

/-- The number that starts with the given digit. A name may not follow without a gap. -/
def numberPiece (first : Char) (rest : List Char) : Except Problem Piece :=
  let number := numberText (first :: rest)
  let behind := (first :: rest).drop number.length
  let piece : Piece × List Char :=
    match behind with
    | 'j' :: more => (.token .imaginary (String.ofList number) number.length, more)
    | _ => (.token .number (String.ofList number) (number.length - 1), behind)
  match piece.2 with
  | c :: _ =>
    if startsName c then
      .error ⟨"invalid number literal near '" ++ String.singleton c ++ "'", piece.1.extra⟩
    else .ok piece.1
  | [] => .ok piece.1

/-- The name or keyword that starts with the given character. -/
def namePiece (first : Char) (rest : List Char) : Piece :=
  let more := rest.takeWhile continuesName
  let name := String.ofList (first :: more)
  .token (if isKeyword name then .keyword else .identifier) name more.length

/-- The symbols of one character that never take an equals sign. -/
def plainSymbols : List Char :=
  ['&', '|', '^', '?', '(', ')', '{', '}', '[', ']', ',', ';', ':']

/-- The symbols of one character that an equals sign may follow. -/
def assignSymbols : List Char := ['-', '+', '*', '/', '%', '!', '=', '<', '>']

/-- The symbol that starts with the given character. -/
def symbolPiece (first : Char) (rest : List Char) : Option Piece :=
  let symbol (more : List Char) : Piece :=
    .token .symbol (String.ofList (first :: more)) more.length
  if first = '.' then
    match rest with
    | '.' :: '.' :: _ => some (symbol ['.', '.'])
    | '.' :: _ => some (symbol ['.'])
    | _ => some (symbol [])
  else if first = '-' ∧ rest.head? = some '>' then some (symbol ['>'])
  else if assignSymbols.contains first then
    some (symbol (if rest.head? = some '=' then ['='] else []))
  else if plainSymbols.contains first then some (symbol [])
  else none

/-- The number, name or symbol that starts with the given character. -/
def plainPiece (first : Char) (rest : List Char) : Except Problem Piece :=
  if first.isDigit then numberPiece first rest
  else if startsName first then .ok (namePiece first rest)
  else
    match symbolPiece first rest with
    | some symbol => .ok symbol
    | none => .error ⟨"unexpected character '" ++ String.singleton first ++ "'", 0⟩

/-- Whether a character is a gap by itself. -/
def isGap (c : Char) : Bool := c = ' ' || c = '\r' || c = '\t' || c = '\n'

/-- The piece that starts with the given character. -/
def piece (pathOpen : Bool) (first : Char) (rest : List Char) : Except Problem Piece :=
  if isGap first then .ok (.gap 0)
  else if first = '#' then .ok (.gap (rest.takeWhile (· ≠ '\n')).length)
  else if first = '/' ∧ rest.head? = some '*' then
    match blockComment (rest.drop 1) with
    | some length => .ok (.gap (length + 1))
    | none => .error ⟨"unterminated block comment", 0⟩
  else if first = '<' ∧ pathOpen then
    match pathText rest with
    | some path => .ok (.token .path (String.ofList (Text.trim path)) (path.length + 1))
    | none => .error ⟨"unterminated import path, expected '>'", 0⟩
  else if first = '"' ∨ first = '\'' then
    (quotedText first 0 rest).map fun (content, total) =>
      .token .text (String.ofList content) total
  else plainPiece first rest

/-- The tokens from a place on, and the place where the source ends. -/
def scan (place : Place) (pathOpen : Bool) : List Char → Except Fault (List Token × Place)
  | [] => .ok ([], place)
  | first :: rest =>
    match piece pathOpen first rest with
    | .error problem =>
      .error (.malformed problem.message
        (place.after ((first :: rest).take problem.offset)).span)
    | .ok found => do
      let taken := first :: rest.take found.extra
      let (tokens, ending) ←
        scan (place.after taken) (found.opensPath pathOpen) (rest.drop found.extra)
      return (found.tokens place ++ tokens, ending)
termination_by chars => chars.length
decreasing_by
  simp only [List.length_drop, List.length_cons]
  omega

end Lexer

/-- A source as tokens, and where it ends. -/
structure TokenStream where
  /-- The tokens that are left. -/
  ahead : List Token
  /-- Where the source ends. -/
  ending : Span
deriving Repr, Inhabited

/-- Reads a source text as tokens. -/
def TokenStream.ofSource (source : String) : Except Fault TokenStream :=
  (Lexer.scan .start false source.toList).map fun (tokens, ending) => ⟨tokens, ending.span⟩

/-- All tokens of a source, the one at its end included. -/
def TokenStream.toList (stream : TokenStream) : List Token :=
  stream.ahead ++ [.atEnd stream.ending]

end ReactiveScript
