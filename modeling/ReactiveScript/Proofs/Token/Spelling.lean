import ReactiveScript.Token.Lexer

/-! # How words are written

A source is written word by word, with gaps of blanks and comments between the words. A text may
stand in quotes of either kind, with the backslash and its own quote escaped and nothing else; a
path stands between angle brackets, and only behind the word that imports. -/

namespace ReactiveScript

/-- A token without its place. -/
abbrev Word := TokenKind × String

/-- A symbol as a word. -/
def Word.symbol (text : String) : Word := (.symbol, text)

/-- What a token is but for its place. -/
def Token.word (token : Token) : Word := (token.kind, token.lexeme)

/-! ## Numerals -/

/-- One or more digits. -/
def IsDigits (chars : List Char) : Prop := chars ≠ [] ∧ chars.all Char.isDigit = true

/-- Nothing, or a point and digits. -/
def IsFraction (chars : List Char) : Prop :=
  chars = [] ∨ ∃ digits, IsDigits digits ∧ chars = '.' :: digits

/-- Nothing, or a mark, a sign that may be missing, and digits. -/
def IsExponent (chars : List Char) : Prop :=
  chars = [] ∨ ∃ mark ∈ ['e', 'E'], ∃ sign ∈ [[], ['+'], ['-']], ∃ digits,
    IsDigits digits ∧ chars = mark :: (sign ++ digits)

/-- Digits, a fraction that may be missing, and an exponent that may be missing. -/
def IsNumeral (chars : List Char) : Prop :=
  ∃ whole fraction exponent, IsDigits whole ∧ IsFraction fraction ∧ IsExponent exponent ∧
    chars = whole ++ fraction ++ exponent

/-! ## Names, symbols and paths -/

/-- A character that starts a name and some that continue it. -/
def IsName (chars : List Char) : Prop :=
  ∃ first more, Lexer.startsName first = true ∧ more.all Lexer.continuesName = true ∧
    chars = first :: more

/-- The characters of every symbol. -/
def symbols : List (List Char) :=
  [['.'], ['.', '.'], ['.', '.', '.'], ['-', '>']] ++ Lexer.plainSymbols.map ([·]) ++
    Lexer.assignSymbols.map ([·]) ++ Lexer.assignSymbols.map ([·, '='])

/-- A path without blanks at its ends that fits between angle brackets. -/
def IsPath (chars : List Char) : Prop := Text.trim chars = chars ∧ '>' ∉ chars ∧ '\n' ∉ chars

/-! ## Words -/

/-- A text inside quotes. -/
def escape (quote : Char) (content : List Char) : List Char :=
  content.flatMap fun c => if c = '\\' ∨ c = quote then ['\\', c] else [c]

/-- **How a word is written.** The quote matters for texts only. -/
def Word.source (quote : Char) : Word → List Char
  | (.imaginary, lexeme) => lexeme.toList ++ ['j']
  | (.text, lexeme) => quote :: (escape quote lexeme.toList ++ [quote])
  | (.path, lexeme) => '<' :: (lexeme.toList ++ ['>'])
  | (_, lexeme) => lexeme.toList

/-- Whether a path may follow a word. -/
def Word.opensPath (word : Word) : Bool := word.1 = .keyword && word.2 = "import"

/-- **What can be written.** Words of each class, where `pathOpen` says whether they directly follow
the word that imports: there and only there a path may stand, and no symbol with a bracket that
would open one. -/
def Word.Valid (pathOpen : Bool) : Word → Prop
  | (.number, lexeme) => IsNumeral lexeme.toList
  | (.imaginary, lexeme) => IsNumeral lexeme.toList
  | (.text, _) => True
  | (.identifier, lexeme) => IsName lexeme.toList ∧ isKeyword lexeme = false
  | (.keyword, lexeme) => isKeyword lexeme = true
  | (.symbol, lexeme) =>
    lexeme.toList ∈ symbols ∧ ¬(pathOpen = true ∧ lexeme.toList.head? = some '<')
  | (.path, lexeme) => pathOpen = true ∧ IsPath lexeme.toList
  | (.ending, _) => False

/-! ## Gaps and whole sources -/

/-- What stands between words. -/
inductive Gap where
  /-- One blank. -/
  | blank (c : Char)
  /-- A comment up to the end of its line. -/
  | line (content : List Char)
  /-- A comment between marks. -/
  | block (content : List Char)
deriving DecidableEq, Repr

namespace Gap

/-- How a gap is written. -/
def source : Gap → List Char
  | .blank c => [c]
  | .line content => '#' :: (content ++ ['\n'])
  | .block content => '/' :: '*' :: (content ++ ['*', '/'])

/-- A blank is one of the four, and no comment holds what ends it. -/
def Valid : Gap → Prop
  | .blank c => c ∈ [' ', '\r', '\t', '\n']
  | .line content => '\n' ∉ content
  | .block content => ¬ ['*', '/'] <:+: content

instance (gap : Gap) : Decidable gap.Valid :=
  match gap with
  | .blank c => inferInstanceAs (Decidable (c ∈ [' ', '\r', '\t', '\n']))
  | .line content => inferInstanceAs (Decidable ('\n' ∉ content))
  | .block content => inferInstanceAs (Decidable (¬ ['*', '/'] <:+: content))

end Gap

/-- How some gaps are written, one behind the other. -/
def gapSource (gaps : List Gap) : List Char := gaps.flatMap Gap.source

/-- A word as it stands in a source. -/
structure Written where
  /-- The word. -/
  word : Word
  /-- The quote around it, if it is a text. -/
  quote : Char
  /-- What stands behind it. -/
  gaps : List Gap
deriving DecidableEq, Repr

namespace Written

/-- How a word and the gaps behind it are written. -/
def source (written : Written) : List Char :=
  written.word.source written.quote ++ gapSource written.gaps

/-- A word that can be written, in one of the two quotes, with gaps that can be written. -/
structure Valid (pathOpen : Bool) (written : Written) : Prop where
  /-- The word can be written. -/
  word : written.word.Valid pathOpen
  /-- The quote is one of the two. -/
  quote : written.quote ∈ ['"', '\'']
  /-- The gaps can be written. -/
  gaps : ∀ gap ∈ written.gaps, gap.Valid

/-- Words that can be written one behind the other: between two words there is a gap. -/
inductive Sequence : Bool → List Written → Prop
  /-- No word. -/
  | nil {pathOpen : Bool} : Sequence pathOpen []
  /-- A word in front of others. -/
  | cons {pathOpen : Bool} {first : Written} {rest : List Written}
      (valid : first.Valid pathOpen) (apart : rest ≠ [] → first.gaps ≠ [])
      (behind : Sequence first.word.opensPath rest) : Sequence pathOpen (first :: rest)

end Written

/-- **A whole source**: some gaps, and words with gaps behind them. -/
def writtenSource (lead : List Gap) (written : List Written) : String :=
  String.ofList (gapSource lead ++ written.flatMap Written.source)

end ReactiveScript
