/-! # Reading the text of a document

A cursor walks over the text and knows its place as a line and the number of bytes passed on it. A
problem is reported either at the cursor or, if the next byte is to blame, behind that byte. -/

namespace ReactiveScript

/-- What can be wrong with the text of a document. -/
inductive DocumentProblem where
  | endInArray
  | endInObject
  | endInText
  | endInValue
  | missingColon
  | missingInArray
  | missingInObject
  | unknownWord
  | missingValue
  | invalidEscape
  | invalidNumber
  | outOfRange
  | controlCharacter
  | nameNotText
  | loneSurrogate
  | halfSurrogate
  | trailingComma
  | trailingCharacters
  | tooDeep
  /-- A member that the record read does not have. -/
  | unknownMember (name : String) (known : List String)
  /-- A member that was given before. -/
  | repeatedMember (name : String)
  /-- Something of another kind than expected. -/
  | wrongKind (found expected : String)
  /-- Something of the expected kind that is not allowed. -/
  | wrongValue (found expected : String)
deriving DecidableEq, Repr

/-- The wording of a problem. -/
def DocumentProblem.message : DocumentProblem → String
  | .endInArray => "EOF while parsing a list"
  | .endInObject => "EOF while parsing an object"
  | .endInText => "EOF while parsing a string"
  | .endInValue => "EOF while parsing a value"
  | .missingColon => "expected `:`"
  | .missingInArray => "expected `,` or `]`"
  | .missingInObject => "expected `,` or `\x7d`"
  | .unknownWord => "expected ident"
  | .missingValue => "expected value"
  | .invalidEscape => "invalid escape"
  | .invalidNumber => "invalid number"
  | .outOfRange => "number out of range"
  | .controlCharacter => "control character (\\u0000-\\u001F) found while parsing a string"
  | .nameNotText => "key must be a string"
  | .loneSurrogate => "lone leading surrogate in hex escape"
  | .halfSurrogate => "unexpected end of hex escape"
  | .trailingComma => "trailing comma"
  | .trailingCharacters => "trailing characters"
  | .tooDeep => "recursion limit exceeded"
  | .unknownMember name known =>
    s!"unknown field `{name}`, expected one of " ++
      ", ".intercalate (known.map fun other => s!"`{other}`")
  | .repeatedMember name => s!"duplicate field `{name}`"
  | .wrongKind found expected => s!"invalid type: {found}, expected {expected}"
  | .wrongValue found expected => s!"invalid value: {found}, expected {expected}"

/-- A place in the text of a document. -/
structure DocumentPlace where
  /-- The line, counted from one. -/
  line : Nat
  /-- How many bytes of the line are passed. -/
  column : Nat
deriving DecidableEq, Repr

/-- The beginning of a text. -/
def DocumentPlace.start : DocumentPlace := ⟨1, 0⟩

/-- The place behind a character. -/
def DocumentPlace.pass (place : DocumentPlace) (c : Char) : DocumentPlace :=
  if c = '\n' then ⟨place.line + 1, 0⟩ else { place with column := place.column + c.utf8Size }

/-- The place behind a number of bytes of some characters, if there are as many. -/
def DocumentPlace.passBytes : Nat → DocumentPlace → List Char → Option DocumentPlace
  | 0, place, _ => some place
  | _ + 1, _, [] => none
  | bytes + 1, place, c :: rest =>
    if c.utf8Size ≤ bytes + 1 then
      passBytes (bytes + 1 - c.utf8Size) (place.pass c) rest
    else some { place with column := place.column + (bytes + 1) }

/-- A problem and where it is. -/
structure DocumentFault where
  /-- What is wrong. -/
  problem : DocumentProblem
  /-- Where it is wrong. -/
  place : DocumentPlace
deriving DecidableEq, Repr

/-- A problem with its place in words. -/
def DocumentFault.render (fault : DocumentFault) : String :=
  s!"{fault.problem.message} at line {fault.place.line} column {fault.place.column}"

/-- What is left of a text and where that begins. -/
structure DocumentCursor where
  /-- The place of the next character. -/
  place : DocumentPlace
  /-- The characters that are left. -/
  rest : List Char

/-- A step of reading. -/
abbrev DocumentReader := StateT DocumentCursor (Except DocumentFault)

namespace DocumentCursor

/-- The cursor at the beginning of a text. -/
def ofText (text : String) : DocumentCursor := ⟨.start, text.toList⟩

/-- The cursor behind the next character. -/
def advance (cursor : DocumentCursor) : DocumentCursor :=
  match cursor.rest with
  | [] => cursor
  | c :: rest => ⟨cursor.place.pass c, rest⟩

/-- The place behind the next byte, or the end. -/
def nextPlace (cursor : DocumentCursor) : DocumentPlace :=
  (DocumentPlace.passBytes 1 cursor.place cursor.rest).getD cursor.place

/-- The cursor at the end of the text. -/
def toEnd (cursor : DocumentCursor) : DocumentCursor :=
  ⟨cursor.rest.foldl DocumentPlace.pass cursor.place, []⟩

/-- Whether a character may stand between the parts of a document. -/
def isSpace (c : Char) : Bool := c = ' ' || c = '\n' || c = '\t' || c = '\r'

/-- The cursor behind characters of some kind. -/
def skip (kind : Char → Bool) (cursor : DocumentCursor) : DocumentCursor :=
  ⟨(cursor.rest.takeWhile kind).foldl DocumentPlace.pass cursor.place,
    cursor.rest.dropWhile kind⟩

end DocumentCursor

namespace DocumentReader

/-- A problem at a place. -/
def failAt {α : Type} (place : DocumentPlace) (problem : DocumentProblem) : DocumentReader α :=
  throw ⟨problem, place⟩

/-- A problem at the cursor. -/
def failHere {α : Type} (problem : DocumentProblem) : DocumentReader α := do
  failAt (← get).place problem

/-- A problem with the next byte. -/
def failNext {α : Type} (problem : DocumentProblem) : DocumentReader α := do
  failAt (← get).nextPlace problem

/-- The next character. -/
def peek : DocumentReader (Option Char) := return (← get).rest.head?

/-- Passes over the next character. -/
def advance : DocumentReader Unit := modify DocumentCursor.advance

/-- Passes over blanks, and gives the next character. -/
def peekPart : DocumentReader (Option Char) := do
  modify (·.skip DocumentCursor.isSpace)
  peek

/-- Takes the plain digits that come next. -/
def digits : DocumentReader (List Char) := do
  let cursor ← get
  set (cursor.skip Char.isDigit)
  return cursor.rest.takeWhile Char.isDigit

/-- Takes the letters of a word that has begun. -/
def word : List Char → DocumentReader Unit
  | [] => pure ()
  | letter :: letters => do
    match ← peek with
    | none => failHere .endInValue
    | some c =>
      if c = letter then
        advance
        word letters
      else failNext .unknownWord

end DocumentReader

end ReactiveScript
