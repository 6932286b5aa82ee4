import ReactiveScript.Json.Numeral

/-! # Reading documents

Texts, arrays, objects and whole documents. Containers may stand inside each other down to a
limit. -/

namespace ReactiveScript

namespace DocumentReader

/-- The value of a hexadecimal digit. -/
def hexDigit? (c : Char) : Option Nat :=
  if '0' ≤ c ∧ c ≤ '9' then some (c.toNat - '0'.toNat)
  else if 'a' ≤ c ∧ c ≤ 'f' then some (c.toNat - 'a'.toNat + 10)
  else if 'A' ≤ c ∧ c ≤ 'F' then some (c.toNat - 'A'.toNat + 10)
  else none

/-- The number that four hexadecimal digits spell. -/
def hexUnit? (chars : List Char) : Option Nat := do
  let values ← (chars.take 4).mapM hexDigit?
  if values.length = 4 then some (values.foldl (fun total digit => 16 * total + digit) 0) else none

/-- Takes four hexadecimal digits. -/
def hexUnit : DocumentReader Nat := do
  let cursor ← get
  match hexUnit? cursor.rest with
  | some unit =>
    set (cursor.advance.advance.advance.advance)
    return unit
  | none =>
    match DocumentPlace.passBytes 4 cursor.place cursor.rest with
    | some place => failAt place .invalidEscape
    | none => failAt cursor.toEnd.place .endInText

/-- Takes a character that has to follow the first half of a pair. -/
def pairMark (mark : Char) : DocumentReader Unit := do
  match ← peek with
  | none => failHere .endInText
  | some c => if c = mark then advance else failNext .halfSurrogate

/-- The character of an escape by number, of which two make a character beyond `U+FFFF`. -/
def unicodeEscape : DocumentReader Char := do
  let unit ← hexUnit
  if 0xDC00 ≤ unit ∧ unit ≤ 0xDFFF then failHere .loneSurrogate
  else if 0xD800 ≤ unit ∧ unit ≤ 0xDBFF then
    pairMark '\\'
    pairMark 'u'
    let second ← hexUnit
    if 0xDC00 ≤ second ∧ second ≤ 0xDFFF then
      return Char.ofNat ((unit - 0xD800) * 0x400 + (second - 0xDC00) + 0x10000)
    else failHere .loneSurrogate
  else return Char.ofNat unit

/-- The character that a letter behind a backslash stands for. -/
def plainEscape? : Char → Option Char
  | '"' => some '"'
  | '\\' => some '\\'
  | '/' => some '/'
  | 'b' => some '\x08'
  | 'f' => some '\x0c'
  | 'n' => some '\n'
  | 'r' => some '\r'
  | 't' => some '\t'
  | _ => none

/-- The character of an escape behind its backslash. -/
def escape : DocumentReader Char := do
  match ← peek with
  | none => failHere .endInText
  | some 'u' =>
    advance
    unicodeEscape
  | some c =>
    match plainEscape? c with
    | some meant =>
      advance
      return meant
    | none => failNext .invalidEscape

/-- The characters of a text up to its closing quote, of which some are read and stand last first.
No more steps are needed than characters are left. -/
def textWithin : Nat → List Char → DocumentReader (List Char)
  | 0, _ => failHere .endInText
  | steps + 1, before => do
    match ← peek with
    | none => failHere .endInText
    | some '"' =>
      advance
      return before.reverse
    | some '\\' =>
      advance
      let c ← escape
      textWithin steps (c :: before)
    | some c =>
      if c.toNat < 0x20 then failNext .controlCharacter
      else
        advance
        textWithin steps (c :: before)

/-- A text from its opening quote on. -/
def text : DocumentReader String := do
  advance
  let chars ← textWithin ((← get).rest.length + 1) []
  return String.ofList chars

/-- Whether another item of an array follows. -/
def hasItem (first : Bool) : DocumentReader Bool := do
  match ← peekPart with
  | none => failNext .endInArray
  | some ']' => return false
  | some c =>
    if first then return true
    else if c = ',' then
      advance
      match ← peekPart with
      | none => failNext .endInValue
      | some ']' => failNext .trailingComma
      | some _ => return true
    else failNext .missingInArray

/-- Whether another member of an object follows. -/
def hasMember (first : Bool) : DocumentReader Bool := do
  match ← peekPart with
  | none => failNext .endInObject
  | some '}' => return false
  | some c =>
    if first then
      if c = '"' then return true else failNext .nameNotText
    else if c = ',' then
      advance
      match ← peekPart with
      | none => failNext .endInValue
      | some '"' => return true
      | some '}' => failNext .trailingComma
      | some _ => failNext .nameNotText
    else failNext .missingInObject

/-- Takes the colon behind the name of a member. -/
def colon : DocumentReader Unit := do
  match ← peekPart with
  | some ':' => advance
  | some _ => failNext .missingColon
  | none => failNext .endInObject

/-- Takes the closing bracket of an array. -/
def endArray : DocumentReader Unit := do
  match ← peekPart with
  | some ']' => advance
  | some ',' =>
    advance
    match ← peekPart with
    | some ']' => failNext .trailingComma
    | _ => failNext .trailingCharacters
  | some _ => failNext .trailingCharacters
  | none => failNext .endInArray

/-- Takes the closing bracket of an object. -/
def endObject : DocumentReader Unit := do
  match ← peekPart with
  | some '}' => advance
  | some ',' => failNext .trailingComma
  | some _ => failNext .trailingCharacters
  | none => failNext .endInObject

/-- The items of an array. No more steps are needed than characters are left. -/
def itemsWithin {α : Type} (item : DocumentReader α) : Nat → Bool → DocumentReader (List α)
  | 0, _ => failNext .endInArray
  | steps + 1, first => do
    if ← hasItem first then
      let value ← item
      let values ← itemsWithin item steps false
      return value :: values
    else return []

/-- An array from its opening bracket on. -/
def array {α : Type} (item : DocumentReader α) : DocumentReader (List α) := do
  advance
  let values ← itemsWithin item ((← get).rest.length + 1) true
  endArray
  return values

/-- The members of an object. No more steps are needed than characters are left. -/
def membersWithin {α : Type} (member : DocumentReader α) :
    Nat → Bool → DocumentReader (List (String × α))
  | 0, _ => failNext .endInObject
  | steps + 1, first => do
    if ← hasMember first then
      let name ← text
      colon
      let value ← member
      let values ← membersWithin member steps false
      return (name, value) :: values
    else return []

/-- An object from its opening bracket on. -/
def object {α : Type} (member : DocumentReader α) : DocumentReader (List (String × α)) := do
  advance
  let values ← membersWithin member ((← get).rest.length + 1) true
  endObject
  return values

/-- A document whose containers are read as given. -/
def documentWith (arrays objects : DocumentReader Document) : DocumentReader Document := do
  match ← peekPart with
  | none => failNext .endInValue
  | some 'n' =>
    advance
    word "ull".toList
    return .null
  | some 't' =>
    advance
    word "rue".toList
    return .boolean true
  | some 'f' =>
    advance
    word "alse".toList
    return .boolean false
  | some '-' =>
    advance
    return (← numeral true).toDocument
  | some '"' => return .text (← text)
  | some '[' => arrays
  | some '{' => objects
  | some c =>
    if c.isDigit then return (← numeral false).toDocument
    else failNext .missingValue

/-- A document with at most so many containers inside each other. -/
def documentWithin : Nat → DocumentReader Document
  | 0 => documentWith (failNext .tooDeep) (failNext .tooDeep)
  | levels + 1 =>
    documentWith (do return .array (← array (documentWithin levels)))
      (do return .ofMembers Document.insertMember (← object (documentWithin levels)))

/-- Nothing but blanks up to the end. -/
def ending : DocumentReader Unit := do
  match ← peekPart with
  | none => pure ()
  | some _ => failNext .trailingCharacters

/-- How many containers may stand inside each other. -/
def levelLimit : Nat := 127

/-- What a whole text is read as. -/
def whole {α : Type} (reader : DocumentReader α) (text : String) : Except DocumentFault α := do
  let (value, _) ← StateT.run (do let value ← reader; ending; return value) (.ofText text)
  return value

end DocumentReader

/-- The document that a text spells. -/
def Document.read (text : String) : Except DocumentFault Document :=
  DocumentReader.whole (DocumentReader.documentWithin DocumentReader.levelLimit) text

end ReactiveScript
