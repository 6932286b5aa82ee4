import ReactiveScript.Pattern.Cursor

/-! # Escapes in patterns

What a backslash and the characters behind it stand for: a character, a class or an anchor. -/

namespace ReactiveScript

/-- The smallest parts of a pattern. -/
inductive PatternAtom where
  /-- A character, which may be written as a byte of two digits. -/
  | literal (c : Char) (isByte : Bool)
  | dot
  /-- One of the classes of a single letter. -/
  | letterClass (letter : Char)
  /-- A class given by a property of characters. -/
  | property (name : String) (negated : Bool)
  | anchor (kind : Anchor)

/-- Whether a character means something other than itself in a pattern. -/
def isPatternMark (c : Char) : Bool :=
  ['\\', '.', '+', '*', '?', '(', ')', '|', '[', ']', '{', '}', '^', '$', '#', '&', '-',
    '~'].contains c

/-- Whether a backslash before a character makes it stand for itself. -/
def isEscapable (c : Char) : Bool :=
  isPatternMark c || (c.toNat < 128 && !c.isAlphanum && c ≠ '<' && c ≠ '>')

/-- The control character that a letter behind a backslash stands for. -/
def controlEscape? : Char → Option Char
  | 'a' => some '\x07'
  | 'f' => some '\x0c'
  | 't' => some '\t'
  | 'n' => some '\n'
  | 'r' => some '\r'
  | 'v' => some '\x0b'
  | _ => none

/-- The anchor that a character behind a backslash stands for. -/
def anchorEscape? : Char → Option Anchor
  | 'A' => some .textStart
  | 'z' => some .textEnd
  | 'b' => some .wordEdge
  | 'B' => some .notWordEdge
  | '<' => some .wordStart
  | '>' => some .wordEnd
  | _ => none

/-- The anchor that a word in braces behind `\b` stands for. -/
def wordAnchor? : String → Option Anchor
  | "start" => some .wordStart
  | "end" => some .wordEnd
  | "start-half" => some .wordStartHalf
  | "end-half" => some .wordEndHalf
  | _ => none

/-- Whether a character is a hexadecimal digit. -/
def isHexDigit (c : Char) : Bool :=
  c.isDigit || ('a' ≤ c && c ≤ 'f') || ('A' ≤ c && c ≤ 'F')

/-- The number that hexadecimal digits spell. -/
def hexValue (digits : List Char) : Nat :=
  digits.foldl (fun total c =>
    16 * total + (if c.isDigit then c.toNat - '0'.toNat else c.toLower.toNat - 'a'.toNat + 10)) 0

/-- The character that hexadecimal digits spell. -/
def hexChar? (digits : List Char) : Option Char :=
  let point := hexValue digits
  if point.isValidChar then some (Char.ofNat point) else none

/-- How many digits a hexadecimal escape by a letter has. -/
def hexWidth : Char → Nat
  | 'x' => 2
  | 'u' => 4
  | _ => 8

namespace PatternReader

/-- A number of hexadecimal digits, the first of which is known to be there. -/
def hexDigits : Nat → PatternReader (List Char)
  | 0 => return []
  | count + 1 => do
    match ← peek with
    | none => failHere .escapeEnd
    | some c =>
      if isHexDigit c then
        discard advancePart
        let more ← hexDigits count
        return c :: more
      else failNext .hexDigit

/-- A character by its number in hexadecimal digits, behind the letter that announces it. -/
def hexEscape (letter : Char) : PatternReader PatternAtom := do
  match ← advancePart with
  | none => failHere .escapeEnd
  | some '{' =>
    let brace ← place
    let inside := (← get).advance.place
    discard advancePart
    let digits ← takeAll isHexDigit
    match ← peek with
    | none => failFrom brace .escapeEnd
    | some c =>
      if c ≠ '}' then failNext .hexDigit
      else
        let close ← place
        discard advancePart
        if digits.isEmpty then failFrom brace .hexEmpty
        else
          match hexChar? digits with
          | some meant => return .literal meant false
          | none => failAt ⟨inside, close⟩ .hexInvalid
  | some _ =>
    let first ← place
    let digits ← hexDigits (hexWidth letter)
    match hexChar? digits with
    | some meant => return .literal meant (letter = 'x')
    | none => failFrom first .hexInvalid

/-- A class given by a property, behind the letter that announces it. -/
def propertyEscape (negated : Bool) : PatternReader PatternAtom := do
  match ← advancePart with
  | none => failHere .escapeEnd
  | some '{' =>
    discard advancePart
    let name ← takeAll (· ≠ '}')
    match ← peek with
    | none => failHere .escapeEnd
    | some _ =>
      advance
      return .property (String.ofList name) negated
  | some '\\' => failNext .propertyForm
  | some c =>
    discard advancePart
    return .property (String.singleton c) negated

/-- Whether a character may stand in the word of an anchor. -/
def isAnchorLetter (c : Char) : Bool := c.isAlpha || c = '-'

/-- The anchor that a word in braces makes of `\b`, which begins at a place. Braces that do not
begin with a letter are left alone, as they may hold a number of rounds. -/
def wordAnchor (first : PatternPlace) : PatternReader Anchor := do
  let cursor ← get
  match ← advancePart with
  | none => failFrom first .wordEdgeEnd
  | some c =>
    if isAnchorLetter c then
      let contents ← place
      let word ← takeAll isAnchorLetter
      if (← peek) ≠ some '}' then failFrom cursor.place .wordEdgeUnclosed
      else
        let close ← place
        advance
        match wordAnchor? (String.ofList word) with
        | some anchor => return anchor
        | none => failAt ⟨contents, close⟩ .wordEdgeUnknown
    else
      set cursor
      return .wordEdge

/-- What a backslash and the characters behind it stand for. -/
def escape : PatternReader PatternAtom := do
  let first ← place
  advance
  match ← peek with
  | none => failFrom first .escapeEnd
  | some c =>
    if c.isDigit then failAt ⟨first, (← get).nextSpan.last⟩ .backreference
    else if c = 'x' || c = 'u' || c = 'U' then hexEscape c
    else if c = 'p' || c = 'P' then propertyEscape (c = 'P')
    else
      advance
      if ['d', 's', 'w', 'D', 'S', 'W'].contains c then return .letterClass c
      else if isEscapable c then return .literal c false
      else
        match controlEscape? c, anchorEscape? c with
        | some meant, _ => return .literal meant false
        | none, some .wordEdge =>
          if (← peek) = some '{' then return .anchor (← wordAnchor first)
          else return .anchor .wordEdge
        | none, some anchor => return .anchor anchor
        | none, none => failFrom first .escapeUnknown

end PatternReader

end ReactiveScript
