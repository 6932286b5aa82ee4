import ReactiveScript.Number.Reader
import ReactiveScript.Pattern.Class

/-! # Reading patterns

A pattern is read from left to right with the open groups around the cursor at hand. -/

namespace ReactiveScript

/-- A part of a sequence: a pattern, or flags, which cannot be repeated. -/
inductive PatternItem where
  | pattern (pattern : Pattern)
  | flags

/-- What was read inside the innermost open group. -/
structure PatternLevel where
  /-- The parts of the branch that is being read, last first. -/
  items : List PatternItem
  /-- The branches that were read before it, last first. -/
  branches : List Pattern

namespace PatternLevel

/-- A group of which nothing was read. -/
def empty : PatternLevel := ⟨[], []⟩

/-- The pattern of the branch that is being read. -/
def branch (level : PatternLevel) : Pattern :=
  .sequenceOf (level.items.reverse.filterMap fun
    | .pattern pattern => some pattern
    | .flags => none)

/-- The pattern of the whole group. -/
def pattern (level : PatternLevel) : Pattern :=
  .choiceOf (level.branch :: level.branches).reverse

/-- The group with one more part. -/
def push (level : PatternLevel) (pattern : Pattern) : PatternLevel :=
  { level with items := .pattern pattern :: level.items }

end PatternLevel

/-- An open group. -/
structure PatternFrame where
  /-- What was read around the group. -/
  outer : PatternLevel
  /-- The number under which its match is remembered. -/
  number : Option Nat
  /-- Where it was opened. -/
  span : PatternSpan
  /-- The flags that hold behind the group. -/
  flags : PatternFlags

/-- The flags after a letter is set or cleared, if it is one of a flag. -/
def PatternFlags.change? (flags : PatternFlags) (letter : Char) (value : Bool) :
    Option PatternFlags :=
  match letter with
  | 'i' => some { flags with caseless := value }
  | 'm' => some { flags with multiline := value }
  | 's' => some { flags with dotAll := value }
  | 'U' => some { flags with swapped := value }
  | 'u' => some { flags with wide := value }
  | 'R' => some { flags with anyLine := value }
  | 'x' => some { flags with spaced := value }
  | _ => none

namespace PatternReader

/-- Reads flags up to the colon or bracket behind them; some letters were read before. Gives the
letters with their places, and the flags that they make of the ones before. No more steps are needed
than characters are left. -/
def flagsWithin (changed : PatternFlags) (value : Bool) (seen : List (Char × PatternSpan)) :
    Nat → PatternReader (List (Char × PatternSpan) × PatternFlags)
  | 0 => failHere .flagEnd
  | steps + 1 => do
    let span := (← get).nextSpan
    match ← peek with
    | none => failHere .flagEnd
    | some c =>
      if c = ':' || c = ')' then
        match seen.getLast? with
        | some ('-', negation) => failAt negation .flagNegationDangling
        | _ => return (seen, changed)
      else
        match changed.change? c value with
        | none => if c ≠ '-' then failAt span .flagUnknown
        | some _ => pure ()
        match seen.find? (·.1 = c) with
        | some (_, earlier) =>
          throw { problem := if c = '-' then .flagNegationRepeated else .flagRepeated,
                  span, other := some earlier }
        | none =>
          advance
          flagsWithin ((changed.change? c value).getD changed) (value && c ≠ '-')
            (seen ++ [(c, span)]) steps

/-- Whether a character may stand in the name of a group, at its beginning or behind it. -/
def isNameChar (first : Bool) (c : Char) : Bool :=
  if first then c = '_' || Text.isAlphabetic c
  else c = '_' || c = '.' || c = '[' || c = ']' || Text.isAlphanumeric c

/-- The characters of a name up to its end. -/
def nameChars (first : Bool) : Nat → PatternReader (List Char)
  | 0 => failHere .groupNameEnd
  | steps + 1 => do
    match ← peek with
    | none => failHere .groupNameEnd
    | some c =>
      if c = '>' then return []
      else if isNameChar first c then
        advance
        let more ← nameChars false steps
        return c :: more
      else failNext .groupNameInvalid

/-- The number of a group that is opened. -/
def nextGroup : PatternReader Nat := do
  let number := (← get).groups + 1
  modify ({ · with groups := number })
  return number

/-- Reads the name of a group with a number. -/
def groupName (number : Nat) : PatternReader Unit := do
  let first ← place
  let chars ← nameChars true ((← get).rest.length + 1)
  let span : PatternSpan := ⟨first, ← place⟩
  advance
  if chars.isEmpty then failAt (.at first) .groupNameEmpty
  else
    let name := String.ofList chars
    match (← get).named.find? (·.name = name) with
    | some earlier =>
      throw { problem := .groupNameRepeated, span, other := some earlier.span }
    | none =>
      modify fun cursor => { cursor with named := cursor.named ++ [⟨name, number, span⟩] }

/-- Whether one of some texts comes next; it is taken. -/
def acceptOne : List String → PatternReader Bool
  | [] => return false
  | text :: texts => do
    if ← accept text.toList then return true else acceptOne texts

/-- Opens a group, or reads flags that stand alone. -/
def openGroup (frames : List PatternFrame) (level : PatternLevel) :
    PatternReader (List PatternFrame × PatternLevel) := do
  let bracket := (← get).nextSpan
  let before ← flags
  let frame (number : Option Nat) : PatternFrame := ⟨level, number, bracket, before⟩
  discard advancePart
  if ← acceptOne ["?=", "?!", "?<=", "?<!"] then failFrom bracket.first .lookAround
  else
    let inner ← place
    if ← acceptOne ["?P<", "?<"] then
      let number ← nextGroup
      groupName number
      return (frame (some number) :: frames, .empty)
    else if ← accept ['?'] then
      if (← peek).isNone then failAt bracket .groupUnclosed
      else
        let (letters, changed) ← flagsWithin before true [] ((← get).rest.length + 1)
        let alone := (← peek) = some ')'
        advance
        if alone && letters.isEmpty then failAt (.at inner) .nothingRepeated
        else
          modify ({ · with flags := changed })
          if alone then return (frames, { level with items := .flags :: level.items })
          else return (frame none :: frames, .empty)
    else
      let number ← nextGroup
      return (frame (some number) :: frames, .empty)

/-- Closes the innermost group. -/
def closeGroup (frames : List PatternFrame) (level : PatternLevel) :
    PatternReader (List PatternFrame × PatternLevel) := do
  match frames with
  | [] => failNext .groupUnopened
  | frame :: outer =>
    modify fun cursor => { cursor with flags := frame.flags }
    advance
    let pattern :=
      match frame.number with
      | some number => .group number level.pattern
      | none => level.pattern
    return (outer, frame.outer.push pattern)

/-- Takes the part that a repetition is about off a sequence. -/
def repeated (level : PatternLevel) : PatternReader (Pattern × PatternLevel) := do
  match level.items with
  | .pattern pattern :: before => return (pattern, { level with items := before })
  | _ => failHere .nothingRepeated

/-- Takes the mark that turns the preference of a repetition around; tells whether more rounds are
preferred. -/
def preference : PatternReader Bool := do
  let marked := (← peek) = some '?'
  if marked then advance
  return marked == (← flags).swapped

/-- A repetition by a single mark. -/
def simpleRounds (least : Nat) (most : Option Nat) (level : PatternLevel) :
    PatternReader PatternLevel := do
  let (pattern, before) ← repeated level
  advance
  let greedy ← preference
  return before.push (.rounds least most greedy pattern)

/-- The bound of numbers of rounds. -/
def countBound : Nat := Nat.pow 2 32

/-- A number of rounds, or what is wrong with it. -/
def count : PatternReader (Except PatternFault Nat) := do
  discard <| takeAll Text.isBlank
  let first ← place
  let digits ← takeAll Char.isDigit
  let span : PatternSpan := ⟨first, ← place⟩
  discard <| takeAll Text.isBlank
  if digits.isEmpty then return .error { problem := .countEmpty, span }
  else
    let number := Number.naturalOf digits
    return if number < countBound then .ok number else .error { problem := .numberInvalid, span }

/-- The least and the most rounds between braces. -/
def countBounds (brace : PatternPlace) : PatternReader (Nat × Option Nat) := do
  let least ← count
  match ← peek with
  | none => failFrom brace .countUnclosed
  | some ',' =>
    match ← advancePart with
    | none => failFrom brace .countUnclosed
    | some '}' => return (← least, none)
    | some _ =>
      let fewest ← least
      let most ← ← count
      return (fewest, some most)
  | some _ =>
    let exact ← least
    return (exact, some exact)

/-- A repetition by numbers between braces. -/
def countedRounds (level : PatternLevel) : PatternReader PatternLevel := do
  let brace ← place
  let (pattern, before) ← repeated level
  match ← advancePart with
  | none => failFrom brace .countUnclosed
  | some _ =>
    let (least, most) ← countBounds brace
    if (← peek) ≠ some '}' then failFrom brace .countUnclosed
    else
      discard advancePart
      let greedy ← preference
      if most.any (· < least) then failFrom brace .countRange
      else return before.push (.rounds least most greedy pattern)

/-- The characters that count as those of words. -/
def wordSet (flags : PatternFlags) : CharSet := if flags.wide then .word else .plainWord

/-- The pattern of a smallest part. -/
def atomPattern (atom : PatternAtom) (span : PatternSpan) : PatternReader Pattern := do
  let flags ← flags
  match atom with
  | .literal c isByte =>
    checkLiteral span c isByte
    return .chars (anyCase flags (.one c))
  | .dot =>
    if !flags.wide then refuse span .invalidBytes
    if flags.dotAll then return .chars .all
    else if flags.anyLine then return .chars (.complement (.union (.one '\n') (.one '\r')))
    else return .chars (.complement (.one '\n'))
  | .letterClass letter =>
    checkLetterClass span letter
    return .chars (letterSet flags letter)
  | .property name negated => return .chars (← propertySet span name negated)
  | .anchor kind => return .anchor (wordSet flags) kind

/-- The anchor of a caret. -/
def startAnchor (flags : PatternFlags) : Anchor :=
  if !flags.multiline then .textStart
  else if flags.anyLine then .anyLineStart
  else .lineStart

/-- The anchor of a dollar sign. -/
def endAnchor (flags : PatternFlags) : Anchor :=
  if !flags.multiline then .textEnd
  else if flags.anyLine then .anyLineEnd
  else .lineEnd

/-- A smallest part. -/
def atom (c : Char) : PatternReader PatternAtom := do
  if c = '\\' then escape
  else
    advance
    if c = '.' then return .dot
    else if c = '^' then return .anchor (startAnchor (← flags))
    else if c = '$' then return .anchor (endAnchor (← flags))
    else return .literal c false

/-- Reads the next part of a pattern, which begins with a character. -/
def part (c : Char) (frames : List PatternFrame) (level : PatternLevel) :
    PatternReader (List PatternFrame × PatternLevel) := do
  if c = '(' then openGroup frames level
  else if c = ')' then closeGroup frames level
  else if c = '|' then
    advance
    return (frames, ⟨[], level.branch :: level.branches⟩)
  else if c = '[' then return (frames, level.push (.chars (← bracketClass)))
  else if c = '?' then return (frames, ← simpleRounds 0 (some 1) level)
  else if c = '*' then return (frames, ← simpleRounds 0 none level)
  else if c = '+' then return (frames, ← simpleRounds 1 none level)
  else if c = '{' then return (frames, ← countedRounds level)
  else
    let first ← place
    let read ← atom c
    let pattern ← atomPattern read ⟨first, ← place⟩
    return (frames, level.push pattern)

/-- The pattern at the end of its text. -/
def finish (frames : List PatternFrame) (level : PatternLevel) : PatternReader Pattern := do
  match frames with
  | [] => return level.pattern
  | frame :: _ => failAt frame.span .groupUnclosed

/-- A pattern from the cursor on. No more steps are needed than characters are left. -/
def patternWithin : Nat → List PatternFrame → PatternLevel → PatternReader Pattern
  | 0, frames, level => finish frames level
  | steps + 1, frames, level => do
    skipSpace
    match ← peek with
    | none => finish frames level
    | some c =>
      let (nextFrames, nextLevel) ← part c frames level
      patternWithin steps nextFrames nextLevel

end PatternReader

/-- The pattern that a text spells. -/
def NamedPattern.read (text : String) : Except PatternFault NamedPattern := do
  let (pattern, cursor) ←
    (PatternReader.patternWithin (text.length + 1) [] .empty).run (.ofText text)
  match cursor.refused with
  | some fault => throw fault
  | none =>
    return ⟨pattern, cursor.groups, cursor.named.map fun group => (group.name, group.number)⟩

end ReactiveScript
