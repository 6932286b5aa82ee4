import ReactiveScript.Pattern.Basic
import ReactiveScript.Pattern.Fault
import ReactiveScript.Text.Numeric

/-! # Reading the text of a pattern

A cursor walks over the text of a pattern and carries what the rest of the text depends on: the
flags that hold, and the groups that were opened. A part that can be read but has no meaning is
noted, and refused only if the whole text can be read. -/

namespace ReactiveScript

/-- The flags of a pattern. -/
structure PatternFlags where
  /-- Letters match all their cases. -/
  caseless : Bool := false
  /-- Line anchors match at every line. -/
  multiline : Bool := false
  /-- The dot matches line ends too. -/
  dotAll : Bool := false
  /-- Repetitions prefer fewer rounds, and those marked as such more. -/
  swapped : Bool := false
  /-- Classes go beyond the first 128 characters. -/
  wide : Bool := true
  /-- A carriage return also ends a line. -/
  anyLine : Bool := false
  /-- Blanks and comments between the parts do not count. -/
  spaced : Bool := false
deriving DecidableEq, Repr

/-- A group that has a name. -/
structure NamedGroup where
  /-- The name of the group. -/
  name : String
  /-- The number of the group. -/
  number : Nat
  /-- Where the name stands. -/
  span : PatternSpan

/-- What is left of a pattern, and what it depends on. -/
structure PatternCursor where
  /-- The place of the next character. -/
  place : PatternPlace
  /-- The characters that are left. -/
  rest : List Char
  /-- The flags that hold. -/
  flags : PatternFlags
  /-- How many groups were opened. -/
  groups : Nat
  /-- The groups that have names, in order. -/
  named : List NamedGroup
  /-- The first part that has no meaning. -/
  refused : Option PatternFault

/-- A step of reading a pattern. -/
abbrev PatternReader := StateT PatternCursor (Except PatternFault)

/-- The characters behind the blanks and comments at the beginning, with the place there. Inside a
comment everything up to the end of the line is passed over. -/
def skipSpaced (inComment : Bool) (place : PatternPlace) :
    List Char → PatternPlace × List Char
  | [] => (place, [])
  | c :: rest =>
    if inComment then skipSpaced (c ≠ '\n') (place.pass c) rest
    else if c = '#' then skipSpaced true (place.pass c) rest
    else if Text.isBlank c then skipSpaced false (place.pass c) rest
    else (place, c :: rest)

namespace PatternCursor

/-- The cursor at the beginning of a pattern. -/
def ofText (text : String) : PatternCursor := ⟨.start, text.toList, {}, 0, [], none⟩

/-- The cursor behind the next character. -/
def advance (cursor : PatternCursor) : PatternCursor :=
  match cursor.rest with
  | [] => cursor
  | c :: rest => { cursor with place := cursor.place.pass c, rest }

/-- The cursor behind blanks and comments, if those do not count. -/
def skipSpace (cursor : PatternCursor) : PatternCursor :=
  if cursor.flags.spaced then
    let (place, rest) := skipSpaced false cursor.place cursor.rest
    { cursor with place, rest }
  else cursor

/-- The part that the next character is. -/
def nextSpan (cursor : PatternCursor) : PatternSpan := ⟨cursor.place, cursor.advance.place⟩

end PatternCursor

namespace PatternReader

/-- A problem with a part of the pattern. -/
def failAt {α : Type} (span : PatternSpan) (problem : PatternProblem) : PatternReader α :=
  throw { problem, span }

/-- A problem at the cursor. -/
def failHere {α : Type} (problem : PatternProblem) : PatternReader α := do
  failAt (.at (← get).place) problem

/-- A problem with the next character. -/
def failNext {α : Type} (problem : PatternProblem) : PatternReader α := do
  failAt (← get).nextSpan problem

/-- A problem with the part from a place up to the cursor. -/
def failFrom {α : Type} (first : PatternPlace) (problem : PatternProblem) : PatternReader α := do
  failAt ⟨first, (← get).place⟩ problem

/-- Notes that a part has no meaning. -/
def refuse (span : PatternSpan) (problem : PatternProblem) : PatternReader Unit :=
  modify fun cursor => { cursor with refused := cursor.refused.or (some { problem, span }) }

/-- The place of the cursor. -/
def place : PatternReader PatternPlace := return (← get).place

/-- The flags that hold. -/
def flags : PatternReader PatternFlags := return (← get).flags

/-- The next character. -/
def peek : PatternReader (Option Char) := return (← get).rest.head?

/-- Passes over the next character. -/
def advance : PatternReader Unit := modify PatternCursor.advance

/-- Passes over blanks and comments, if those do not count. -/
def skipSpace : PatternReader Unit := modify PatternCursor.skipSpace

/-- Passes over the next character and the blanks behind it, and gives the character after that. -/
def advancePart : PatternReader (Option Char) := do
  advance
  skipSpace
  peek

/-- The character after the next one; blanks between them do not count if so said. -/
def second (spaced : Bool) : PatternReader (Option Char) := do
  let next := (← get).advance
  return (if spaced then next.skipSpace else next).rest.head?

/-- Takes a text if it comes next. -/
def accept (text : List Char) : PatternReader Bool := do
  let cursor ← get
  if text.isPrefixOf cursor.rest then
    set (text.foldl (fun cursor _ => cursor.advance) cursor)
    return true
  else return false

/-- Takes characters as long as they are of some kind; blanks between them do not count. No more
steps are needed than characters are left. -/
def takeParts (kind : Char → Bool) : Nat → PatternReader (List Char)
  | 0 => return []
  | steps + 1 => do
    match ← peek with
    | none => return []
    | some c =>
      if kind c then
        discard advancePart
        let taken ← takeParts kind steps
        return c :: taken
      else return []

/-- Takes all characters of some kind. -/
def takeAll (kind : Char → Bool) : PatternReader (List Char) := do
  takeParts kind (← get).rest.length

end PatternReader

end ReactiveScript
