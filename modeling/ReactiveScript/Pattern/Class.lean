import ReactiveScript.Pattern.Escape
import ReactiveScript.Pattern.Property

/-! # Classes in patterns

Sets of characters between brackets: characters, ranges, named classes and further brackets side by
side, joined by the operations on sets, and turned into their complement by a caret. -/

namespace ReactiveScript

/-- An operation on two classes. -/
inductive ClassOp where
  | both
  | without
  | either

/-- An operation on two sets. -/
def ClassOp.apply : ClassOp → CharSet → CharSet → CharSet
  | .both => .both
  | .without => .without
  | .either => .either

/-- What is around the part of a class that is being read, innermost first. -/
inductive ClassFrame where
  /-- An open bracket behind some sets. -/
  | bracket (before : List CharSet) (negated : Bool) (span : PatternSpan)
  /-- An operation behind its left side. -/
  | operation (op : ClassOp) (left : CharSet)

namespace PatternReader

/-- A set with all cases of its characters, if case does not count. -/
def anyCase (flags : PatternFlags) (set : CharSet) : CharSet :=
  if !flags.caseless then set
  else if flags.wide then .caseless set
  else .plainCaseless set

/-- The class of a single letter; a capital stands for the complement. -/
def letterSet (flags : PatternFlags) (letter : Char) : CharSet :=
  let set :=
    match letter.toLower, flags.wide with
    | 'd', true => .digit
    | 's', true => .blank
    | 'w', true => .word
    | 'd', false => .plainDigit
    | 's', false => .plainBlank
    | _, _ => .plainWord
  if letter.isUpper then .complement set else set

/-- Notes a class that goes beyond the first 128 characters where that is not allowed. -/
def checkLetterClass (span : PatternSpan) (letter : Char) : PatternReader Unit := do
  if !(← flags).wide && letter.isUpper then refuse span .invalidBytes

/-- Notes a character beyond the first 128 where that is not allowed. -/
def checkLiteral (span : PatternSpan) (c : Char) (isByte : Bool) : PatternReader Unit := do
  if !(← flags).wide && 128 ≤ c.toNat then
    refuse span (if isByte then .invalidBytes else .beyondPlain)

/-- The set that a property stands for; a property that is not known is noted. -/
def propertySet (span : PatternSpan) (name : String) (negated : Bool) : PatternReader CharSet := do
  if !(← flags).wide then refuse span .beyondPlain
  match CharSet.ofProperty name with
  | .ok set =>
    let folded := anyCase (← flags) set
    return if negated then .complement folded else folded
  | .error problem =>
    refuse span problem
    return .nothing

/-- An escape or a character of a class, with its part of the pattern. -/
def classAtom : PatternReader (PatternAtom × PatternSpan) := do
  let first ← place
  let atom ←
    match ← peek with
    | some '\\' => escape
    | some c =>
      advance
      pure (.literal c false)
    | none => pure .dot
  return (atom, ⟨first, (← get).place⟩)

/-- The set that an escape or a character of a class stands for. -/
def classSet (atom : PatternAtom) (span : PatternSpan) : PatternReader CharSet := do
  match atom with
  | .literal c isByte =>
    checkLiteral span c isByte
    return .one c
  | .letterClass letter =>
    checkLetterClass span letter
    return letterSet (← flags) letter
  | .property name negated => propertySet span name negated
  | .dot => failAt span .classEscape
  | .anchor _ => failAt span .classEscape

/-- The character that bounds a range. -/
def rangeBound (atom : PatternAtom) (span : PatternSpan) : PatternReader Char := do
  match atom with
  | .literal c isByte =>
    checkLiteral span c isByte
    return c
  | _ => failAt span .classRangeBound

/-- A problem with the innermost bracket, which is not closed. -/
def failUnclosed {α : Type} : List ClassFrame → PatternReader α
  | .bracket _ _ span :: _ => failAt span .classUnclosed
  | .operation .. :: frames => failUnclosed frames
  | [] => failHere .classUnclosed

/-- A character, a range or an escape of a class. -/
def classItem (frames : List ClassFrame) : PatternReader CharSet := do
  let (low, lowSpan) ← classAtom
  skipSpace
  match ← peek with
  | none => failUnclosed frames
  | some '-' =>
    let after ← second true
    if after = some ']' || after = some '-' then classSet low lowSpan
    else
      match ← advancePart with
      | none => failUnclosed frames
      | some _ =>
        let (high, highSpan) ← classAtom
        let span : PatternSpan := ⟨lowSpan.first, highSpan.last⟩
        let least ← rangeBound low lowSpan
        let greatest ← rangeBound high highSpan
        if greatest < least then failAt span .classRange
        else return .between least greatest
  | some _ => classSet low lowSpan

/-- The hyphens at the beginning of a bracket, which stand for themselves. -/
def leadingHyphens (bracket : PatternPlace) : Nat → PatternReader (List CharSet)
  | 0 => return []
  | steps + 1 => do
    match ← peek with
    | some '-' =>
      match ← advancePart with
      | none => failAt (.at bracket) .classUnclosed
      | some _ =>
        let more ← leadingHyphens bracket steps
        return .one '-' :: more
    | _ => return []

/-- Opens a bracket behind some sets; gives the frame and the sets that stand in it so far. -/
def openBracket (before : List CharSet) : PatternReader (ClassFrame × List CharSet) := do
  let bracket ← place
  let negated ←
    match ← advancePart with
    | none => failFrom bracket .classUnclosed
    | some '^' =>
      match ← advancePart with
      | none => failFrom bracket .classUnclosed
      | some _ => pure true
    | some _ => pure false
  let hyphens ← leadingHyphens bracket (← get).rest.length
  let sets ←
    if hyphens.isEmpty && (← peek) = some ']' then
      match ← advancePart with
      | none => failFrom bracket .classUnclosed
      | some _ => pure [CharSet.one ']']
    else pure hyphens
  return (.bracket before negated ⟨bracket, ← place⟩, sets)

/-- A class by name, such as `[:alpha:]`, if one comes next. -/
def namedClass? : PatternReader (Option CharSet) := do
  let cursor ← get
  let taken ← accept ['[', ':']
  let negated ← if taken then accept ['^'] else pure false
  let rest := (← get).rest
  let name := rest.takeWhile (· ≠ ':')
  let found ← if taken then accept (name ++ [':', ']']) else pure false
  match CharSet.named? (String.ofList name), found with
  | some set, true => return some (if negated then .complement set else set)
  | _, _ =>
    set cursor
    return none

/-- The set of what stands in a bracket, and the frames around it. -/
def closeOperation (flags : PatternFlags) (sets : List CharSet) :
    List ClassFrame → CharSet × List ClassFrame
  | .operation op left :: frames =>
    (op.apply (anyCase flags left) (anyCase flags (.ofList sets)), frames)
  | frames => (.ofList sets, frames)

/-- The set of a bracket that is closed. -/
def finishBracket (negated : Bool) (span : PatternSpan) (set : CharSet) :
    PatternReader CharSet := do
  let flags ← flags
  let folded := anyCase flags set
  if negated && !flags.wide then refuse span .invalidBytes
  return if negated then .complement folded else folded

/-- The operation whose sign comes next. -/
def operation? : PatternReader (Option ClassOp) := do
  let doubled := fun c => do
    if (← peek) = some c && (← second false) = some c then accept [c, c] else return false
  if ← doubled '&' then return some .both
  else if ← doubled '-' then return some .without
  else if ← doubled '~' then return some .either
  else return none

/-- A class from the inside of its brackets on, with the sets before the cursor in the innermost
one. No more steps are needed than characters are left. -/
def classWithin : Nat → List ClassFrame → List CharSet → PatternReader CharSet
  | 0, frames, _ => failUnclosed frames
  | steps + 1, frames, sets => do
    skipSpace
    match ← peek with
    | none => failUnclosed frames
    | some '[' =>
      match ← namedClass? with
      | some set => classWithin steps frames (sets ++ [set])
      | none =>
        let (frame, inner) ← openBracket sets
        classWithin steps (frame :: frames) inner
    | some ']' =>
      let (set, around) := closeOperation (← flags) sets frames
      advance
      match around with
      | .bracket before negated span :: outer =>
        let closed ← finishBracket negated ⟨span.first, ← place⟩ set
        if outer.isEmpty then return closed
        else classWithin steps outer (before ++ [closed])
      | _ => return set
    | some _ =>
      match ← operation? with
      | some op =>
        let (set, around) := closeOperation (← flags) sets frames
        classWithin steps (.operation op set :: around) []
      | none =>
        let set ← classItem frames
        classWithin steps frames (sets ++ [set])

/-- A class from its opening bracket on. -/
def bracketClass : PatternReader CharSet := do
  let (frame, sets) ← openBracket []
  classWithin ((← get).rest.length + 1) [frame] sets

end PatternReader

end ReactiveScript
