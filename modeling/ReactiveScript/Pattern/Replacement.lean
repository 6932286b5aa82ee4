import ReactiveScript.Number.Reader
import ReactiveScript.Pattern.Search

/-! # Replacing

The text that takes the place of a match may refer to the groups of the match by number or name
behind a dollar sign, with or without braces. A doubled dollar sign stands for one. -/

namespace ReactiveScript

/-- A piece of a replacement. -/
inductive ReplacementPiece where
  | text (chars : List Char)
  /-- The text that a group has matched. -/
  | group (reference : String)

/-- Whether a character may stand in a reference without braces. -/
def isReferenceChar (c : Char) : Bool := c.isAlphanum || c = '_'

/-- The reference at the beginning of what follows a dollar sign, and how many characters it
takes. -/
def reference? (chars : List Char) : Option (String × Nat) :=
  match chars with
  | '{' :: inside =>
    let name := inside.takeWhile (· ≠ '}')
    if name.length < inside.length then some (String.ofList name, name.length + 2) else none
  | _ =>
    let name := chars.takeWhile isReferenceChar
    if name.isEmpty then none else some (String.ofList name, name.length)

/-- The pieces of a replacement, after some characters that still belong to the last piece. -/
def replacementPieces : Nat → List Char → List ReplacementPiece
  | _, [] => []
  | skipped + 1, _ :: rest => replacementPieces skipped rest
  | 0, c :: rest =>
    if c ≠ '$' then .text [c] :: replacementPieces 0 rest
    else if rest.head? = some '$' then .text ['$'] :: replacementPieces 1 rest
    else
      match reference? rest with
      | some (name, length) => .group name :: replacementPieces length rest
      | none => .text ['$'] :: replacementPieces 0 rest

/-- The number that a reference spells. -/
def referenceNumber? (reference : String) : Option Nat :=
  let digits :=
    match reference.toList with
    | '+' :: rest => rest
    | chars => chars
  (Number.readNatural digits).filter (· < Nat.pow 2 64)

/-- The group that a reference means. -/
def NamedPattern.groupOf? (named : NamedPattern) (reference : String) : Option Nat :=
  match referenceNumber? reference with
  | some number => some number
  | none => (named.names.find? (·.1 = reference)).map Prod.snd

namespace NamedPattern

/-- What a replacement becomes for a match in a text. -/
def expand (named : NamedPattern) (text : List Char) (found : PatternMatch)
    (pieces : List ReplacementPiece) : List Char :=
  pieces.flatMap fun
    | .text chars => chars
    | .group reference =>
      match named.groupOf? reference with
      | some number => found.groupText text number
      | none => []

/-- A text from a place on, with each of some matches replaced. -/
def replaceFrom (named : NamedPattern) (text : List Char) (pieces : List ReplacementPiece)
    (place : Nat) : List PatternMatch → List Char
  | [] => text.drop place
  | found :: rest =>
    between text place found.first ++ named.expand text found pieces ++
      named.replaceFrom text pieces found.last rest

/-- A text with every match of a pattern replaced. -/
def replaceAll (named : NamedPattern) (text replacement : List Char) : List Char :=
  named.replaceFrom text (replacementPieces 0 replacement) 0 (named.machine.matchesIn text)

/-- The parts of a text that match a pattern. -/
def findAll (named : NamedPattern) (text : List Char) : List (List Char) :=
  (named.machine.matchesIn text).map fun found => between text found.first found.last

end NamedPattern

end ReactiveScript
