import ReactiveScript.Pattern.CharSet

/-! # Patterns

A pattern describes texts: single characters, sequences, choices in order of preference, repetitions
that prefer more or fewer rounds, places between characters, and groups whose match is
remembered. -/

namespace ReactiveScript

/-- A condition on a place between two characters. -/
inductive Anchor where
  | textStart
  | textEnd
  | lineStart
  | lineEnd
  /-- As `lineStart`, where a carriage return also ends a line. -/
  | anyLineStart
  /-- As `lineEnd`, where a carriage return also ends a line. -/
  | anyLineEnd
  | wordEdge
  | notWordEdge
  | wordStart
  | wordEnd
  | wordStartHalf
  | wordEndHalf
deriving DecidableEq, Repr

/-- Whether a condition holds between two characters, one or both of which may be missing, for a
given set of word characters. -/
def Anchor.holds (words : CharSet) (before after : Option Char) : Anchor → Bool
  | .textStart => before.isNone
  | .textEnd => after.isNone
  | .lineStart => before.all (· = '\n')
  | .lineEnd => after.all (· = '\n')
  | .anyLineStart =>
    before.all (· = '\n') || (before = some '\r' && after ≠ some '\n')
  | .anyLineEnd =>
    after.all (· = '\r') || (after = some '\n' && before ≠ some '\r')
  | .wordEdge => before.any words.holds != after.any words.holds
  | .notWordEdge => before.any words.holds == after.any words.holds
  | .wordStart => !before.any words.holds && after.any words.holds
  | .wordEnd => before.any words.holds && !after.any words.holds
  | .wordStartHalf => !before.any words.holds
  | .wordEndHalf => !after.any words.holds

/-- A pattern. -/
inductive Pattern where
  | empty
  | chars (set : CharSet)
  | anchor (words : CharSet) (kind : Anchor)
  /-- A pattern whose match is remembered under a number. -/
  | group (number : Nat) (inner : Pattern)
  | sequence (first second : Pattern)
  /-- The first pattern, or else the second. -/
  | choice (first second : Pattern)
  /-- A number of rounds from the least to the most, if there is a most, with a preference for more
  rounds if so said. -/
  | rounds (least : Nat) (most : Option Nat) (greedy : Bool) (inner : Pattern)

namespace Pattern

/-- Patterns in sequence. -/
def sequenceOf : List Pattern → Pattern
  | [] => .empty
  | [pattern] => pattern
  | pattern :: patterns => .sequence pattern (sequenceOf patterns)

/-- A choice between patterns. -/
def choiceOf : List Pattern → Pattern
  | [] => .empty
  | [pattern] => pattern
  | pattern :: patterns => .choice pattern (choiceOf patterns)

/-- Whether every match of a pattern has a character. -/
def alwaysConsumes : Pattern → Bool
  | .empty => false
  | .chars _ => true
  | .anchor .. => false
  | .group _ inner => inner.alwaysConsumes
  | .sequence first second => first.alwaysConsumes || second.alwaysConsumes
  | .choice first second => first.alwaysConsumes && second.alwaysConsumes
  | .rounds least _ _ inner => 0 < least && inner.alwaysConsumes

/-- How many states the machine of a pattern has, about: one for every character, anchor and fork,
and two for every group, as often as they are repeated. -/
def states : Pattern → Nat
  | .empty => 0
  | .chars _ => 1
  | .anchor .. => 1
  | .group _ inner => inner.states + 2
  | .sequence first second => first.states + second.states
  | .choice first second => first.states + second.states + 1
  | .rounds least none _ inner => max least 1 * inner.states + 1
  | .rounds least (some most) _ inner => max least most * inner.states + (most - least)

end Pattern

/-- A pattern with what its groups are called. -/
structure NamedPattern where
  /-- The pattern. -/
  pattern : Pattern
  /-- How many groups it has. -/
  groups : Nat
  /-- The numbers of the groups that have names. -/
  names : List (String × Nat)

end ReactiveScript
