import ReactiveScript.Text.Blank
import ReactiveScript.Text.Casing
import ReactiveScript.Text.Category
import ReactiveScript.Text.Word

/-! # Sets of characters

What one place of a pattern may match, built from ranges and classes by the operations on sets. -/

namespace ReactiveScript

/-- A set of characters. -/
inductive CharSet where
  | nothing
  | between (first last : Char)
  /-- The decimal digits. -/
  | digit
  /-- The blank characters. -/
  | blank
  /-- The characters of words. -/
  | word
  /-- The letters. -/
  | letter
  /-- The lower case characters. -/
  | lower
  /-- The upper case characters. -/
  | upper
  /-- The characters of some categories. -/
  | category (kinds : List Text.Category)
  /-- The characters of a table. -/
  | table (ranges : Text.Ranges)
  | union (left right : CharSet)
  | both (left right : CharSet)
  | without (left right : CharSet)
  /-- What is in one of the two but not in both. -/
  | either (left right : CharSet)
  | complement (inner : CharSet)
  /-- Every character one of whose cases is in a set. -/
  | caseless (inner : CharSet)
  /-- As `caseless`, for the first 128 characters only. -/
  | plainCaseless (inner : CharSet)

namespace CharSet

/-- All cases of a letter among the first 128 characters. -/
def plainCases (c : Char) : List Char := [c, c.toLower, c.toUpper]

/-- Whether a character is in a set. -/
def holds : CharSet → Char → Bool
  | .nothing, _ => false
  | .between first last, c => first ≤ c && c ≤ last
  | .digit, c => Text.isDecimalDigit c
  | .blank, c => Text.isBlank c
  | .word, c => Text.isWord c
  | .letter, c => Text.isAlphabetic c
  | .lower, c => Text.isLower c
  | .upper, c => Text.isUpper c
  | .category kinds, c => kinds.contains (Text.category c)
  | .table ranges, c => ranges.holds c
  | .union left right, c => left.holds c || right.holds c
  | .both left right, c => left.holds c && right.holds c
  | .without left right, c => left.holds c && !right.holds c
  | .either left right, c => left.holds c != right.holds c
  | .complement inner, c => !inner.holds c
  | .caseless inner, c => (Text.casesOf c).any inner.holds
  | .plainCaseless inner, c => (plainCases c).any inner.holds

/-- The set of one character. -/
def one (c : Char) : CharSet := .between c c

/-- The set of all characters. -/
def all : CharSet := .complement .nothing

/-- The union of some sets. -/
def ofList (sets : List CharSet) : CharSet := sets.foldr .union .nothing

/-- The first 128 characters. -/
def plain : CharSet := .between '\x00' '\x7f'

/-- The plain digits. -/
def plainDigit : CharSet := .between '0' '9'

/-- The plain small letters. -/
def plainLower : CharSet := .between 'a' 'z'

/-- The plain capital letters. -/
def plainUpper : CharSet := .between 'A' 'Z'

/-- The plain letters. -/
def plainLetter : CharSet := .union plainLower plainUpper

/-- The plain letters and digits. -/
def plainAlphanumeric : CharSet := .union plainLetter plainDigit

/-- The plain characters of words. -/
def plainWord : CharSet := .union plainAlphanumeric (one '_')

/-- The plain blank characters. -/
def plainBlank : CharSet := .union (.between '\t' '\r') (one ' ')

/-- The plain characters that show. -/
def plainGraph : CharSet := .between '!' '~'

/-- The digits of base sixteen. -/
def hexDigit : CharSet := ofList [plainDigit, .between 'a' 'f', .between 'A' 'F']

/-- The class that a name stands for inside brackets. -/
def named? : String → Option CharSet
  | "alnum" => some plainAlphanumeric
  | "alpha" => some plainLetter
  | "ascii" => some plain
  | "blank" => some (.union (one '\t') (one ' '))
  | "cntrl" => some (.union (.between '\x00' '\x1f') (one '\x7f'))
  | "digit" => some plainDigit
  | "graph" => some plainGraph
  | "lower" => some plainLower
  | "print" => some (.between ' ' '~')
  | "punct" => some (.without plainGraph plainAlphanumeric)
  | "space" => some plainBlank
  | "upper" => some plainUpper
  | "word" => some plainWord
  | "xdigit" => some hexDigit
  | _ => none

@[simp] theorem holds_one (c d : Char) : (one c).holds d = decide (c = d) := by
  simp only [one, holds, ← Bool.decide_and]
  congr 1
  exact propext
    ⟨fun ⟨below, above⟩ => Char.le_antisymm below above, fun same => by subst same; simp⟩

end CharSet

end ReactiveScript
