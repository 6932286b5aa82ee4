import ReactiveScript.Text.Lines

/-! # What can be wrong with a pattern

A problem points at a part of the pattern, and sometimes at a second part that it clashes with. It
is shown below the lines of the pattern with carets under the parts. -/

namespace ReactiveScript

/-- What can be wrong with the text of a pattern. -/
inductive PatternProblem where
  | classEscape
  | classRange
  | classRangeBound
  | classUnclosed
  | numberInvalid
  | hexEmpty
  | hexInvalid
  | hexDigit
  | escapeEnd
  | escapeUnknown
  | flagNegationDangling
  | flagRepeated
  | flagNegationRepeated
  | flagEnd
  | flagUnknown
  | groupNameRepeated
  | groupNameEmpty
  | groupNameInvalid
  | groupNameEnd
  | groupUnclosed
  | groupUnopened
  | countRange
  | countEmpty
  | countUnclosed
  | nothingRepeated
  | wordEdgeUnclosed
  | wordEdgeUnknown
  | wordEdgeEnd
  | propertyForm
  | backreference
  | lookAround
  | propertyUnknown
  | propertyValueUnknown
  | beyondPlain
  | invalidBytes
deriving DecidableEq, Repr

/-- The wording of a problem. -/
def PatternProblem.message : PatternProblem → String
  | .classEscape => "invalid escape sequence found in character class"
  | .classRange => "invalid character class range, the start must be <= the end"
  | .classRangeBound => "invalid range boundary, must be a literal"
  | .classUnclosed => "unclosed character class"
  | .numberInvalid => "decimal literal invalid"
  | .hexEmpty => "hexadecimal literal empty"
  | .hexInvalid => "hexadecimal literal is not a Unicode scalar value"
  | .hexDigit => "invalid hexadecimal digit"
  | .escapeEnd => "incomplete escape sequence, reached end of pattern prematurely"
  | .escapeUnknown => "unrecognized escape sequence"
  | .flagNegationDangling => "dangling flag negation operator"
  | .flagRepeated => "duplicate flag"
  | .flagNegationRepeated => "flag negation operator repeated"
  | .flagEnd => "expected flag but got end of regex"
  | .flagUnknown => "unrecognized flag"
  | .groupNameRepeated => "duplicate capture group name"
  | .groupNameEmpty => "empty capture group name"
  | .groupNameInvalid => "invalid capture group character"
  | .groupNameEnd => "unclosed capture group name"
  | .groupUnclosed => "unclosed group"
  | .groupUnopened => "unopened group"
  | .countRange => "invalid repetition count range, the start must be <= the end"
  | .countEmpty => "repetition quantifier expects a valid decimal"
  | .countUnclosed => "unclosed counted repetition"
  | .nothingRepeated => "repetition operator missing expression"
  | .wordEdgeUnclosed =>
    "special word boundary assertion is either unclosed or contains an invalid character"
  | .wordEdgeUnknown =>
    "unrecognized special word boundary assertion, " ++
      "valid choices are: start, end, start-half or end-half"
  | .wordEdgeEnd =>
    "found either the beginning of a special word boundary or a bounded repetition on a \\b " ++
      "with an opening brace, but no closing brace"
  | .propertyForm => "invalid Unicode character class"
  | .backreference => "backreferences are not supported"
  | .lookAround => "look-around, including look-ahead and look-behind, is not supported"
  | .propertyUnknown => "Unicode property not found"
  | .propertyValueUnknown => "Unicode property value not found"
  | .beyondPlain => "Unicode not allowed here"
  | .invalidBytes => "pattern can match invalid UTF-8"

/-- A place in a pattern. -/
structure PatternPlace where
  /-- The line, counted from one. -/
  line : Nat
  /-- The column, counted from one. -/
  column : Nat
deriving DecidableEq, Repr

/-- The beginning of a pattern. -/
def PatternPlace.start : PatternPlace := ⟨1, 1⟩

/-- The place behind a character. -/
def PatternPlace.pass (place : PatternPlace) (c : Char) : PatternPlace :=
  if c = '\n' then ⟨place.line + 1, 1⟩ else { place with column := place.column + 1 }

/-- A part of a pattern from one place up to another. -/
structure PatternSpan where
  /-- Where the part begins. -/
  first : PatternPlace
  /-- Where it has ended. -/
  last : PatternPlace
deriving DecidableEq, Repr

/-- The empty part at a place. -/
def PatternSpan.at (place : PatternPlace) : PatternSpan := ⟨place, place⟩

/-- Whether a part lies on one line. -/
def PatternSpan.isOneLine (span : PatternSpan) : Bool := span.first.line = span.last.line

/-- A problem with the part of the pattern it is about. -/
structure PatternFault where
  /-- What is wrong. -/
  problem : PatternProblem
  /-- The part that is wrong. -/
  span : PatternSpan
  /-- The part that it clashes with. -/
  other : Option PatternSpan := none
deriving DecidableEq, Repr

namespace PatternFault

/-- As many blanks as asked for. -/
def blanks (count : Nat) : String := String.ofList (List.replicate count ' ')

/-- The parts that a problem is about, from left to right. -/
def spans (fault : PatternFault) : List PatternSpan :=
  (fault.span :: fault.other.toList).mergeSort fun left right =>
    left.first.line < right.first.line ||
      (left.first.line == right.first.line && left.first.column ≤ right.first.column)

/-- Carets under the parts of a line, where `column` columns are written already. -/
def carets (column : Nat) : List PatternSpan → String
  | [] => ""
  | span :: rest =>
    let gap := span.first.column - 1 - column
    let width := max 1 (span.last.column - span.first.column)
    blanks gap ++ String.ofList (List.replicate width '^') ++ carets (column + gap + width) rest

/-- A line of the pattern, with a line of carets below it if a part is on it. The margin holds the
number of the line if there are several. -/
def notedLine (spans : List PatternSpan) (width : Nat) (line : String) (number : Nat) : String :=
  let margin :=
    if width = 0 then blanks 4
    else blanks (width - (toString number).length) ++ toString number ++ ": "
  let here := spans.filter fun span => span.isOneLine && span.first.line = number
  let notes :=
    if here.isEmpty then ""
    else blanks (if width = 0 then 4 else width + 2) ++ carets 0 here ++ "\n"
  margin ++ line ++ "\n" ++ notes

/-- The lines of the pattern with carets. -/
def notedPattern (fault : PatternFault) (text : String) : String :=
  let lines := Text.lines text
  let count := if text.endsWith "\n" then lines.length + 1 else lines.length
  let width := if count ≤ 1 then 0 else (toString count).length
  String.join (lines.zipIdx.map fun (line, place) =>
    notedLine fault.spans width line (place + 1))

/-- Where the parts are that go over several lines. -/
def longParts (fault : PatternFault) : List String :=
  (fault.spans.filter (!·.isOneLine)).map fun span =>
    s!"on line {span.first.line} (column {span.first.column}) " ++
      s!"through line {span.last.line} (column {span.last.column - 1})"

/-- The line that sets a pattern of several lines apart. -/
def divider : String := String.ofList (List.replicate 79 '~') ++ "\n"

/-- A problem with the pattern that has it. -/
def render (fault : PatternFault) (text : String) : String :=
  let noted := fault.notedPattern text
  let shown :=
    if text.contains '\n' then
      divider ++ noted ++ divider ++
        (if fault.longParts.isEmpty then "" else "\n".intercalate fault.longParts ++ "\n")
    else noted
  "regex parse error:\n" ++ shown ++ "error: " ++ fault.problem.message

end PatternFault

end ReactiveScript
