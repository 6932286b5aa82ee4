/-! # Places in a source text

A place is a line and, where it is known, a column, both counted from one. Line zero stands for a
place that is not known. -/

namespace ReactiveScript

/-- A place in a source text. -/
structure Span where
  /-- The line, counted from one; zero if the place is not known. -/
  line : Nat
  /-- The column, counted from one, where it is known. -/
  column : Option Nat
deriving DecidableEq, Repr, Inhabited

/-- The place that is not known. -/
def Span.unknown : Span := ⟨0, none⟩

/-- The place at a line and a column. -/
def Span.at (line column : Nat) : Span := ⟨line, some column⟩

/-- Whether a place is known. -/
def Span.isKnown (span : Span) : Bool := 0 < span.line

/-- The text of a place, such as `line 3, column 7`. -/
def Span.render (span : Span) : String :=
  match span.column with
  | none => s!"line {span.line}"
  | some column => s!"line {span.line}, column {column}"

@[simp] theorem Span.isKnown_unknown : Span.unknown.isKnown = false := rfl

end ReactiveScript
