/-! # Sets of characters given by ranges

A property of characters is a table of code-point ranges in ascending order, and membership is
found by halving the table. -/

namespace ReactiveScript.Text

/-- Inclusive ranges of code points, ascending and disjoint. -/
abbrev Ranges := Array (Nat × Nat)

/-- Whether a range at a position from `low` up to, but not including, `high` holds the point. -/
def Ranges.holdsBetween (ranges : Ranges) (point low high : Nat) : Bool :=
  if low < high then
    let middle := (low + high) / 2
    match ranges[middle]? with
    | none => false
    | some (first, last) =>
      if point < first then ranges.holdsBetween point low middle
      else if last < point then ranges.holdsBetween point (middle + 1) high
      else true
  else false
termination_by high - low

/-- Whether one of the ranges holds the character. -/
def Ranges.holds (ranges : Ranges) (c : Char) : Bool :=
  ranges.holdsBetween c.toNat 0 ranges.size

/-- No range holds a character of an empty table. -/
@[simp] theorem Ranges.holds_empty (c : Char) : Ranges.holds #[] c = false := by
  simp [Ranges.holds, Ranges.holdsBetween]

end ReactiveScript.Text
