import ReactiveScript.Number.Checked
import ReactiveScript.Value.Container

/-! # Ranges and indexing

A range is the list of the integers from one bound in steps towards the other. -/

namespace ReactiveScript

/-- Whether an integer stands before the bound of a range, in the direction of the step. -/
def standsBefore (bound step current : Int64) : Bool :=
  (0 < step.toInt && current.toInt < bound.toInt) ||
    (step.toInt < 0 && bound.toInt < current.toInt)

/-- The integers of a range from one on, behind those that were taken before: step by step while
they stand before the bound, up to the last one from which a step leads to a machine word. -/
def rangeFrom (bound step : Int64) (taken : Array Int64) (current : Int64) : Array Int64 :=
  if _inside : standsBefore bound step current then
    match _stepped : Number.checked (current.toInt + step.toInt) with
    | some next => rangeFrom bound step (taken.push current) next
    | none => taken.push current
  else taken
termination_by
  (if 0 < step.toInt then bound.toInt - current.toInt else current.toInt - bound.toInt).toNat
decreasing_by
  have moved := Number.toInt_of_checked_eq_some _stepped
  simp only [standsBefore, Bool.or_eq_true, Bool.and_eq_true, decide_eq_true_eq] at _inside
  split <;> omega

/-- The integers of a range, whose last bound is included if so said. -/
def rangeItems (first last step : Int64) (inclusive : Bool) : Except Fault (List Value) :=
  if step = 0 then .error Cause.rangeStep.fault
  else
    let moved := if step.toInt > 0 then last.toInt + 1 else last.toInt - 1
    match (if inclusive then Number.checked moved else some last) with
    | none => .error Cause.rangeBound.fault
    | some bound => .ok ((rangeFrom bound step #[] first).toList.map fun n => .int n)

/-- The integers of a range as a new list. -/
def Alloc.range (first last step : Int64) (inclusive : Bool) : Alloc Value := do
  let items ← rangeItems first last step inclusive
  newList .any items

/-- The element of a list, dictionary or text at an index. -/
def Alloc.index (target position : Value) : Alloc Value :=
  match target with
  | .list handle => listGet handle position
  | .dict handle => dictGet handle position
  | .text s => do
    let chars := s.toList
    let place ← indexIn "string" position chars.length
    return .text (String.ofList ((chars.drop place).take 1))
  | other => fail (.notSubscriptable other.kindName)

end ReactiveScript
