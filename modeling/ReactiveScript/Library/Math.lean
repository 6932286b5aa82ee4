import ReactiveScript.Machine.Basic
import ReactiveScript.Number.Checked
import ReactiveScript.Number.Random
import ReactiveScript.Number.Root
import ReactiveScript.Value.Cast

/-! # Numbers

Roots, powers, magnitudes, rounding, extremes and random numbers. Integer results that do not fit
are refused, and rounding gives integers. -/

namespace ReactiveScript

/-- The ratio of a circle to its diameter. -/
def circleRatio : Float := 3.141592653589793

/-- Exponents from here on are refused for every base. -/
def exponentBound : Nat := Nat.pow 2 32

/-- A power of an integer, if it fits. Only powers of zero and of the units fit whatever the
exponent; they depend on whether it is even. -/
def checkedPower (base : Int64) (exponent : Nat) : Option Int64 :=
  if exponent = 0 then some 1
  else if base.toInt.natAbs ≤ 1 then Number.checked (base.toInt.pow (2 - exponent % 2))
  else if exponent ≤ 63 then Number.checked (base.toInt.pow exponent)
  else none

/-- A power of an integer to an exponent that is not negative. -/
def integerPower (base : Int64) (exponent : Nat) : Except Fault Value :=
  Value.intOr (.callOverflow "pow")
    (if exponent < exponentBound then checkedPower base exponent else none)

/-- The magnitude of a number. -/
def magnitude : Value → Except Fault Value
  | .int n => Value.intOr (.callOverflow "abs") (Number.checked n.toInt.natAbs)
  | .float x => .ok (.float x.abs)
  | .complex re im => .ok (.float (Number.hypotenuse re im))
  | other => .error (Cause.operandNeeds "abs" "a number" other.kindName).fault

/-- The better of some numbers after a first one; an earlier one stays unless a later one is
better. -/
def bestFrom (name : String) (better : Float → Float → Bool) (best : Float × Value) :
    List Value → Except Fault Value
  | [] => .ok best.2
  | value :: values =>
    match value.asFloat? with
    | none => .error (Cause.operandNeeds name "numbers" value.kindName).fault
    | some x => bestFrom name better (if better x best.1 then (x, value) else best) values

/-- The best of some numbers. -/
def bestOf (name : String) (better : Float → Float → Bool) : List Value → Except Fault Value
  | [] => .error (Cause.emptySequence name).fault
  | value :: values =>
    match value.asFloat? with
    | none => .error (Cause.operandNeeds name "numbers" value.kindName).fault
    | some x => bestFrom name better (x, value) values

/-- The values that an extreme is taken of: the items of a list that stands alone, or all. -/
def candidates (store : Store) : List Value → List Value
  | [.list handle] => (store.list handle).items
  | values => values

namespace Call

/-- Rounds the only argument. -/
def rounded (call : Call) (round : Float → Float) : Except Fault Value := do
  call.expect 1
  match ← call.argument 0 with
  | .int n => return .int n
  | _ => return .int (← truncate (round (← call.number 0)))

/-- Raises the first argument to the power of the second. -/
def power (call : Call) : Except Fault Value := do
  call.expect 2
  match ← call.argument 0, ← call.argument 1 with
  | .int base, .int exponent =>
    if 0 ≤ exponent.toInt then integerPower base exponent.toInt.toNat
    else return .float (Number.ofWord base ^ Number.ofWord exponent)
  | _, _ =>
    let base ← call.number 0
    let exponent ← call.number 1
    return .float (base ^ exponent)

/-- The square root of the only argument. -/
def root (call : Call) : Except Fault Value := do
  call.expect 1
  let x ← call.number 0
  if x < 0 then throw (Cause.negativeRoot (messageLayout.write x)).fault
  return .float x.sqrt

end Call

namespace Eval

/-- The next random word. -/
def randomWord : Eval UInt64 := do
  let (word, seed) := Number.nextWord (← get).world.seed
  modify fun machine => { machine with world := { machine.world with seed } }
  return word

/-- A function on numbers. -/
def math (function : MathFunction) (call : Call) : Eval Value := do
  match function with
  | .pi => return .float circleRatio
  | .sqrt => ofExcept call.root
  | .pow => ofExcept call.power
  | .abs =>
    ofExcept (call.expect 1)
    ofExcept (magnitude (← ofExcept (call.argument 0)))
  | .floor => ofExcept (call.rounded Float.floor)
  | .ceil => ofExcept (call.rounded Float.ceil)
  | .round => ofExcept (call.rounded Float.round)
  | .min =>
    reading fun machine =>
      bestOf call.name (fun x best => x < best) (candidates machine.store call.arguments)
  | .max =>
    reading fun machine =>
      bestOf call.name (fun x best => best < x) (candidates machine.store call.arguments)
  | .random => return .float (Number.unitFloat (← randomWord))
  | .randomInt =>
    ofExcept (call.expect 2)
    let low ← ofExcept (call.int 0)
    let high ← ofExcept (call.int 1)
    if high.toInt < low.toInt then fail (.emptyRange low high)
    else return .int (Number.pickBetween (← randomWord) low high)

end Eval

end ReactiveScript
