import ReactiveScript.Number.Checked
import ReactiveScript.Syntax.Operator
import ReactiveScript.Value.Container
import ReactiveScript.Value.Text

/-! # Operators on values

Arithmetic promotes to the wider of the two kinds of number and refuses integer results that do not
fit. Adding also joins texts and extends lists; subtracting also takes items out of a list. -/

namespace ReactiveScript

/-- Two numbers of one kind. -/
inductive NumberPair where
  | int (left right : Int64)
  | float (left right : Float)
  | complex (left right : Float × Float)

/-- Two numbers brought to the wider of their kinds. -/
def promote? (left right : Value) : Option NumberPair :=
  match left, right with
  | .int m, .int n => some (.int m n)
  | .complex .., _ => complexPair?
  | _, .complex .. => complexPair?
  | _, _ => do
    let x ← left.asFloat?
    let y ← right.asFloat?
    return .float x y
where
  /-- Two numbers as complex numbers. -/
  complexPair? : Option NumberPair := do
    let x ← left.asComplex?
    let y ← right.asComplex?
    return .complex x y

/-- The remainder with the sign of the dividend. There is none where the quotient does not fit. -/
def checkedRem (dividend divisor : Int64) : Option Int64 :=
  if divisor = 0 ∨ (dividend = Int64.minValue ∧ divisor = -1) then none
  else some (dividend % divisor)

/-- The remainder with the sign of the divisor: one that has the other sign is moved by the
divisor. -/
def flooredMod (dividend divisor : Int64) : Option Int64 := do
  let r ← checkedRem dividend divisor
  if r != 0 && decide (r < 0) != decide (divisor < 0) then
    Number.checked (r.toInt + divisor.toInt)
  else return r

/-- The remainder with the sign of the divisor. -/
def flooredModFloat (dividend divisor : Float) : Float :=
  let r := Number.remainder dividend divisor
  if r != 0 && (r < 0) != (divisor < 0) then r + divisor else r

/-- The product of two complex numbers. -/
def complexMul (left right : Float × Float) : Float × Float :=
  (left.1 * right.1 - left.2 * right.2, left.1 * right.2 + left.2 * right.1)

/-- The quotient of two complex numbers. -/
def complexDiv (left right : Float × Float) : Except Fault (Float × Float) :=
  let norm := right.1 * right.1 + right.2 * right.2
  if norm == 0 then .error Cause.divisionByZero.fault
  else
    let (re, im) := complexMul left (right.1, -right.2)
    .ok (re / norm, im / norm)

/-- An integer result, or the fault of an operator whose result does not fit. -/
def orOverflow (op : BinaryOp) (result : Option Int64) : Except Fault Value :=
  Value.intOr (.overflow op.symbol) result

/-- Arithmetic on integers; division leaves the integers. -/
def intBinary (op : BinaryOp) (left right : Int64) : Except Fault Value :=
  match op with
  | .add => orOverflow op (Number.checked (left.toInt + right.toInt))
  | .sub => orOverflow op (Number.checked (left.toInt - right.toInt))
  | .mul => orOverflow op (Number.checked (left.toInt * right.toInt))
  | .div =>
    if right = 0 then .error Cause.divisionByZero.fault
    else .ok (.float (Number.ofWord left / Number.ofWord right))
  | .mod =>
    if right = 0 then .error Cause.modulusByZero.fault
    else orOverflow op (flooredMod left right)

/-- Arithmetic on floating-point numbers. -/
def floatBinary (op : BinaryOp) (left right : Float) : Except Fault Value :=
  match op with
  | .add => .ok (.float (left + right))
  | .sub => .ok (.float (left - right))
  | .mul => .ok (.float (left * right))
  | .div =>
    if right == 0 then .error Cause.divisionByZero.fault else .ok (.float (left / right))
  | .mod =>
    if right == 0 then .error Cause.modulusByZero.fault
    else .ok (.float (flooredModFloat left right))

namespace Value

/-- The fault of an operator on kinds that it does not take. -/
def unsupported (symbol : String) (left right : Value) : Fault :=
  (Cause.unsupportedOperands symbol left.kindName right.kindName).fault

/-- Arithmetic on numbers. -/
def numeric (op : BinaryOp) (left right : Value) : Except Fault Value :=
  match promote? left right with
  | none => .error (unsupported op.symbol left right)
  | some (.int m n) => intBinary op m n
  | some (.float x y) => floatBinary op x y
  | some (.complex x y) =>
    match op with
    | .add => .ok (.complex (x.1 + y.1) (x.2 + y.2))
    | .sub => .ok (.complex (x.1 - y.1) (x.2 - y.2))
    | .mul =>
      let product := complexMul x y
      .ok (.complex product.1 product.2)
    | .div => (complexDiv x y).map fun quotient => .complex quotient.1 quotient.2
    | .mod => .error (unsupported op.symbol left right)

/-- Whether a value joins with a text. -/
def joinsText : Value → Bool
  | .text _ | .int _ | .float _ | .complex .. | .boolean _ => true
  | _ => false

/-- Whether adding two values joins their texts. -/
def joins (left right : Value) : Bool :=
  match left, right with
  | .text _, other => other.joinsText
  | other, .text _ => other.joinsText
  | _, _ => false

/-- The items of a list without the first of each of some values. -/
def removeEach (store : Store) : List Value → List Value → Option (List Value)
  | items, [] => return items
  | items, value :: values => do
    let removed ← store.removeFirst none value items
    removeEach store (removed.getD items) values

/-- The items that a value adds to a list: those of another list, or itself. -/
def asItems (store : Store) : Value → List Value
  | .list handle => (store.list handle).items
  | value => [value]

/-- An arithmetic operator on two values. -/
def binary (op : BinaryOp) (left right : Value) : Alloc Value := do
  let store ← get
  match op, left with
  | .add, .list handle =>
    let cell := store.list handle
    let added ← (right.asItems store).mapM (coerce cell.element)
    Alloc.newList cell.element (cell.items ++ added)
  | .sub, .list handle =>
    let cell := store.list handle
    let items ← removeEach store cell.items (right.asItems store)
    Alloc.newList cell.element items
  | .add, _ =>
    if joins left right then return .text ((← store.render left) ++ (← store.render right))
    else numeric op left right
  | _, _ => numeric op left right

/-- Whether two values are equal; truth values compare with each other only. -/
def equals (store : Store) (left right : Value) : Except Stop Bool :=
  match left, right with
  | .boolean a, .boolean b => .ok (a == b)
  | .boolean _, _ => .error (.fault (unsupported "==" left right))
  | _, .boolean _ => .error (.fault (unsupported "==" left right))
  | _, _ => ended (store.same left right)

/-- The order of two numbers, which what is no number does not have. -/
def orderOf (op : CompareOp) (left right : Value) : Except Fault (Option Ordering) :=
  match left, right with
  | .int m, .int n => .ok (some (compare m.toInt n.toInt))
  | _, _ =>
    match left.asFloat?, right.asFloat? with
    | some x, some y =>
      .ok (if x < y then some .lt else if x > y then some .gt
        else if x == y then some .eq else none)
    | _, _ => .error (unsupported op.symbol left right)

/-- A comparison of two values. -/
def compareValues (store : Store) (op : CompareOp) (left right : Value) : Except Stop Bool := do
  match op with
  | .equal => equals store left right
  | .notEqual => return !(← equals store left right)
  | .less => return (← orderOf op left right).any (·.isLT)
  | .lessEqual => return (← orderOf op left right).any (·.isLE)
  | .greater => return (← orderOf op left right).any (·.isGT)
  | .greaterEqual => return (← orderOf op left right).any (·.isGE)

/-- A connective of two truth values. -/
def logical (op : LogicalOp) (left right : Value) : Except Fault Value :=
  match left, right with
  | .boolean a, .boolean b =>
    .ok (.boolean (match op with
      | .and => a && b
      | .or => a || b
      | .xor => a != b))
  | _, _ => .error (unsupported op.symbol left right)

/-- An operator on one value. -/
def unary (store : Store) (op : UnaryOp) (operand : Value) : Except Fault Value :=
  match op, operand with
  | .not, value => .ok (.boolean (!value.truthyIn store))
  | .negate, .int n => intOr .negationOverflow (Number.checked (-n.toInt))
  | .negate, .float x => .ok (.float (-x))
  | .negate, .complex re im => .ok (.complex (-re) (-im))
  | .negate, value => .error (Cause.unsupportedUnary op.symbol value.kindName).fault

end Value

end ReactiveScript
