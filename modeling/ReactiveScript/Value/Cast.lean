import ReactiveScript.Number.Reader
import ReactiveScript.Value.Convert
import ReactiveScript.Value.Text

/-! # Explicit casts

A cast goes further than implicit conversion: every value has a text and a truth value, texts are
read as numbers, numbers are cut to integers, and texts and dictionaries become lists. -/

namespace ReactiveScript

/-- The place where the imaginary part starts: the last sign that is neither the first character nor
the sign of an exponent. The characters before the place are given nearest first. -/
def imaginaryStart? : List Char → Option Nat
  | sign :: before :: rest =>
    if (sign = '+' ∨ sign = '-') ∧ before ≠ 'e' ∧ before ≠ 'E' then some (rest.length + 1)
    else imaginaryStart? (before :: rest)
  | _ => none

/-- The imaginary part, where a sign alone stands for one. -/
def readImaginary : List Char → Option Float
  | [] => some 1
  | ['+'] => some 1
  | ['-'] => some (-1)
  | chars => Number.readFloat chars

/-- The complex number that a text spells: parentheses around it and blanks in it do not count. -/
def readComplex (text : String) : Option (Float × Float) :=
  let bare := (Text.trim text.toList).dropWhile (· = '(')
  let unwrapped := (bare.reverse.dropWhile (· = ')')).reverse
  let compact := unwrapped.filter fun c => !Text.isBlank c
  if compact.getLast? = some 'j' then
    let body := compact.dropLast
    match imaginaryStart? body.reverse with
    | some place => do
      let re ← Number.readFloat (body.take place)
      let im ← readImaginary (body.drop place)
      return (re, im)
    | none => (readImaginary body).map fun im => (0, im)
  else (Number.readFloat compact).map fun re => (re, 0)

/-- The truth value that a text spells; other texts are true unless they are blank. -/
def textTruth (text : String) : Bool :=
  let word := Text.trimmed text
  if word = "true" then true
  else if word = "false" then false
  else !word.isEmpty

/-- The least floating-point number that casts to an integer. -/
def leastIntFloat : Float := -9223372036854775808

/-- The floating-point number at which casts to an integer stop. -/
def intFloatBound : Float := 9223372036854775808

/-- The floating-point number without its fraction, as an integer. -/
def truncate (x : Float) : Except Fault Int64 :=
  if x.isFinite && leastIntFloat ≤ x && x < intFloatBound then .ok x.toInt64
  else .error (Cause.floatTooLarge (messageLayout.write x)).fault

namespace Value

/-- Casts a value to a truth value. -/
def castBoolean (store : Store) : Value → Bool
  | .text s => textTruth s
  | value => value.truthyIn store

/-- Casts a value to an integer. -/
def castInt : Value → Except Fault Int64
  | .int n => .ok n
  | .float x => truncate x
  | .complex re _ => truncate re
  | .boolean b => .ok (if b then 1 else 0)
  | .text s =>
    let chars := Text.trim s.toList
    match Number.readWord chars with
    | some n => .ok n
    | none =>
      match Number.readFloat chars with
      | some x => truncate x
      | none => .error (Cause.invalidLiteral "int" s).fault
  | value => .error (Cause.castBetween value.kindName "int").fault

/-- Casts a value to a floating-point number. -/
def castFloat : Value → Except Fault Float
  | .int n => .ok (Number.ofWord n)
  | .float x => .ok x
  | .complex re _ => .ok re
  | .boolean b => .ok (if b then 1 else 0)
  | .text s =>
    match Number.readFloat (Text.trim s.toList) with
    | some x => .ok x
    | none => .error (Cause.invalidLiteral "float" s).fault
  | value => .error (Cause.castBetween value.kindName "float").fault

/-- Casts a value to a complex number. -/
def castComplex : Value → Except Fault (Float × Float)
  | .complex re im => .ok (re, im)
  | .text s =>
    match readComplex s with
    | some parts => .ok parts
    | none => .error (Cause.invalidLiteral "complex" s).fault
  | value => (castFloat value).map fun re => (re, 0)

/-- The characters of a text as values. -/
def characters (text : String) : List Value :=
  text.toList.map fun c => .text (String.singleton c)

/-- Casts a value to a type. -/
def cast : Ty → Value → Alloc Value
  | .unknown name, _ => Alloc.fail (.castToUnknown name)
  | .any, value => return value
  | .void, _ => return .void
  | target, .void => zeroOf target
  | target, .untyped => zeroOf target
  | .text, value => return .text (← (← get).render value)
  | .boolean, value => return .boolean (value.castBoolean (← get))
  | .int, value => return .int (← castInt value)
  | .float, value => return .float (← castFloat value)
  | .complex, value => do
    let (re, im) ← castComplex value
    return .complex re im
  | .list element, .list handle => do
    let items ← ((← get).list handle).items.mapM (cast element)
    Alloc.newList element items
  | .list element, .text s => do
    let items ← (characters s).mapM (cast element)
    Alloc.newList element items
  | .list element, .dict handle => do
    let items ← (((← get).dict handle).entries.map Prod.fst).mapM (cast element)
    Alloc.newList element items
  | .dict key value, .dict handle => do
    let entries ← convertEntries (fun k => cast key k >>= coerce key)
      (fun v => cast value v >>= coerce value) [] ((← get).dict handle).entries
    Alloc.newDict key value entries
  | target, value => Alloc.fail (.castBetween value.kindName target.render)

end Value

end ReactiveScript
