import ReactiveScript.Number.Shortest

/-! # How a floating-point number is written

The digits are always the fewest that read back. A layout decides the rest: up to which size the
digits stand around a point without an exponent, whether a whole number shows a fraction, and how
an exponent and the special values look. -/

namespace ReactiveScript.Number

/-- The decisions of a format for floating-point numbers. -/
structure Layout where
  /-- The least and greatest power of the leading digit that are written without an exponent, or
  `none` if every number is. -/
  positional : Option (Int × Int)
  /-- A whole number shows `.0` when the power of its leading digit is below this. -/
  pointBelow : Int
  /-- Whether a positive exponent carries a plus sign. -/
  exponentPlus : Bool
  /-- Which of two equally near decimals is chosen. -/
  tie : Tie
  /-- The text of a value that is no number. -/
  notANumber : String

/-- The text of the infinite magnitude in every layout. -/
def infinityText : String := "inf"

/-- As many zeros as asked for. -/
def zeros (count : Nat) : List Char := List.replicate count '0'

/-- The power of ten that the leading digit stands for. -/
def Decimal.leadingPower (decimal : Decimal) : Int :=
  decimal.exponent + decimalLength decimal.digits - 1

/-- A decimal around a point, without an exponent. -/
def Layout.writePositional (layout : Layout) (decimal : Decimal) : List Char :=
  let digits := Nat.toDigits 10 decimal.digits
  match decimal.exponent with
  | .ofNat n =>
    digits ++ zeros n ++ (if decimal.leadingPower < layout.pointBelow then ['.', '0'] else [])
  | .negSucc n =>
    let places := n + 1
    if places < digits.length then
      digits.take (digits.length - places) ++ ['.'] ++ digits.drop (digits.length - places)
    else ['0', '.'] ++ zeros (places - digits.length) ++ digits

/-- A decimal with one digit before the point and an exponent. -/
def Layout.writeScientific (layout : Layout) (decimal : Decimal) : List Char :=
  let power := decimal.leadingPower
  let mantissa :=
    match Nat.toDigits 10 decimal.digits with
    | [] => []
    | [digit] => [digit]
    | digit :: more => digit :: '.' :: more
  let sign := if power < 0 then ['-'] else if layout.exponentPlus then ['+'] else []
  mantissa ++ ['e'] ++ sign ++ Nat.toDigits 10 power.natAbs

/-- A decimal in the form that its size calls for. -/
def Layout.writeDecimal (layout : Layout) (decimal : Decimal) : List Char :=
  match layout.positional with
  | none => layout.writePositional decimal
  | some (least, greatest) =>
    if least ≤ decimal.leadingPower ∧ decimal.leadingPower ≤ greatest then
      layout.writePositional decimal
    else layout.writeScientific decimal

/-- The magnitude of a finite number. -/
def Layout.writeMagnitude (layout : Layout) (magnitude : Binary) : List Char :=
  if magnitude.significand = 0 then layout.writePositional ⟨0, 0⟩
  else layout.writeDecimal (magnitude.shortest layout.tie)

/-- The text of a floating-point number. -/
def Layout.write (layout : Layout) (x : Float) : String :=
  if x.isNaN then layout.notANumber
  else
    let sign := if isNegative x then "-" else ""
    if x.isInf then sign ++ infinityText
    else sign ++ String.ofList (layout.writeMagnitude (Binary.ofFloat x))

end ReactiveScript.Number
