import ReactiveScript.Number.Binary

/-! # The fewest digits that read back

The decimals that round to a binary fraction form an interval. Of the decimal grids, from coarse to
fine, the first with a point in that interval gives the digits; of two points on it the nearer one
is taken. -/

namespace ReactiveScript.Number

/-- The decimal `digits * 10 ^ exponent`. -/
structure Decimal where
  /-- The natural number whose digits are written. -/
  digits : Nat
  /-- The power of ten that scales it. -/
  exponent : Int
deriving Repr, DecidableEq

/-- Where the choice goes when two decimals of the same length are equally near. -/
inductive Tie where
  /-- To the decimal with an even last digit. -/
  | even
  /-- To the greater decimal. -/
  | up
deriving DecidableEq

/-- Compares a decimal with `quarters * 2 ^ (exponent - 2)` by cross-multiplication. -/
def Decimal.compareQuarters (decimal : Decimal) (quarters : Nat) (exponent : Int) : Ordering :=
  let (tenOver, tenUnder) := powerRatio 10 decimal.exponent
  let (twoOver, twoUnder) := powerRatio 2 (exponent - 2)
  compare (decimal.digits * tenOver * twoUnder) (quarters * twoOver * tenUnder)

/-- Whether a decimal rounds to the binary fraction: it lies between the halfway points to the two
neighbours, which themselves belong when the significand is even. -/
def Binary.readsBack (magnitude : Binary) (decimal : Decimal) : Bool :=
  let below := 4 * magnitude.significand - (if magnitude.narrowBelow then 1 else 2)
  let above := 4 * magnitude.significand + 2
  let even := magnitude.significand % 2 == 0
  (match decimal.compareQuarters below magnitude.exponent with
    | .gt => true
    | .eq => even
    | .lt => false) &&
  (match decimal.compareQuarters above magnitude.exponent with
    | .lt => true
    | .eq => even
    | .gt => false)

/-- The number of decimal digits of a natural number, one for zero. -/
def decimalLength (n : Nat) : Nat :=
  (Nat.toDigits 10 n).length

/-- The least power of ten above a positive magnitude. -/
def Binary.scale (magnitude : Binary) : Int :=
  let (above, below) := magnitude.ratio
  if below ≤ above then decimalLength (above / below)
  else 1 - (decimalLength ((below - 1) / above) : Int)

/-- The point of the grid of `10 ^ exponent` that reads back, the nearer one if two do. -/
def Binary.onGrid? (magnitude : Binary) (tie : Tie) (exponent : Int) : Option Decimal :=
  let (above, below) := magnitude.ratio
  let (tenOver, tenUnder) := powerRatio 10 exponent
  let numerator := above * tenUnder
  let denominator := below * tenOver
  let lower : Decimal := ⟨numerator / denominator, exponent⟩
  let upper : Decimal := ⟨numerator / denominator + 1, exponent⟩
  match magnitude.readsBack lower, magnitude.readsBack upper with
  | false, false => none
  | true, false => some lower
  | false, true => some upper
  | true, true =>
    match compare (2 * (numerator % denominator)) denominator, tie with
    | .lt, _ => some lower
    | .gt, _ => some upper
    | .eq, .up => some upper
    | .eq, .even => some (if lower.digits % 2 == 0 then lower else upper)

/-- The exact decimal value of a binary fraction. -/
def Binary.exactDecimal (magnitude : Binary) : Decimal :=
  match magnitude.exponent with
  | .ofNat n => ⟨magnitude.significand * Nat.pow 2 n, 0⟩
  | .negSucc n => ⟨magnitude.significand * Nat.pow 5 (n + 1), -(n + 1 : Int)⟩

/-- Moves up to `budget` trailing zeros from the digits into the exponent. -/
def Decimal.stripZeros (decimal : Decimal) : Nat → Decimal
  | 0 => decimal
  | budget + 1 =>
    if decimal.digits ≠ 0 ∧ decimal.digits % 10 = 0 then
      Decimal.stripZeros ⟨decimal.digits / 10, decimal.exponent + 1⟩ budget
    else decimal

/-- The shortest decimal that reads back to a positive magnitude: grids of one to seventeen digits
are tried in turn. -/
def Binary.shortest (magnitude : Binary) (tie : Tie) : Decimal :=
  let scale := magnitude.scale
  let found := (List.range 17).findSome? fun (more : Nat) =>
    magnitude.onGrid? tie (scale - 1 - more)
  (found.getD magnitude.exactDecimal).stripZeros 17

end ReactiveScript.Number
