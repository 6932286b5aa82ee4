import ReactiveScript.Number.Binary

/-! # The nearest floating-point number

A positive ratio lies between two neighbours on the grid of floating-point numbers. The nearer one
is taken, and of two equally near ones the one with the even significand. -/

namespace ReactiveScript.Number

/-- The quotient rounded to the nearest natural number, half way to the even one. -/
def roundDiv (above below : Nat) : Nat :=
  let quotient := above / below
  let twice := 2 * (above % below)
  if twice < below ∨ (twice = below ∧ quotient % 2 = 0) then quotient else quotient + 1

/-- The bits of the positive infinite number. -/
def infinityBits : Nat := 0x7FF0000000000000

/-- The number `significand * 2 ^ exponent` on the grid, infinite beyond the greatest one. Counting
the grid points in order makes the step from one power of two to the next no special case. -/
def ofGrid (significand : Nat) (exponent : Int) : Float :=
  let bits := (exponent - Binary.leastExponent).toNat * Nat.pow 2 52 + significand
  Float.ofBits (UInt64.ofNat (min bits infinityBits))

/-- The greatest power of two that is not above a positive ratio. -/
def leadingExponent (above below : Nat) : Int :=
  let power : Int := above.log2 - below.log2
  let scaled := powerRatio 2 power
  if below * scaled.1 ≤ above * scaled.2 then power else power - 1

/-- The power of two of the grid that a ratio falls on: quotients of the ratio by it have 53 bits,
fewer only below the least normal number. -/
def gridExponent (above below : Nat) : Int :=
  max Binary.leastExponent (leadingExponent above below - 52)

/-- The number nearest to a ratio with a positive denominator. -/
def nearest (above below : Nat) : Float :=
  if above = 0 then 0
  else
    let exponent := gridExponent above below
    let scaled := powerRatio 2 exponent
    ofGrid (roundDiv (above * scaled.2) (below * scaled.1)) exponent

end ReactiveScript.Number
