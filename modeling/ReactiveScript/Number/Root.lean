import ReactiveScript.Number.Nearest

/-! # Square roots and hypotenuses

The integer part of a square root is found bit by bit. Scaled up far enough it settles the nearest
floating-point number to the length of a hypotenuse. -/

namespace ReactiveScript.Number

/-- The greatest number whose square is at most `n` among those that extend `root` by lower bits. -/
def rootFrom (n : Nat) : Nat → Nat → Nat
  | 0, root => root
  | bits + 1, root =>
    let longer := root + Nat.pow 2 bits
    rootFrom n bits (if longer * longer ≤ n then longer else root)

/-- The integer part of a square root. -/
def integerRoot (n : Nat) : Nat := rootFrom n (n.log2 / 2 + 1) 0

/-- How many more bits of a root are taken than its integer part has, enough to settle rounding. -/
def guardBits : Nat := 64

/-- The number nearest to `sqrt n * 2 ^ exponent`. A root that is not exact lies strictly between
two multiples of the last guard bit; the point half way between them rounds the same way. -/
def nearestRoot (n : Nat) (exponent : Int) : Float :=
  let scaled := n * Nat.pow 4 guardBits
  let root := integerRoot scaled
  let twice := 2 * root + (if root * root = scaled then 0 else 1)
  let (above, below) := powerRatio 2 (exponent - guardBits - 1)
  nearest (twice * above) below

/-- The length of the hypotenuse of a right triangle: infinite if a leg is, whatever the other
is. -/
def hypotenuse (x y : Float) : Float :=
  if x.isInf || y.isInf then infinity
  else if x.isNaN || y.isNaN then notANumber
  else
    let left := Binary.ofFloat x
    let right := Binary.ofFloat y
    let common := min left.exponent right.exponent
    let leg (side : Binary) : Nat := side.significand * Nat.pow 2 (side.exponent - common).toNat
    nearestRoot (leg left * leg left + leg right * leg right) common

example : integerRoot 99 = 9 := by decide

end ReactiveScript.Number
