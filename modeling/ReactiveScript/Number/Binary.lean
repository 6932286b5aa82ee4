/-! # Floating-point numbers as binary fractions

A finite floating-point number is a sign and a natural number times a power of two. Exact questions
about it, such as which decimals round to it or what remainder it leaves, are asked of that pair. -/

namespace ReactiveScript.Number

/-- The magnitude `significand * 2 ^ exponent` of a finite floating-point number. -/
structure Binary where
  /-- The natural number that is scaled. -/
  significand : Nat
  /-- The power of two that scales it. -/
  exponent : Int
  /-- Whether the neighbour below is half as far away as the neighbour above. -/
  narrowBelow : Bool

/-- The power of two of the least positive number. -/
def Binary.leastExponent : Int := -1074

/-- The magnitude that the 64 bits of a finite number encode. -/
def Binary.ofBits (bits : UInt64) : Binary :=
  let fraction := bits.toNat % Nat.pow 2 52
  let biased := bits.toNat / Nat.pow 2 52 % Nat.pow 2 11
  if biased = 0 then ⟨fraction, Binary.leastExponent, false⟩
  else
    ⟨fraction + Nat.pow 2 52, Binary.leastExponent + (biased - 1 : Nat), fraction = 0 && 1 < biased⟩

/-- The magnitude of a finite number. -/
def Binary.ofFloat (x : Float) : Binary :=
  Binary.ofBits x.toBits

/-- The floating-point number nearest to a machine word, of two equally near ones the one with the
even significand. -/
def ofWord (word : Int64) : Float :=
  if word < 0 then -(-word).toUInt64.toFloat else word.toUInt64.toFloat

/-- The positive infinite number. -/
def infinity : Float := Float.ofBits 0x7FF0000000000000

/-- The value that is no number. -/
def notANumber : Float := Float.ofBits 0x7FF8000000000000

/-- Whether the sign bit of a number is set, which it also is for negative zero. -/
def isNegative (x : Float) : Bool :=
  Nat.pow 2 63 ≤ x.toBits.toNat

/-- A power with an integer exponent, as a numerator and a denominator. -/
def powerRatio (base : Nat) : Int → Nat × Nat
  | .ofNat n => (Nat.pow base n, 1)
  | .negSucc n => (1, Nat.pow base (n + 1))

/-- The magnitude as a numerator and a denominator. -/
def Binary.ratio (magnitude : Binary) : Nat × Nat :=
  let (above, below) := powerRatio 2 magnitude.exponent
  (magnitude.significand * above, below)

/-- A number with the sign of `sign` and the magnitude of `magnitude`. -/
def copySign (magnitude sign : Float) : Float :=
  if isNegative magnitude == isNegative sign then magnitude else -magnitude

/-- The remainder of the first magnitude by the second, exact because it is a multiple of the
smaller power of two and below the second. -/
def Binary.remainder (dividend divisor : Binary) : Float :=
  let common := min dividend.exponent divisor.exponent
  let left := dividend.significand * Nat.pow 2 (dividend.exponent - common).toNat
  let right := divisor.significand * Nat.pow 2 (divisor.exponent - common).toNat
  (Float.ofNat (left % right)).scaleB common

/-- The remainder of truncated division, with the sign of the dividend: undefined for an infinite
dividend or a zero divisor, and the dividend itself for an infinite divisor. -/
def remainder (dividend divisor : Float) : Float :=
  if dividend.isNaN || divisor.isNaN || dividend.isInf || divisor == 0 then notANumber
  else if divisor.isInf then dividend
  else copySign ((Binary.ofFloat dividend).remainder (Binary.ofFloat divisor)) dividend

end ReactiveScript.Number
