import ReactiveScript.Json.Cursor
import ReactiveScript.Json.Writer
import ReactiveScript.Number.Nearest

/-! # Numbers in documents

A number without a fraction and an exponent is an integer as long as it fits 64 bits. Of any other
number the leading digits that fit 64 bits are taken as a significand and scaled by a power of ten
in floating-point arithmetic, which is fast and may miss the nearest number by the last place. -/

namespace ReactiveScript

/-- A number as it stands in a document. -/
inductive Numeral where
  /-- An integer that is not negative and below `2 ^ 64`. -/
  | natural (value : Nat)
  /-- A negative integer that fits a machine word. -/
  | negative (value : Int)
  | real (value : Float)

namespace Numeral

/-- What a number is called when it stands where it should not. -/
def describe : Numeral → String
  | .natural n => s!"integer `{n}`"
  | .negative n => s!"integer `{n}`"
  | .real x => s!"floating point `{Document.layout.write x}`"

/-- The document of a number: an integer if it fits a machine word. -/
def toDocument : Numeral → Document
  | .natural n =>
    if n < Nat.pow 2 63 then .integer (Int64.ofNat n) else .float (Number.nearest n 1)
  | .negative n => .integer (Int64.ofInt n)
  | .real x => .float x

/-- A number made of a sign and an integer. -/
def ofInteger (isNegative : Bool) (n : Nat) : Numeral :=
  if !isNegative then .natural n
  else if 0 < n ∧ n ≤ Nat.pow 2 63 then .negative (-(n : Int))
  else .real (-(Number.nearest n 1))

/-- The bound of significands. -/
def significandBound : Nat := Nat.pow 2 64

/-- Takes digits into a significand as long as it fits, and counts them. -/
def absorb (significand : Nat) : List Char → Nat × Nat
  | [] => (significand, 0)
  | digit :: rest =>
    let longer := 10 * significand + (digit.toNat - '0'.toNat)
    if longer < significandBound then
      let (final, taken) := absorb longer rest
      (final, taken + 1)
    else (significand, 0)

/-- The greatest power of ten that is a floating-point number. -/
def greatestPower : Nat := 308

/-- A power of ten. -/
def powerOfTen (n : Nat) : Float := Number.nearest (Nat.pow 10 n) 1

/-- A significand scaled up, unless the result is infinite. -/
def scaleUp (significand power : Nat) : Option Float :=
  if significand = 0 then some 0
  else if power ≤ greatestPower then
    let scaled := Number.nearest significand 1 * powerOfTen power
    if scaled.isInf then none else some scaled
  else none

/-- A significand scaled down, in two steps if the power is too great for one. -/
def scaleDown (significand power : Nat) : Float :=
  let whole := Number.nearest significand 1
  if power ≤ greatestPower then whole / powerOfTen power
  else if power ≤ 2 * greatestPower then
    whole / powerOfTen greatestPower / powerOfTen (power - greatestPower)
  else 0

/-- A significand scaled by a power of ten. -/
def scale (significand : Nat) : Int → Option Float
  | .ofNat power => scaleUp significand power
  | .negSucc power => some (scaleDown significand (power + 1))

/-- The bound of exponents. -/
def exponentBound : Nat := Nat.pow 2 31

/-- The exponent that digits spell, or how many of them were read when it became too great. -/
def exponentOf (exponent read : Nat) : List Char → Except Nat Nat
  | [] => .ok exponent
  | digit :: rest =>
    let longer := 10 * exponent + (digit.toNat - '0'.toNat)
    if longer < exponentBound then exponentOf longer (read + 1) rest else .error (read + 1)

end Numeral

namespace DocumentReader

/-- A sign before a magnitude. -/
def signed (isNegative : Bool) (magnitude : Float) : Numeral :=
  .real (if isNegative then -magnitude else magnitude)

/-- The number made of a sign, a significand and a power of ten. -/
def scaled (isNegative : Bool) (significand : Nat) (power : Int) : DocumentReader Numeral := do
  match Numeral.scale significand power with
  | some magnitude => return signed isNegative magnitude
  | none => failHere .outOfRange

/-- Takes the sign of an exponent; tells whether it is negative. -/
def exponentSign : DocumentReader Bool := do
  match ← peek with
  | some '-' =>
    advance
    return true
  | some '+' =>
    advance
    return false
  | _ => return false

/-- The rest of a number from its exponent mark on. -/
def exponentPart (isNegative : Bool) (significand : Nat) (power : Int) :
    DocumentReader Numeral := do
  advance
  let downward ← exponentSign
  let start := (← get).place
  match ← digits with
  | [] =>
    match ← peek with
    | none => failHere .endInValue
    | some _ => failNext .invalidNumber
  | spelled =>
    match Numeral.exponentOf 0 0 spelled with
    | .ok exponent =>
      scaled isNegative significand (if downward then power - exponent else power + exponent)
    | .error read =>
      if significand ≠ 0 ∧ !downward then
        failAt { start with column := start.column + read } .outOfRange
      else return signed isNegative 0

/-- The rest of a number whose digits are taken. -/
def afterDigits (isNegative : Bool) (significand : Nat) (power : Int) :
    DocumentReader Numeral := do
  match ← peek with
  | some 'e' => exponentPart isNegative significand power
  | some 'E' => exponentPart isNegative significand power
  | _ => scaled isNegative significand power

/-- The rest of a number from its point on. -/
def fractionPart (isNegative : Bool) (significand : Nat) (dropped : Nat) :
    DocumentReader Numeral := do
  advance
  match ← digits with
  | [] =>
    match ← peek with
    | none => failHere .endInValue
    | some _ => failNext .invalidNumber
  | spelled =>
    let (longer, taken) := Numeral.absorb significand spelled
    afterDigits isNegative longer (dropped - taken)

/-- The rest of a number behind the digits before the point, of which some were dropped. -/
def afterWhole (isNegative : Bool) (significand dropped : Nat) : DocumentReader Numeral := do
  match ← peek with
  | some '.' => fractionPart isNegative significand dropped
  | some 'e' => exponentPart isNegative significand dropped
  | some 'E' => exponentPart isNegative significand dropped
  | _ =>
    if dropped = 0 then return .ofInteger isNegative significand
    else scaled isNegative significand dropped

/-- A number behind its sign. -/
def numeral (isNegative : Bool) : DocumentReader Numeral := do
  match ← peek with
  | none => failHere .endInValue
  | some '0' =>
    advance
    if (← peek).any Char.isDigit then failNext .invalidNumber
    else afterWhole isNegative 0 0
  | some c =>
    if c.isDigit then
      let spelled ← digits
      let (significand, taken) := Numeral.absorb 0 spelled
      afterWhole isNegative significand (spelled.length - taken)
    else failNext .invalidNumber

end DocumentReader

end ReactiveScript
