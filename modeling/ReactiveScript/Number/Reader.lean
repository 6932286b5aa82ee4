import ReactiveScript.Number.Checked
import ReactiveScript.Number.Nearest

/-! # Reading numbers from text

Integers are an optional sign and digits. Floating-point numbers are an optional sign and either a
word for a special value in any case, or digits with an optional point and exponent, of which at
least one stands before the exponent; the value is the nearest number. -/

namespace ReactiveScript.Number

/-- The natural number that a list of plain digits spells. -/
def naturalOf (digits : List Char) : Nat :=
  digits.foldl (fun total digit => 10 * total + (digit.toNat - '0'.toNat)) 0

/-- The natural number that a nonempty text of plain digits spells. -/
def readNatural (chars : List Char) : Option Nat :=
  if chars ≠ [] ∧ chars.all Char.isDigit then some (naturalOf chars) else none

/-- Whether a number starts with a minus sign, and what follows its sign. -/
def splitSign : List Char → Bool × List Char
  | '-' :: rest => (true, rest)
  | '+' :: rest => (false, rest)
  | chars => (false, chars)

/-- The integer that a text spells, of any size. -/
def readInteger (chars : List Char) : Option Int :=
  let (negative, rest) := splitSign chars
  (readNatural rest).map fun n => if negative then -(n : Int) else n

/-- The machine word that a text spells. -/
def readWord (chars : List Char) : Option Int64 :=
  (readInteger chars).bind checked

/-- The parts of an unsigned decimal: digits before the point, digits after it, and the exponent. -/
structure DecimalParts where
  /-- The digits before the point. -/
  whole : List Char
  /-- The digits after the point. -/
  fraction : List Char
  /-- The power of ten. -/
  power : Int

/-- The exponent at the end of a decimal, zero if there is none. -/
def readPower : List Char → Option Int
  | [] => some 0
  | mark :: rest => if mark = 'e' ∨ mark = 'E' then readInteger rest else none

/-- The parts of an unsigned decimal text. -/
def readParts (chars : List Char) : Option DecimalParts :=
  let whole := chars.takeWhile Char.isDigit
  let rest := chars.dropWhile Char.isDigit
  let (fraction, tail) :=
    match rest with
    | '.' :: after => (after.takeWhile Char.isDigit, after.dropWhile Char.isDigit)
    | _ => ([], rest)
  if whole.isEmpty && fraction.isEmpty then none
  else (readPower tail).map (⟨whole, fraction, ·⟩)

/-- Powers of ten beyond this lie outside the range of floating-point numbers whatever digits
stand before them. -/
def powerLimit : Int := 400

/-- The number nearest to a decimal: far outside the range it is infinite or zero. -/
def DecimalParts.value (parts : DecimalParts) : Float :=
  let digits := naturalOf (parts.whole ++ parts.fraction)
  let exponent := parts.power - parts.fraction.length
  let size := exponent + (parts.whole.length + parts.fraction.length : Nat)
  if digits = 0 ∨ size < -powerLimit then 0
  else if powerLimit + (parts.whole.length + parts.fraction.length : Nat) < size then infinity
  else
    let (above, below) := powerRatio 10 exponent
    nearest (digits * above) below

/-- The words for the special values, in lower case. -/
def specialValue (word : String) : Option Float :=
  if word = "inf" ∨ word = "infinity" then some infinity
  else if word = "nan" then some notANumber
  else none

/-- The floating-point number that a text spells. -/
def readFloat (chars : List Char) : Option Float :=
  let (negative, rest) := splitSign chars
  let magnitude :=
    match specialValue (String.ofList (rest.map Char.toLower)) with
    | some value => some value
    | none => (readParts rest).map DecimalParts.value
  magnitude.map fun value => if negative then -value else value

end ReactiveScript.Number
