/-! # Dates

The date of a day that is counted from the beginning of 1970. Years are taken to begin in March, so
that a leap day is the last day of its year and the months have a regular pattern of lengths. -/

namespace ReactiveScript

/-- A date. -/
structure Date where
  /-- The year. -/
  year : Nat
  /-- The month, from one. -/
  month : Nat
  /-- The day of the month, from one. -/
  day : Nat
deriving DecidableEq, Repr

/-- The days from the first of March of year zero to the first of January 1970. -/
def daysBefore1970 : Nat := 719468

/-- The days of four hundred years. -/
def daysOfCycle : Nat := 146097

/-- The date of a day counted from the first of January 1970. -/
def Date.ofDays (days : Nat) : Date :=
  let counted := days + daysBefore1970
  let dayOfCycle := counted % daysOfCycle
  let yearOfCycle :=
    (dayOfCycle - dayOfCycle / 1460 + dayOfCycle / 36524 - dayOfCycle / 146096) / 365
  let dayOfYear := dayOfCycle - (365 * yearOfCycle + yearOfCycle / 4 - yearOfCycle / 100)
  let monthFromMarch := (5 * dayOfYear + 2) / 153
  let month := if monthFromMarch < 10 then monthFromMarch + 3 else monthFromMarch - 9
  let year := yearOfCycle + 400 * (counted / daysOfCycle)
  ⟨if month ≤ 2 then year + 1 else year, month, dayOfYear - (153 * monthFromMarch + 2) / 5 + 1⟩

/-- A number in decimal with leading zeros up to a width. -/
def padded (width n : Nat) : String :=
  let digits := toString n
  String.ofList (List.replicate (width - digits.length) '0') ++ digits

/-- The date and time of a moment in milliseconds since the beginning of 1970, such as
`2024-02-29 23:59:59`. -/
def timeText (milliseconds : Nat) : String :=
  let seconds := milliseconds / 1000
  let date := Date.ofDays (seconds / 86400)
  let ofDay := seconds % 86400
  s!"{padded 4 date.year}-{padded 2 date.month}-{padded 2 date.day} " ++
    s!"{padded 2 (ofDay / 3600)}:{padded 2 (ofDay / 60 % 60)}:{padded 2 (ofDay % 60)}"

example : Date.ofDays 0 = ⟨1970, 1, 1⟩ := by decide

example : Date.ofDays 19782 = ⟨2024, 2, 29⟩ := by decide

end ReactiveScript
