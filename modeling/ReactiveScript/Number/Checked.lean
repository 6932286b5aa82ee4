/-! # Sixty-four bit integers without wrap-around

Arithmetic is done on unbounded integers; the result is kept when it fits a machine word and refused
when it does not. -/

namespace ReactiveScript.Number

/-- The least integer that fits. -/
def least : Int := -0x8000000000000000

/-- The bound that every integer that fits stays below. -/
def bound : Int := 0x8000000000000000

/-- The machine word of an integer that fits one. -/
def checked (n : Int) : Option Int64 :=
  if least ≤ n ∧ n < bound then some (Int64.ofInt n) else none

/-- A word that is given stands for exactly the integer that was asked for. -/
theorem toInt_of_checked_eq_some {n : Int} {word : Int64} (h : checked n = some word) :
    word.toInt = n := by
  unfold checked least bound at h
  split at h
  · rename_i fits
    cases h
    exact Int64.toInt_ofInt_of_le (by omega) (by omega)
  · cases h

/-- An integer is refused exactly when it does not fit. -/
theorem checked_eq_none_iff {n : Int} : checked n = none ↔ ¬(least ≤ n ∧ n < bound) := by
  unfold checked
  split <;> simp_all

end ReactiveScript.Number
