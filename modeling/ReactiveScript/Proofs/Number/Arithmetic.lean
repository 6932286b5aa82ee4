import ReactiveScript.Value.Operate

/-! # Integer arithmetic is exact or refused

Sums, differences, products and negatives of machine words are those of the integers, or they are
refused because they are no machine words. The remainder with the sign of the divisor is made out of
the one with the sign of the dividend, which is moved by the divisor where the signs differ
(`flooredModulus_moved`); this is the remainder of floored division (`flooredMod_eq_fmod`). It
always is a machine word (`fits_of_flooredModulus`), yet it is refused where the quotient is none:
the least word has a remainder by minus one, which is zero, and is refused it
(`least_remainder_refused`). -/

namespace ReactiveScript

namespace Number

/-! ## Words -/

/-- An integer that is a machine word. -/
def Fits (n : Int) : Prop := least ≤ n ∧ n < bound

instance (n : Int) : Decidable (Fits n) := inferInstanceAs (Decidable (_ ∧ _))

/-- A machine word fits. -/
theorem fits_toInt (word : Int64) : Fits word.toInt := ⟨word.le_toInt, word.toInt_lt⟩

/-- An integer that fits is given as a word. -/
theorem exists_checked {n : Int} (fits : Fits n) :
    ∃ word, checked n = some word ∧ word.toInt = n := by
  have given : checked n = some (Int64.ofInt n) := if_pos fits
  exact ⟨Int64.ofInt n, given, toInt_of_checked_eq_some given⟩

end Number

/-! ## Remainders -/

/-- **The remainder with the sign of the divisor**: the dividend without it is a multiple of the
divisor, and it lies between zero and the divisor. -/
structure FlooredModulus (m n r : Int) : Prop where
  /-- The rest is a multiple of the divisor. -/
  divides : n ∣ m - r
  /-- A positive divisor lies above the remainder. -/
  ofPos : 0 < n → 0 ≤ r ∧ r < n
  /-- A negative divisor lies below it. -/
  ofNeg : n < 0 → n < r ∧ r ≤ 0

/-- The remainder of floored division is the one with the sign of the divisor. -/
theorem flooredModulus_fmod (m n : Int) : FlooredModulus m n (m.fmod n) where
  divides := ⟨m.fdiv n, by rw [Int.fmod_def]; omega⟩
  ofPos pos := ⟨Int.fmod_nonneg_of_pos m pos, Int.fmod_lt_of_pos m pos⟩
  ofNeg neg := by
    -- Both signs turned, it is the remainder by a positive divisor.
    have pos : 0 < -n := by omega
    have turned : m.fmod n = -((-m).fmod (-n)) := by rw [Int.neg_fmod_neg, Int.neg_neg]
    have below := Int.fmod_nonneg_of_pos (-m) pos
    have above := Int.fmod_lt_of_pos (-m) pos
    omega

/-- **There is one remainder with the sign of the divisor.** -/
theorem FlooredModulus.eq_fmod {m n r : Int} (remainder : FlooredModulus m n r) (h : n ≠ 0) :
    r = m.fmod n := by
  have other := flooredModulus_fmod m n
  have multiple : n ∣ r - m.fmod n := by
    have difference := Int.dvd_sub other.divides remainder.divides
    rwa [show m - m.fmod n - (m - r) = r - m.fmod n by omega] at difference
  -- Two such remainders are less than the divisor apart.
  have close : (r - m.fmod n).natAbs < n.natAbs := by
    rcases Int.lt_or_gt_of_ne h with neg | pos
    · have := remainder.ofNeg neg
      have := other.ofNeg neg
      omega
    · have := remainder.ofPos pos
      have := other.ofPos pos
      omega
  have := Int.eq_zero_of_dvd_of_natAbs_lt_natAbs multiple close
  omega

/-- **A remainder with another sign is moved by the divisor.** What is left of a multiple of the
divisor, on either side of zero, becomes the remainder with the sign of the divisor. -/
theorem flooredModulus_moved {m n r : Int} (divides : n ∣ m - r) (small : r.natAbs < n.natAbs) :
    FlooredModulus m n (if r ≠ 0 ∧ decide (r < 0) ≠ decide (n < 0) then r + n else r) := by
  split
  · rename_i moved
    have signs : r ≠ 0 ∧ (r < 0 ∧ ¬ n < 0 ∨ ¬ r < 0 ∧ n < 0) := by
      refine ⟨moved.1, ?_⟩
      by_cases left : r < 0 <;> by_cases right : n < 0 <;> simp_all
    refine ⟨?_, fun pos => by omega, fun neg => by omega⟩
    rw [show m - (r + n) = m - r - n by omega]
    exact Int.dvd_sub divides (Int.dvd_refl n)
  · rename_i kept
    have signs : r = 0 ∨ (r < 0 ↔ n < 0) := by
      by_cases zero : r = 0
      · exact .inl zero
      · have same : decide (r < 0) = decide (n < 0) :=
          Decidable.byContradiction fun other => kept ⟨zero, other⟩
        exact .inr (decide_eq_decide.mp same)
    exact ⟨divides, fun pos => by omega, fun neg => by omega⟩

/-- **The remainder always fits**, as it is no further from zero than the divisor. -/
theorem fits_of_flooredModulus {m n r : Int} (remainder : FlooredModulus m n r) (h : n ≠ 0)
    (divisor : Number.Fits n) : Number.Fits r := by
  unfold Number.Fits Number.least Number.bound at *
  rcases Int.lt_or_gt_of_ne h with neg | pos
  · have between := remainder.ofNeg neg
    omega
  · have between := remainder.ofPos pos
    omega

/-! ## The remainder of words -/

/-- **The remainder of words is that of floored division.** The sign test and the move by the
divisor make it out of the remainder with the sign of the dividend, and the move never leaves the
words. -/
theorem flooredMod_eq_fmod {m n : Int64} (h : n ≠ 0) (pair : ¬(m = Int64.minValue ∧ n = -1)) :
    ∃ word, flooredMod m n = some word ∧ word.toInt = m.toInt.fmod n.toInt := by
  have nonzero : n.toInt ≠ 0 := fun zero => h (Int64.toInt_inj.mp zero)
  have rest : (m % n).toInt = m.toInt.tmod n.toInt := Int64.toInt_mod m n
  have divides : n.toInt ∣ m.toInt - (m % n).toInt := by
    rw [rest, Int.tmod_def, Int.sub_sub_self]
    exact Int.dvd_mul_right _ _
  have small : (m % n).toInt.natAbs < n.toInt.natAbs := by
    rw [rest, Int.natAbs_tmod]
    exact Nat.mod_lt _ (Int.natAbs_pos.mpr nonzero)
  have remainder := flooredModulus_moved divides small
  have given : checkedRem m n = some (m % n) := if_neg fun refused => refused.elim h pair
  -- The tests on words are the tests on the integers that they are.
  have test : ((m % n != 0) && decide (m % n < 0) != decide (n < 0)) = true ↔
      (m % n).toInt ≠ 0 ∧ decide ((m % n).toInt < 0) ≠ decide (n.toInt < 0) := by
    simp [Int64.lt_iff_toInt_lt, ← Int64.toInt_inj]
  rw [flooredMod, given, Option.bind_eq_bind, Option.bind_some]
  by_cases moved : (m % n).toInt ≠ 0 ∧ decide ((m % n).toInt < 0) ≠ decide (n.toInt < 0)
  · rw [if_pos moved] at remainder
    obtain ⟨word, made, value⟩ := Number.exists_checked
      (fits_of_flooredModulus remainder nonzero (Number.fits_toInt n))
    exact ⟨word, by rw [if_pos (test.mpr moved), made], value.trans (remainder.eq_fmod nonzero)⟩
  · rw [if_neg moved] at remainder
    exact ⟨m % n, if_neg fun same => moved (test.mp same), remainder.eq_fmod nonzero⟩

/-! ## Operators -/

/-- **An exact result or none**: the integer itself if it is a machine word, a runtime error if it
is not. -/
structure ExactOrRefused (n : Int) (outcome : Except Stop Value) : Prop where
  /-- What fits is given. -/
  given : Number.Fits n → ∃ word : Int64, outcome = .ok (.int word) ∧ word.toInt = n
  /-- What does not fit is refused. -/
  refused : ¬ Number.Fits n → ∃ fault, outcome = .error (.fault fault) ∧ fault.kind = .runtimeError

/-- A checked integer is given exactly or refused, whatever runtime error is the cause. -/
theorem exactOrRefused_intOr {cause : Cause} (kind : cause.kind = .runtimeError) (n : Int) :
    ExactOrRefused n ((Value.intOr cause (Number.checked n)).mapError .fault) where
  given fits := by
    obtain ⟨word, made, value⟩ := Number.exists_checked fits
    refine ⟨word, ?_, value⟩
    rw [made, Value.intOr]
    rfl
  refused unfit := by
    rw [Number.checked_eq_none_iff.mpr unfit]
    exact ⟨cause.fault, rfl, kind⟩

/-- On two integers an operator does integer arithmetic. -/
theorem run_binary_int (op : BinaryOp) (m n : Int64) (store : Store) :
    (Value.binary op (.int m) (.int n)).run' store = (intBinary op m n).mapError .fault := by
  have lifted : Value.binary op (.int m) (.int n) = (liftM (intBinary op m n) : Alloc Value) := by
    cases op <;> rfl
  rw [lifted]
  cases intBinary op m n <;> rfl

/-- **Integer arithmetic is exact or refused.** Sums, differences, products and negatives are given
as the integers that they are, or refused with a runtime error where these are no machine words. The
remainder by any divisor but zero is given with the sign of the divisor, except for the least word
by minus one, where it is refused. Zero divides nothing and leaves no remainder. -/
theorem arithmetic_exact (store : Store) (m n : Int64) :
    (ExactOrRefused (m.toInt + n.toInt) ((Value.binary .add (.int m) (.int n)).run' store) ∧
      ExactOrRefused (m.toInt - n.toInt) ((Value.binary .sub (.int m) (.int n)).run' store) ∧
      ExactOrRefused (m.toInt * n.toInt) ((Value.binary .mul (.int m) (.int n)).run' store) ∧
      ExactOrRefused (-m.toInt) ((Value.unary store .negate (.int m)).mapError .fault)) ∧
    (n ≠ 0 → ¬(m = Int64.minValue ∧ n = -1) → ∃ word : Int64,
      (Value.binary .mod (.int m) (.int n)).run' store = .ok (.int word) ∧
      FlooredModulus m.toInt n.toInt word.toInt) ∧
    (m = Int64.minValue ∧ n = -1 → ∃ fault,
      (Value.binary .mod (.int m) (.int n)).run' store = .error (.fault fault) ∧
      fault.kind = .runtimeError) ∧
    (n = 0 →
      (∃ fault, (Value.binary .mod (.int m) (.int n)).run' store = .error (.fault fault) ∧
        fault.kind = .modulusByZero) ∧
      ∃ fault, (Value.binary .div (.int m) (.int n)).run' store = .error (.fault fault) ∧
        fault.kind = .divisionByZero) := by
  simp only [run_binary_int]
  refine ⟨⟨?_, ?_, ?_, ?_⟩, ?_, ?_, ?_⟩
  · exact exactOrRefused_intOr rfl _
  · exact exactOrRefused_intOr rfl _
  · exact exactOrRefused_intOr rfl _
  · exact exactOrRefused_intOr rfl _
  · intro h pair
    obtain ⟨word, made, value⟩ := flooredMod_eq_fmod h pair
    refine ⟨word, ?_, value ▸ flooredModulus_fmod m.toInt n.toInt⟩
    rw [intBinary, if_neg h, made]
    rfl
  · rintro ⟨rfl, rfl⟩
    exact ⟨(Cause.overflow "%").fault, rfl, rfl⟩
  · rintro rfl
    exact ⟨⟨Cause.modulusByZero.fault, rfl, rfl⟩, Cause.divisionByZero.fault, rfl, rfl⟩

/-- The least word leaves a remainder by the greatest but not by minus one, the greatest has a
negative, and nothing leaves a remainder by zero. -/
theorem arithmetic_exact_at_limits :
    (∃ word : Int64, (Value.binary .mod (.int Int64.minValue) (.int Int64.maxValue)).run' .empty =
        .ok (.int word) ∧
      FlooredModulus Int64.minValue.toInt Int64.maxValue.toInt word.toInt) ∧
    (∃ fault,
      (Value.binary .mod (.int Int64.minValue) (.int (-1))).run' .empty = .error (.fault fault) ∧
        fault.kind = .runtimeError) ∧
    (∃ word : Int64,
      (Value.unary .empty .negate (.int Int64.maxValue)).mapError Stop.fault = .ok (.int word) ∧
      word.toInt = -Int64.maxValue.toInt) ∧
    ∃ fault, (Value.binary .mod (.int 1) (.int 0)).run' .empty = .error (.fault fault) ∧
      fault.kind = .modulusByZero := by
  have limits := arithmetic_exact .empty Int64.minValue Int64.maxValue
  have refused := arithmetic_exact .empty Int64.minValue (-1)
  have greatest := arithmetic_exact .empty Int64.maxValue 0
  have zero := arithmetic_exact .empty 1 0
  exact ⟨limits.2.1 (by decide) (by decide), refused.2.2.1 ⟨rfl, rfl⟩,
    greatest.1.2.2.2.given (by decide), (zero.2.2.2 rfl).1⟩

/-- **The least word has a remainder by minus one, but is refused it.** -/
theorem least_remainder_refused :
    FlooredModulus Int64.minValue.toInt (-1 : Int64).toInt 0 ∧ Number.Fits 0 ∧
      ∃ fault,
        (Value.binary .mod (.int Int64.minValue) (.int (-1))).run' .empty = .error (.fault fault) ∧
          fault.kind = .runtimeError :=
  ⟨⟨by decide, by decide, by decide⟩, by decide, (Cause.overflow "%").fault, rfl, rfl⟩

end ReactiveScript
