import Mathlib.Algebra.Order.Ring.Int
import ReactiveScript.Proofs.Evaluation.Program
import ReactiveScript.Proofs.Number.Arithmetic

/-! # Powers of integers

A power is computed only as far as it can fit: of zero and of the units every power fits, and of any
other integer none with an exponent of 64 or more (`fits_pow_of_unit`, `not_fits_pow`). So what is
computed is the power itself, checked (`checkedPower_eq`). Before that, though, exponents from
`exponentBound` on are refused for every base. That is right for all bases but zero and the units,
whose powers fit: the main statement, `power_exact`, holds them apart. -/

namespace ReactiveScript

/-! ## Which powers fit -/

/-- Zero and the units. -/
theorem unit_cases {base : Int} (unit : base.natAbs ≤ 1) : base = 0 ∨ base = 1 ∨ base = -1 := by
  omega

/-- A power of zero or of a unit depends on the exponent only as far as it is zero or odd. -/
theorem pow_of_unit {base : Int} (unit : base.natAbs ≤ 1) {exponent : Nat} (pos : exponent ≠ 0) :
    base ^ (2 - exponent % 2) = base ^ exponent := by
  rcases unit_cases unit with rfl | rfl | rfl
  · rw [zero_pow pos, zero_pow (by omega)]
  · rw [one_pow, one_pow]
  · rcases Nat.even_or_odd exponent with even | odd
    · rw [even.neg_one_pow, Nat.even_iff.mp even, Nat.sub_zero, neg_one_sq]
    · rw [odd.neg_one_pow, Nat.odd_iff.mp odd, pow_one]

/-- Every power of zero or of a unit fits. -/
theorem fits_pow_of_unit {base : Int} (unit : base.natAbs ≤ 1) (exponent : Nat) :
    Number.Fits (base ^ exponent) := by
  have small : (base ^ exponent).natAbs ≤ 1 := by
    rw [Int.natAbs_pow]
    exact pow_le_one₀ (Nat.zero_le _) unit
  unfold Number.Fits Number.least Number.bound
  omega

/-- No other power fits with an exponent of 64 or more: it is too far from zero. -/
theorem not_fits_pow {base : Int} (large : 2 ≤ base.natAbs) {exponent : Nat} (h : 64 ≤ exponent) :
    ¬ Number.Fits (base ^ exponent) := by
  have far : 2 ^ 64 ≤ (base ^ exponent).natAbs := by
    calc 2 ^ 64 ≤ 2 ^ exponent := Nat.pow_le_pow_right (by omega) h
      _ ≤ base.natAbs ^ exponent := Nat.pow_le_pow_left large exponent
      _ = (base ^ exponent).natAbs := (Int.natAbs_pow base exponent).symm
  unfold Number.Fits Number.least Number.bound
  omega

/-! ## What is computed -/

/-- **What is computed is the power, checked.** -/
theorem checkedPower_eq (base : Int64) (exponent : Nat) :
    checkedPower base exponent = Number.checked (base.toInt ^ exponent) := by
  unfold checkedPower
  by_cases zero : exponent = 0
  · rw [if_pos zero, zero, pow_zero]
    rfl
  rw [if_neg zero]
  by_cases unit : base.toInt.natAbs ≤ 1
  · rw [if_pos unit, ← pow_of_unit unit zero]
    rfl
  rw [if_neg unit]
  by_cases short : exponent ≤ 63
  · rw [if_pos short]
    rfl
  · rw [if_neg short]
    exact (Number.checked_eq_none_iff.mpr (not_fits_pow (by omega) (by omega))).symm

/-- Below the bound on exponents a power is exact or refused. -/
theorem exactOrRefused_integerPower (base : Int64) {exponent : Nat} (h : exponent < exponentBound) :
    ExactOrRefused (base.toInt ^ exponent) ((integerPower base exponent).mapError .fault) := by
  rw [integerPower, if_pos h, checkedPower_eq]
  exact exactOrRefused_intOr rfl _

/-- From the bound on exponents on every power is refused. -/
theorem integerPower_eq_error (base : Int64) {exponent : Nat} (h : exponentBound ≤ exponent) :
    integerPower base exponent = .error (Cause.callOverflow "pow").fault := by
  rw [integerPower, if_neg (Nat.not_lt.mpr h)]
  rfl

/-- Exponents from the bound on are so large that only powers of zero and of the units fit. -/
theorem fits_pow_iff {base : Int} {exponent : Nat} (h : exponentBound ≤ exponent) :
    Number.Fits (base ^ exponent) ↔ base.natAbs ≤ 1 := by
  have long : 64 ≤ exponent := Nat.le_trans (by decide) h
  constructor
  · intro fits
    by_contra large
    exact not_fits_pow (by omega) long fits
  · intro unit
    exact fits_pow_of_unit unit exponent

/-! ## Calls -/

/-- An evaluation that is an outcome ends as the outcome does. -/
theorem ofExcept_of_ok {machine : Machine} {outcome : Except Fault Value} {value : Value}
    (given : outcome.mapError Stop.fault = .ok value) :
    Eval.ofExcept outcome machine = .ok value machine := by
  cases outcome <;> cases given
  rfl

/-- An evaluation that is an outcome is refused as the outcome is. -/
theorem ofExcept_of_error {machine : Machine} {outcome : Except Fault Value} {fault : Fault}
    (refused : outcome.mapError Stop.fault = .error (.fault fault)) :
    Eval.ofExcept outcome machine = .error (.fault fault) machine := by
  cases outcome <;> cases refused
  rfl

/-- A call on two integers changes nothing; it gives the power of the first to the second, if that
is not negative, or the fault of the power. -/
theorem run_pow (machine : Machine) (name : String) (base : Int64) {exponent : Int64}
    (h : 0 ≤ exponent.toInt) :
    Eval.math .pow ⟨name, [.int base, .int exponent]⟩ machine =
      Eval.ofExcept (integerPower base exponent.toInt.toNat) machine := by
  have power : Call.power ⟨name, [.int base, .int exponent]⟩ =
      integerPower base exponent.toInt.toNat := by
    change (if 0 ≤ exponent.toInt then _ else _) = _
    rw [if_pos h]
  rw [← power]
  rfl

/-- **Powers of integers are exact or refused**, if the exponent is not negative. A power that is a
machine word is given as the integer that it is, provided that the exponent is below the bound, and
one that is none is refused with a runtime error. From the bound on every power is refused; of these
the powers of zero and of the units, and no others, would fit. The machine stays as it was. -/
theorem power_exact (machine : Machine) (name : String) (base exponent : Int64)
    (h : 0 ≤ exponent.toInt) :
    (Number.Fits (base.toInt ^ exponent.toInt.toNat) → exponent.toInt.toNat < exponentBound →
      ∃ word : Int64, Eval.math .pow ⟨name, [.int base, .int exponent]⟩ machine =
          .ok (.int word) machine ∧ word.toInt = base.toInt ^ exponent.toInt.toNat) ∧
    (¬ Number.Fits (base.toInt ^ exponent.toInt.toNat) →
      ∃ fault, Eval.math .pow ⟨name, [.int base, .int exponent]⟩ machine =
          .error (.fault fault) machine ∧ fault.kind = .runtimeError) ∧
    (exponentBound ≤ exponent.toInt.toNat →
      (Number.Fits (base.toInt ^ exponent.toInt.toNat) ↔ base.toInt.natAbs ≤ 1) ∧
      ∃ fault, Eval.math .pow ⟨name, [.int base, .int exponent]⟩ machine =
          .error (.fault fault) machine ∧ fault.kind = .runtimeError) := by
  rw [run_pow machine name base h]
  have overflow (long : exponentBound ≤ exponent.toInt.toNat) :
      ∃ fault, Eval.ofExcept (integerPower base exponent.toInt.toNat) machine =
        .error (.fault fault) machine ∧ fault.kind = .runtimeError := by
    rw [integerPower_eq_error base long]
    exact ⟨_, rfl, rfl⟩
  refine ⟨fun fits short => ?_, fun unfit => ?_, fun long => ⟨fits_pow_iff long, overflow long⟩⟩
  · obtain ⟨word, given, value⟩ := (exactOrRefused_integerPower base short).given fits
    exact ⟨word, ofExcept_of_ok given, value⟩
  · by_cases short : exponent.toInt.toNat < exponentBound
    · obtain ⟨fault, refused, kind⟩ := (exactOrRefused_integerPower base short).refused unfit
      exact ⟨fault, ofExcept_of_error refused, kind⟩
    · exact overflow (Nat.le_of_not_lt short)

/-- Two to the power of 62 fits, and two to the power of 63 does not; minus one has a power with the
greatest exponent below the bound. -/
theorem powers_of_two_and_minus_one :
    (∃ word : Int64, Eval.math .pow ⟨"pow", [.int 2, .int 62]⟩ (.initial .standard .bare) =
        .ok (.int word) (.initial .standard .bare) ∧ word.toInt = 4611686018427387904) ∧
    (∃ fault, Eval.math .pow ⟨"pow", [.int 2, .int 63]⟩ (.initial .standard .bare) =
        .error (.fault fault) (.initial .standard .bare) ∧ fault.kind = .runtimeError) ∧
    ∃ word : Int64, Eval.math .pow ⟨"m_pow", [.int (-1), .int 4294967295]⟩
        (.initial .standard .bare) = .ok (.int word) (.initial .standard .bare) ∧
      word.toInt = (-1) ^ 4294967295 := by
  refine ⟨?_, ?_, ?_⟩
  · exact (power_exact _ "pow" 2 62 (by decide)).1 (by decide) (by decide)
  · exact (power_exact _ "pow" 2 63 (by decide)).2.1 (by decide)
  · exact (power_exact _ "m_pow" (-1) 4294967295 (by decide)).1 (fits_pow_of_unit (by decide) _)
      (by decide)

/-- **A power of one is refused** although it is one, because the exponent has more than 32 bits. -/
theorem unit_power_refused :
    ((1 : Int64).toInt ^ (4294967296 : Int64).toInt.toNat = 1 ∧ Number.Fits 1) ∧
      ∃ fault, Eval.math .pow ⟨"pow", [.int 1, .int 4294967296]⟩ (.initial .standard .bare) =
        .error (.fault fault) (.initial .standard .bare) ∧ fault.kind = .runtimeError := by
  refine ⟨⟨one_pow _, by decide⟩, ?_⟩
  rw [run_pow _ _ _ (by decide), integerPower_eq_error 1 (by decide)]
  exact ⟨_, rfl, rfl⟩

end ReactiveScript
