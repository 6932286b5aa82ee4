import Mathlib
import ReactiveScript.Number.Binary

/-! # Comparing floating-point numbers

Two floating-point numbers are equal when they are numbers and differ at most in the sign of a zero.
So equality is symmetric and transitive, and reflexive but for the value that is no number, which a
machine word never widens to (`isNaN_ofWord`). -/

namespace ReactiveScript.Number

open Float.Model Float.Model.UnpackedFloat

/-! ## Equality -/

variable {x y z : Float}

/-- A number equals itself. -/
theorem beq_self (number : x.isNaN = false) : (x == x) = true := by
  have notNaN : x ≠ Float.nan := by simpa [Float.isNaN_eq_decide_eq_nan] using number
  exact Float.beq_iff_ne_nan_and_eq.mpr ⟨notNaN, notNaN, .inl rfl⟩

/-- What equals something is a number. -/
theorem isNaN_of_beq (h : (x == y) = true) : x.isNaN = false := by
  simpa [Float.isNaN_eq_decide_eq_nan] using (Float.beq_iff_ne_nan_and_eq.mp h).1

/-- Equality does not depend on the order. -/
theorem beq_symm (h : (x == y) = true) : (y == x) = true := by
  obtain ⟨first, second, same⟩ := Float.beq_iff_ne_nan_and_eq.mp h
  refine Float.beq_iff_ne_nan_and_eq.mpr ⟨second, first, ?_⟩
  rcases same with rfl | ⟨rfl, rfl⟩ | ⟨rfl, rfl⟩
  · exact .inl rfl
  · exact .inr (.inr ⟨rfl, rfl⟩)
  · exact .inr (.inl ⟨rfl, rfl⟩)

/-- Equality is handed on. -/
theorem beq_trans (h : (x == y) = true) (h' : (y == z) = true) : (x == z) = true := by
  obtain ⟨first, -, same⟩ := Float.beq_iff_ne_nan_and_eq.mp h
  obtain ⟨-, third, same'⟩ := Float.beq_iff_ne_nan_and_eq.mp h'
  refine Float.beq_iff_ne_nan_and_eq.mpr ⟨first, third, ?_⟩
  -- There are only two zeros, so one of three equal numbers is another one of them.
  rcases same with rfl | ⟨rfl, rfl⟩ | ⟨rfl, rfl⟩
  · exact same'
  · rcases same' with rfl | ⟨-, rfl⟩ | ⟨-, rfl⟩
    · exact .inr (.inl ⟨rfl, rfl⟩)
    · exact .inr (.inl ⟨rfl, rfl⟩)
    · exact .inl rfl
  · rcases same' with rfl | ⟨-, rfl⟩ | ⟨-, rfl⟩
    · exact .inr (.inr ⟨rfl, rfl⟩)
    · exact .inl rfl
    · exact .inr (.inr ⟨rfl, rfl⟩)

/-! ## Words widen to numbers -/

/-- A biased exponent that fits is not the one of what is infinite or no number. -/
theorem biased_ne {biased : Nat} (fits : ¬ 2 ^ 11 ≤ biased + 1) :
    BitVec.ofNat 11 biased ≠ -1#11 := by
  intro same
  have value := congrArg BitVec.toNat same
  rw [BitVec.toNat_ofNat, Nat.mod_eq_of_lt (by omega)] at value
  have greatest : (-1#11).toNat = 2047 := by decide
  omega

/-- A number packed with an exponent that is not the greatest is read as a number. -/
theorem isNaN_packComponents {sign : Sign} {exponent : BitVec 11} {mantissa : BitVec 52}
    (fits : exponent ≠ -1#11) :
    (UnpackedFloat.unpack Format.binary64
      (packComponents Format.binary64 sign exponent mantissa)).isNaN = false := by
  rw [UnpackedFloat.unpack]
  simp only [unpackExponent_packComponents]
  rw [if_neg fits]
  split
  · split <;> rfl
  · rfl

/-- Packing a number gives a number. -/
theorem isNaN_pack {x : UnpackedFloat} (number : x.isNaN = false) :
    (Float.Model.pack x).isNaN = false := by
  have infinite (sign : Sign) : (UnpackedFloat.unpack Format.binary64
      (packedInfinity Format.binary64 sign)).isNaN = false := by
    cases sign <;> decide
  change (UnpackedFloat.unpack Format.binary64
    (UnpackedFloat.pack Format.binary64 x)).isNaN = false
  cases x with
  | notANumber => cases number
  | infinity sign => exact infinite sign
  | zero sign => exact isNaN_packComponents (by decide)
  | finite sign mantissa exponent pos =>
    rw [UnpackedFloat.pack]
    split
    · exact infinite sign
    · rename_i fits
      split
      · exact isNaN_packComponents (biased_ne fits)
      · exact isNaN_packComponents (by decide)

/-- Rounding gives a number. -/
theorem isNaN_normalize (spec : Format) (mantissa exponent : Int) (zeroSign : Sign) :
    (UnpackedFloat.normalize spec mantissa exponent zeroSign).isNaN = false := by
  have rounded (sign : Sign) (mantissa : Nat) :
      (UnpackedFloat.round spec sign mantissa exponent).isNaN = false := by
    unfold UnpackedFloat.round roundWithAccuracy
    simp only
    split <;> rfl
  unfold UnpackedFloat.normalize
  split
  · exact rounded _ _
  · rfl
  · exact rounded _ _

/-- The negative of a number is a number. -/
theorem isNaN_neg (number : x.isNaN = false) : (-x).isNaN = false := by
  refine isNaN_pack ?_
  change x.toModel.unpack.isNaN = false at number
  revert number
  cases x.toModel.unpack <;> exact id

/-- **A word widens to a number.** -/
theorem isNaN_ofWord (word : Int64) : (ofWord word).isNaN = false := by
  have unsigned (word : UInt64) : word.toFloat.isNaN = false :=
    isNaN_pack (isNaN_normalize _ _ _ _)
  rw [ofWord]
  split
  · exact isNaN_neg (unsigned _)
  · exact unsigned _

end ReactiveScript.Number
