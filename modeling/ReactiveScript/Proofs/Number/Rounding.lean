import ReactiveScript.Number.Shortest
import ReactiveScript.Proofs.Number.Bits

/-! # Rounding to the grid

A positive ratio is rounded to the nearest place of the grid. Which power of two and which integer
are computed does not matter: any two that fit the ratio count to the same place, and a greater
ratio never counts to an earlier one (`OnGrid.gridPlace_mono`). So a ratio between the halfway
points around a number is rounded to that number (`nearest_of_reads`). -/

namespace ReactiveScript.Number

/-! ## Powers as ratios -/

/-- Both parts of a power are positive. -/
theorem powerRatio_pos {base : Nat} (h : 0 < base) (exponent : Int) :
    0 < (powerRatio base exponent).1 ∧ 0 < (powerRatio base exponent).2 := by
  cases exponent with
  | ofNat n => exact ⟨Nat.pow_pos h, Nat.one_pos⟩
  | negSucc n => exact ⟨Nat.one_pos, Nat.pow_pos h⟩

/-- The parts of a power make the power. -/
theorem powerRatio_div (base : Nat) (exponent : Int) :
    ((powerRatio base exponent).1 : ℚ) / (powerRatio base exponent).2 = (base : ℚ) ^ exponent := by
  cases exponent with
  | ofNat n => simp [powerRatio]
  | negSucc n => simp [powerRatio, zpow_negSucc]

/-! ## Rounding to an integer -/

/-- **The integer that a ratio is rounded to**: at most a half away, and even if it is a half
away. -/
structure RoundsTo (x : ℚ) (n : Nat) : Prop where
  /-- It is at most a half above the ratio. -/
  lower : (n : ℚ) - 1 / 2 ≤ x
  /-- It is at most a half below the ratio. -/
  upper : x ≤ n + 1 / 2
  /-- Half way between two integers the even one is taken. -/
  even : x = n - 1 / 2 ∨ x = n + 1 / 2 → n % 2 = 0

/-- An integer is rounded to itself. -/
theorem roundsTo_self (n : Nat) : RoundsTo n n :=
  ⟨by linarith, by linarith, by rintro (tie | tie) <;> linarith⟩

/-- A greater ratio is not rounded to a lesser integer. -/
theorem RoundsTo.mono {x y : ℚ} {m n : Nat} (first : RoundsTo x m) (second : RoundsTo y n)
    (h : x ≤ y) : m ≤ n := by
  by_contra less
  have gap : (n : ℚ) + 1 ≤ m := by exact_mod_cast Nat.lt_of_not_le less
  -- Both ratios lie half way between the two integers, which then are both even.
  have lower := first.lower
  have upper := second.upper
  have even := first.even (.inl (by linarith))
  have even' := second.even (.inr (by linarith))
  have next : (m : ℚ) = n + 1 := by linarith
  have : m = n + 1 := by exact_mod_cast next
  omega

/-- An integer and a part of one are rounded down before the half and up behind it. -/
theorem roundsTo_add (quotient : Nat) {part : ℚ} (nonneg : 0 ≤ part) (less : part < 1) :
    RoundsTo (quotient + part)
      (if part < 1 / 2 ∨ part = 1 / 2 ∧ quotient % 2 = 0 then quotient else quotient + 1) := by
  split
  · rename_i near
    rcases near with near | ⟨half, even⟩
    · refine ⟨by linarith, by linarith, ?_⟩
      rintro (tie | tie) <;> linarith
    · exact ⟨by linarith, by linarith, fun _ => even⟩
  · rename_i far
    obtain ⟨behind, odd⟩ := not_or.mp far
    refine ⟨by push_cast; linarith, by push_cast; linarith, ?_⟩
    push_cast
    rintro (tie | tie)
    · have : quotient % 2 ≠ 0 := fun even => odd ⟨by linarith, even⟩
      omega
    · linarith

/-- **Quotients are rounded.** -/
theorem roundsTo_roundDiv (above : Nat) {below : Nat} (pos : 0 < below) :
    RoundsTo ((above : ℚ) / below) (roundDiv above below) := by
  have positive : (0 : ℚ) < below := by exact_mod_cast pos
  have parts : (above : ℚ) / below =
      (above / below : Nat) + ((above % below : Nat) : ℚ) / below := by
    have sum : (below : ℚ) * (above / below : Nat) + (above % below : Nat) = above := by
      exact_mod_cast Nat.div_add_mod above below
    field_simp
    linarith
  have less : ((above % below : Nat) : ℚ) / below < 1 := by
    rw [div_lt_one positive]
    exact_mod_cast Nat.mod_lt above pos
  -- Half of the denominator is half of one.
  have before : ((above % below : Nat) : ℚ) / below < 1 / 2 ↔ 2 * (above % below) < below := by
    rw [div_lt_div_iff₀ positive two_pos, one_mul, mul_comm]
    exact_mod_cast Iff.rfl
  have half : ((above % below : Nat) : ℚ) / below = 1 / 2 ↔ 2 * (above % below) = below := by
    rw [div_eq_div_iff positive.ne' two_ne_zero, one_mul, mul_comm]
    exact_mod_cast Iff.rfl
  have rounded := roundsTo_add (above / below) (by positivity) less
  rw [parts, roundDiv]
  simpa only [before, half] using rounded

/-! ## Rounding to a place -/

/-- **The place that a ratio is rounded to**, as a power of two and a multiple of it: the power
leaves 53 bits of the ratio, fewer only if it is the least one. -/
structure OnGrid (x : ℚ) (exponent : Int) (n : Nat) : Prop where
  /-- There is a least power of two. -/
  least : -1074 ≤ exponent
  /-- It leaves at most 53 bits. -/
  below : x < 2 ^ (exponent + 53)
  /-- It leaves fewer only if it is the least one. -/
  normal : 2 ^ (exponent + 52) ≤ x ∨ exponent = -1074
  /-- The multiple is rounded. -/
  rounds : RoundsTo (x / 2 ^ exponent) n

/-- The place of a multiple of a power of two. -/
def gridPlace (exponent : Int) (n : Nat) : Nat := (exponent + 1074).toNat * 2 ^ 52 + n

/-- A multiple that needs one bit more stands at the first place of the next power of two. -/
theorem gridPlace_carry {exponent : Int} (least : -1074 ≤ exponent) :
    gridPlace exponent (2 ^ 53) = gridPlace (exponent + 1) (2 ^ 52) := by
  unfold gridPlace
  omega

section OnGrid

variable {x y : ℚ} {exponent exponent' : Int} {m n : Nat}

/-- The multiple has at most 53 bits, or is the first with 54. -/
theorem OnGrid.multiple_le (h : OnGrid x exponent n) : n ≤ 2 ^ 53 := by
  refine h.rounds.mono (roundsTo_self _) ?_
  rw [div_le_iff₀ (by positivity)]
  refine h.below.le.trans (le_of_eq ?_)
  rw [zpow_add₀ two_ne_zero]
  push_cast
  ring

/-- The multiple has at least 53 bits, unless the power of two is the least one. -/
theorem OnGrid.le_multiple (h : OnGrid x exponent n) : 2 ^ 52 ≤ n ∨ exponent = -1074 := by
  refine h.normal.imp_left fun normal => (roundsTo_self _).mono h.rounds ?_
  rw [le_div_iff₀ (by positivity)]
  rw [zpow_add₀ two_ne_zero] at normal
  push_cast
  linarith

/-- **A greater ratio is not rounded to an earlier place**, and so each ratio to one place only. -/
theorem OnGrid.gridPlace_mono (first : OnGrid x exponent m) (second : OnGrid y exponent' n)
    (h : x ≤ y) : gridPlace exponent m ≤ gridPlace exponent' n := by
  have least := first.least
  have least' := second.least
  unfold gridPlace
  rcases lt_trichotomy exponent exponent' with less | rfl | more
  · -- The lesser ratio has at most 53 bits on its grid, the greater one has 53 on a coarser one.
    have atMost := first.multiple_le
    have atLeast := second.le_multiple.resolve_right (by omega)
    omega
  · have := first.rounds.mono second.rounds (by gcongr)
    omega
  · -- The grid of the lesser ratio is not the least one, so the greater ratio is on it or behind.
    exfalso
    have normal := first.normal.resolve_right (by omega)
    have coarser : (2 : ℚ) ^ (exponent' + 53) ≤ 2 ^ (exponent + 52) :=
      zpow_le_zpow_right₀ one_le_two (by omega)
    linarith [second.below]

end OnGrid

/-- The number at a place of the grid. -/
theorem ofGrid_eq (n : Nat) (exponent : Int) :
    ofGrid n exponent = numberAt false (min (gridPlace exponent n) infinityBits) := by
  unfold ofGrid numberAt gridPlace Binary.leastExponent
  rw [Int.sub_neg, if_neg Bool.false_ne_true, Nat.pow_eq]

/-! ## The nearest number -/

section Nearest

variable {above below : Nat}

/-- A ratio scaled by a power of two, as it is computed on the numerator and the denominator. -/
theorem scaled_div (above : Nat) (pos' : 0 < below) (exponent : Int) :
    ((above * (powerRatio 2 exponent).2 : Nat) : ℚ) / (below * (powerRatio 2 exponent).1 : Nat) =
      above / below / 2 ^ exponent := by
  obtain ⟨upper, lower⟩ := powerRatio_pos two_pos exponent
  have power := powerRatio_div 2 exponent
  push_cast at power ⊢
  rw [← power]
  field_simp

variable (pos : 0 < above) (pos' : 0 < below)
include pos pos'

/-- The powers of two around a ratio that the lengths of its parts in bits give. -/
theorem log2_bounds :
    (2 : ℚ) ^ ((above.log2 : Int) - below.log2 - 1) < above / below ∧
      (above : ℚ) / below < 2 ^ ((above.log2 : Int) - below.log2 + 1) := by
  have low : (2 : ℚ) ^ above.log2 ≤ above := by exact_mod_cast Nat.log2_self_le pos.ne'
  have high : (above : ℚ) < 2 ^ (above.log2 + 1) := by exact_mod_cast Nat.lt_log2_self
  have low' : (2 : ℚ) ^ below.log2 ≤ below := by exact_mod_cast Nat.log2_self_le pos'.ne'
  have high' : (below : ℚ) < 2 ^ (below.log2 + 1) := by exact_mod_cast Nat.lt_log2_self
  have positive : (0 : ℚ) < below := by exact_mod_cast pos'
  constructor
  · rw [lt_div_iff₀ positive, sub_sub, zpow_sub₀ two_ne_zero, div_mul_eq_mul_div,
      div_lt_iff₀ (by positivity)]
    norm_cast at *
    exact Nat.mul_lt_mul_of_le_of_lt low high' (by positivity)
  · rw [div_lt_iff₀ positive, sub_add_eq_add_sub, zpow_sub₀ two_ne_zero, div_mul_eq_mul_div,
      lt_div_iff₀ (by positivity)]
    norm_cast at *
    exact Nat.mul_lt_mul_of_lt_of_le high low' (by positivity)

/-- **The leading power of two** is the greatest that is not above the ratio. -/
theorem leadingExponent_spec :
    (2 : ℚ) ^ leadingExponent above below ≤ above / below ∧
      (above : ℚ) / below < 2 ^ (leadingExponent above below + 1) := by
  obtain ⟨low, high⟩ := log2_bounds pos pos'
  generalize power : (above.log2 : Int) - below.log2 = exponent at low high
  have lower := (powerRatio_pos two_pos exponent).1
  have tested : below * (powerRatio 2 exponent).1 ≤ above * (powerRatio 2 exponent).2 ↔
      (2 : ℚ) ^ exponent ≤ above / below := by
    have positive : (0 : ℚ) < 2 ^ exponent := by positivity
    rw [← one_le_div positive, ← scaled_div above pos' exponent, one_le_div (by positivity)]
    exact_mod_cast Iff.rfl
  -- The lengths leave two powers to choose from, and the test decides between them.
  rw [leadingExponent]
  simp only [power, tested]
  split
  · rename_i fits
    exact ⟨fits, high⟩
  · rename_i less
    exact ⟨low.le, by rw [sub_add_cancel]; exact lt_of_not_ge less⟩

/-- **The place of the nearest number** is the one that the ratio is rounded to. -/
theorem onGrid_nearest :
    OnGrid ((above : ℚ) / below) (gridExponent above below)
      (roundDiv (above * (powerRatio 2 (gridExponent above below)).2)
        (below * (powerRatio 2 (gridExponent above below)).1)) := by
  obtain ⟨low, high⟩ := leadingExponent_spec pos pos'
  have grid : gridExponent above below = max (-1074) (leadingExponent above below - 52) := rfl
  -- The power lies 52 below the leading one, unless it would be less than the least one.
  generalize gridExponent above below = exponent at grid ⊢
  generalize leadingExponent above below = leading at *
  refine ⟨by omega, ?_, ?_, ?_⟩
  · exact high.trans_le (zpow_le_zpow_right₀ one_le_two (by omega))
  · by_cases finest : exponent = -1074
    · exact .inr finest
    · refine .inl (le_trans (zpow_le_zpow_right₀ one_le_two ?_) low)
      omega
  · have lower := (powerRatio_pos two_pos exponent).1
    rw [← scaled_div above pos' exponent]
    exact roundsTo_roundDiv _ (by positivity)

/-- **The nearest number stands at any place that the ratio is rounded to**, or is infinite if there
is no number. -/
theorem nearest_eq {exponent : Int} {n : Nat} (h : OnGrid ((above : ℚ) / below) exponent n) :
    nearest above below = numberAt false (min (gridPlace exponent n) infinityBits) := by
  have found := onGrid_nearest pos pos'
  have same := le_antisymm (found.gridPlace_mono h le_rfl) (h.gridPlace_mono found le_rfl)
  rw [nearest, if_neg pos.ne']
  exact (ofGrid_eq _ _).trans (by rw [same])

end Nearest

/-! ## The ratios that are rounded to a number -/

/-- How far below a magnitude the halfway point to its neighbour lies, in multiples of the power of
two. -/
def Binary.gapBelow (magnitude : Binary) : ℚ := if magnitude.narrowBelow then 1 / 4 else 1 / 2

/-- **The ratios that are rounded to a magnitude**: those between the halfway points to the two
neighbours, which themselves belong if the significand is even. -/
structure Binary.Reads (magnitude : Binary) (x : ℚ) : Prop where
  /-- The ratio is not below the halfway point below. -/
  lower : (magnitude.significand - magnitude.gapBelow) * 2 ^ magnitude.exponent ≤ x
  /-- It is not above the halfway point above. -/
  upper : x ≤ (magnitude.significand + 1 / 2) * 2 ^ magnitude.exponent
  /-- It is at one of them only if the significand is even. -/
  even : x = (magnitude.significand - magnitude.gapBelow) * 2 ^ magnitude.exponent ∨
    x = (magnitude.significand + 1 / 2) * 2 ^ magnitude.exponent → magnitude.significand % 2 = 0

variable {magnitude : Binary} {x : ℚ} {size : Nat}

/-- The gap below a magnitude is a half or a quarter. -/
theorem Binary.gapBelow_bounds (magnitude : Binary) :
    1 / 4 ≤ magnitude.gapBelow ∧ magnitude.gapBelow ≤ 1 / 2 := by
  unfold gapBelow
  split <;> norm_num

/-- A ratio between the halfway points is rounded on the grid of the magnitude, unless it lies below
a power of two. -/
theorem Binary.Reads.onGrid_same (reads : magnitude.Reads x) (there : magnitude.At size)
    (normal : 2 ^ (magnitude.exponent + 52) ≤ x ∨ magnitude.exponent = -1074) :
    OnGrid x magnitude.exponent magnitude.significand := by
  obtain ⟨-, least, bound, -, -⟩ := there
  have positive : (0 : ℚ) < 2 ^ magnitude.exponent := by positivity
  have gap := magnitude.gapBelow_bounds
  have whole : (magnitude.significand : ℚ) + 1 ≤ 2 ^ 53 := by exact_mod_cast bound
  refine ⟨least, ?_, normal, ?_, ?_, ?_⟩
  · rw [zpow_add₀ two_ne_zero]
    have less : ((magnitude.significand : ℚ) + 1 / 2) * 2 ^ magnitude.exponent <
        2 ^ 53 * 2 ^ magnitude.exponent := by
      refine mul_lt_mul_of_pos_right ?_ positive
      linarith
    have upper := reads.upper
    rw [mul_comm]
    exact_mod_cast upper.trans_lt less
  · rw [le_div_iff₀ positive]
    refine le_trans (mul_le_mul_of_nonneg_right ?_ positive.le) reads.lower
    linarith
  · rw [div_le_iff₀ positive]
    exact reads.upper
  · rw [div_eq_iff positive.ne', div_eq_iff positive.ne']
    rintro (low | high)
    · -- The ratio is as far below as a half, which is then the gap.
      refine reads.even (.inl (le_antisymm ?_ reads.lower))
      rw [low]
      refine mul_le_mul_of_nonneg_right ?_ positive.le
      linarith
    · exact reads.even (.inr high)

/-- A ratio between the halfway points that lies before the grid of the magnitude lies just below a
power of two. -/
theorem Binary.Reads.significand_eq (reads : magnitude.Reads x) (there : magnitude.At size)
    (less : x < 2 ^ (magnitude.exponent + 52)) (coarse : magnitude.exponent ≠ -1074) :
    magnitude.significand = 2 ^ 52 := by
  have normal := there.normal.resolve_right coarse
  have gap := magnitude.gapBelow_bounds
  have lower := reads.lower
  by_contra other
  have more : (2 ^ 52 + 1 : ℚ) ≤ magnitude.significand := by
    exact_mod_cast (by omega : 2 ^ 52 + 1 ≤ magnitude.significand)
  have behind : (2 : ℚ) ^ 52 * 2 ^ magnitude.exponent ≤
      (magnitude.significand - magnitude.gapBelow) * 2 ^ magnitude.exponent :=
    mul_le_mul_of_nonneg_right (by linarith) (by positivity)
  rw [zpow_add₀ two_ne_zero, mul_comm] at less
  have less : x < 2 ^ 52 * 2 ^ magnitude.exponent := by exact_mod_cast less
  linarith

/-- **A ratio between the halfway points is rounded to the place of the magnitude.** -/
theorem Binary.Reads.onGrid (reads : magnitude.Reads x) (there : magnitude.At size) :
    ∃ exponent n, OnGrid x exponent n ∧ gridPlace exponent n = size := by
  by_cases normal : 2 ^ (magnitude.exponent + 52) ≤ x ∨ magnitude.exponent = -1074
  · exact ⟨_, _, reads.onGrid_same there normal, there.place_eq⟩
  -- The magnitude is a power of two and the ratio lies below it, on a grid that is twice as fine.
  obtain ⟨less, coarse⟩ := not_or.mp normal
  have less := lt_of_not_ge less
  have power := reads.significand_eq there less coarse
  have least := there.least
  have same : gridPlace (magnitude.exponent - 1) (2 ^ 53) = size := by
    rw [gridPlace_carry (by omega), sub_add_cancel, ← power]
    exact there.place_eq
  have lower := reads.lower
  have narrow : magnitude.gapBelow = 1 / 4 :=
    if_pos (there.narrow_iff.mpr ⟨power, lt_of_le_of_ne least (Ne.symm coarse)⟩)
  rw [power, narrow] at lower
  push_cast at lower
  have finer : (2 : ℚ) ^ magnitude.exponent = 2 ^ (magnitude.exponent - 1) * 2 := by
    rw [← zpow_add_one₀ two_ne_zero, sub_add_cancel]
  have whole : (2 : ℚ) ^ (magnitude.exponent + 52) = 2 ^ (magnitude.exponent - 1) * 2 ^ 53 := by
    rw [← zpow_natCast, ← zpow_add₀ two_ne_zero]
    congr 1
    omega
  have half : (2 : ℚ) ^ (magnitude.exponent - 1 + 52) = 2 ^ (magnitude.exponent - 1) * 2 ^ 52 := by
    rw [zpow_add₀ two_ne_zero, zpow_ofNat]
  have positive : (0 : ℚ) < 2 ^ (magnitude.exponent - 1) := by positivity
  refine ⟨magnitude.exponent - 1, 2 ^ 53,
    ⟨by omega, ?_, .inl ?_, ?_, ?_, fun _ => by norm_num⟩, same⟩
  · rwa [show magnitude.exponent - 1 + 53 = magnitude.exponent + 52 by omega]
  · rw [half]
    rw [finer] at lower
    linarith
  · rw [le_div_iff₀ positive]
    rw [finer] at lower
    push_cast
    linarith
  · rw [div_le_iff₀ positive]
    rw [whole] at less
    push_cast
    linarith

/-- **A ratio between the halfway points around a number is read as that number.** -/
theorem nearest_of_reads {above below : Nat} (pos : 0 < above) (pos' : 0 < below)
    (reads : magnitude.Reads ((above : ℚ) / below)) (there : magnitude.At size)
    (finite : size < infinityBits) : nearest above below = numberAt false size := by
  obtain ⟨exponent, n, rounded, same⟩ := reads.onGrid there
  rw [nearest_eq pos pos' rounded, same, Nat.min_eq_left finite.le]

end ReactiveScript.Number
