import ReactiveScript.Proofs.Number.Rounding

/-! # Widening machine words

A machine word is widened to the floating-point number that its size is rounded to, with its sign
(`exists_onGrid_ofWord`). Rounding keeps the order, so a greater word is never widened to a lesser
number (`key_ofWord_mono`), though neighbours may be widened to one number. Words of at most 53 bits
are kept apart (`ofWord_inj`). -/

namespace ReactiveScript.Number

open Float.Model Float.Model.UnpackedFloat

/-! ## Bits behind the significand -/

/-- **What a significand with two residual bits stands for**: a number that is the significand and a
half for the first bit, and less than a half more, which is none exactly if the second bit is not
set. -/
def StandsFor (extended : ExtendedMantissa) (x : ℚ) : Prop :=
  ∃ rest : ℚ, 0 ≤ rest ∧ rest < 1 / 2 ∧ (extended.stickyBit = true ↔ rest ≠ 0) ∧
    x = extended.mantissa + (if extended.roundBit then 1 / 2 else 0) + rest

variable {extended : ExtendedMantissa} {x : ℚ}

/-- A significand without residual bits stands for itself. -/
theorem standsFor_exact (n : Nat) :
    StandsFor (ExtendedMantissa.ofMantissaAndAccuracy n .exact) n :=
  ⟨0, le_rfl, by norm_num, by simp [ExtendedMantissa.ofMantissaAndAccuracy],
    by simp [ExtendedMantissa.ofMantissaAndAccuracy]⟩

/-- Shifting by one bit halves. -/
theorem StandsFor.shiftRightOne (h : StandsFor extended x) :
    StandsFor extended.shiftRightOne (x / 2) := by
  obtain ⟨rest, nonneg, less, sticky, rfl⟩ := h
  have parts : (extended.mantissa : ℚ) =
      2 * (extended.mantissa / 2 : Nat) + (extended.mantissa % 2 : Nat) := by
    exact_mod_cast (Nat.div_add_mod _ 2).symm
  -- The bit that falls out becomes the first residual bit, the old one joins what is behind it.
  refine ⟨(if extended.roundBit then 1 / 4 else 0) + rest / 2, ?_, ?_, ?_, ?_⟩
  · split <;> linarith
  · split <;> linarith
  · rcases extended with ⟨mantissa, roundBit, stickyBit⟩
    cases roundBit
    · simpa [ExtendedMantissa.shiftRightOne] using sticky
    · simp [ExtendedMantissa.shiftRightOne]
      linarith
  · rcases Nat.mod_two_eq_zero_or_one extended.mantissa with even | odd
    · rw [even] at parts
      simp only [ExtendedMantissa.shiftRightOne, even]
      rw [parts]
      split <;> push_cast <;> simp <;> ring
    · rw [odd] at parts
      simp only [ExtendedMantissa.shiftRightOne, odd]
      rw [parts]
      split <;> push_cast <;> simp <;> ring

/-- Shifting by bits divides by a power of two. -/
theorem StandsFor.shiftRight (h : StandsFor extended x) (count : Nat) :
    StandsFor (extended >>> count) (x / 2 ^ count) := by
  change StandsFor (count.repeat ExtendedMantissa.shiftRightOne extended) _
  induction count with
  | zero => simpa [Nat.repeat] using h
  | succ count ih =>
    rw [Nat.repeat, pow_succ, ← div_div]
    exact ih.shiftRightOne

/-- The residual bits decide which way is rounded. -/
theorem StandsFor.roundsTo (h : StandsFor extended x) :
    RoundsTo x extended.roundedMantissa := by
  obtain ⟨rest, nonneg, less, sticky, rfl⟩ := h
  rcases extended with ⟨mantissa, roundBit, stickyBit⟩
  have part : (0 : ℚ) ≤ (if roundBit then 1 / 2 else 0) + rest := by split <;> linarith
  have proper : (if roundBit then 1 / 2 else 0) + rest < (1 : ℚ) := by split <;> linarith
  have rounded := roundsTo_add mantissa part proper
  rw [add_assoc]
  convert rounded using 1
  cases roundBit
  · -- Less than a half stands behind the significand.
    have down : (0 : ℚ) + rest < 1 / 2 := by linarith
    rw [if_neg Bool.false_ne_true, if_pos (.inl down)]
    cases stickyBit <;> rfl
  · -- It is a half or more, and exactly a half without the second bit.
    have up : ¬ (1 / 2 : ℚ) + rest < 1 / 2 := by linarith
    simp only [if_true, up, false_or, add_eq_left]
    cases stickyBit with
    | true =>
      rw [if_neg (fun tie => sticky.mp rfl tie.1)]
      rfl
    | false =>
      have tie : rest = 0 := not_not.mp fun other => Bool.false_ne_true (sticky.mpr other)
      change mantissa + mantissa % 2 = _
      simp only [tie, true_and]
      split <;> omega

/-! ## Rounding a significand -/

/-- The power of two that a significand is shifted to. -/
theorem targetExponent_eq (n : Nat) (exponent : Int) :
    Format.binary64.targetExponent (totalExponent n exponent) =
      max (n.log2 + exponent - 52) (-1074) := by
  have least : Format.binary64.minExponent = -1074 := rfl
  have width : (Format.binary64.mantissaBits : Int) = 53 := rfl
  rw [Format.targetExponent, totalExponent, least, width]
  congr 1
  omega

/-- **The grid of a significand**: the power of two that it is shifted to leaves 53 bits. -/
theorem onGrid_of_roundsTo {n m : Nat} {exponent target : Int} (pos : 0 < n)
    (h : target = max (n.log2 + exponent - 52) (-1074))
    (rounds : RoundsTo ((n : ℚ) * 2 ^ exponent / 2 ^ target) m) :
    OnGrid (n * 2 ^ exponent) target m := by
  have low : (2 : ℚ) ^ (n.log2 : Int) ≤ n := by exact_mod_cast Nat.log2_self_le pos.ne'
  have high : (n : ℚ) < 2 ^ (n.log2 + 1 : Int) := by exact_mod_cast Nat.lt_log2_self
  have positive : (0 : ℚ) < 2 ^ exponent := by positivity
  refine ⟨by omega, ?_, ?_, rounds⟩
  · calc (n : ℚ) * 2 ^ exponent < 2 ^ (n.log2 + 1 : Int) * 2 ^ exponent := by gcongr
      _ = 2 ^ (n.log2 + 1 + exponent) := (zpow_add₀ two_ne_zero _ _).symm
      _ ≤ 2 ^ (target + 53) := zpow_le_zpow_right₀ one_le_two (by omega)
  · by_cases finest : target = -1074
    · exact .inr finest
    · left
      calc (2 : ℚ) ^ (target + 52) = 2 ^ (n.log2 + exponent) := by congr 1; omega
        _ = 2 ^ (n.log2 : Int) * 2 ^ exponent := zpow_add₀ two_ne_zero _ _
        _ ≤ n * 2 ^ exponent := by gcongr

/-- A rounded significand that needs one bit more is shifted once more, which leaves its place. -/
theorem exists_at_of_onGrid {n : Nat} {exponent : Int} (h : OnGrid x exponent n) :
    ∃ magnitude : Binary, magnitude.At (gridPlace exponent n) ∧
      (shiftToTargetExponent Format.binary64 n exponent .exact).1.mantissa =
        magnitude.significand ∧
      (shiftToTargetExponent Format.binary64 n exponent .exact).2 = magnitude.exponent := by
  have least := h.least
  have normal := h.le_multiple
  rw [shiftToTargetExponent, targetExponent_eq]
  rcases Nat.lt_or_eq_of_le h.multiple_le with less | rfl
  · -- The significand has at most 53 bits, so nothing is shifted.
    have bits : n.log2 ≤ 52 := by
      rcases Nat.eq_zero_or_pos n with rfl | pos
      · simp
      · have := (Nat.log2_lt pos.ne').mpr less
        omega
    have none : (max ((n.log2 : Int) + exponent - 52) (-1074) - exponent).toNat = 0 := by omega
    refine ⟨⟨n, exponent, decide (n = 2 ^ 52 ∧ -1074 < exponent)⟩,
      ⟨rfl, least, less, normal, by simp⟩, ?_, ?_⟩
    · simp only [shiftToExponent, none]
      rfl
    · simp only [shiftToExponent, none]
      simp
  · -- Rounding up made it the first with 54 bits, and one shift takes that back.
    have one :
        (max (((2 ^ 53 : Nat).log2 : Int) + exponent - 52) (-1074) - exponent).toNat = 1 := by
      rw [Nat.log2_two_pow]
      omega
    refine ⟨⟨2 ^ 52, exponent + 1, true⟩, ?_, ?_, ?_⟩
    · rw [gridPlace_carry least]
      exact ⟨rfl, by simp; omega, by simp, by simp, by simp; omega⟩
    · simp only [shiftToExponent, one]
      rfl
    · simp only [shiftToExponent, one]
      simp

/-- The first shift leaves 53 bits, and the bits behind them decide which way is rounded. -/
theorem shiftToTargetExponent_roundsTo (n : Nat) (exponent : Int)
    (small : exponent ≤ max (n.log2 + exponent - 52) (-1074)) :
    (shiftToTargetExponent Format.binary64 n exponent .exact).2 =
        max (n.log2 + exponent - 52) (-1074) ∧
      RoundsTo ((n : ℚ) * 2 ^ exponent / 2 ^ max (n.log2 + exponent - 52) (-1074))
        (shiftToTargetExponent Format.binary64 n exponent .exact).1.roundedMantissa := by
  rw [shiftToTargetExponent, targetExponent_eq]
  generalize max ((n.log2 : Int) + exponent - 52) (-1074) = target at small ⊢
  constructor
  · simp only [shiftToExponent]
    omega
  · have shifted := ((standsFor_exact n).shiftRight (target - exponent).toNat).roundsTo
    have power : (2 : ℚ) ^ exponent / 2 ^ target = 1 / 2 ^ (target - exponent).toNat := by
      rw [← zpow_natCast, Int.toNat_of_nonneg (by omega), ← zpow_sub₀ two_ne_zero, one_div,
        ← zpow_neg, neg_sub]
    rwa [mul_div_assoc, power, mul_one_div]

/-- **Rounding a significand and a power of two** gives the number at the place of their product. -/
theorem round_eq {n : Nat} (pos : 0 < n) (exponent : Int) (negative : Bool) :
    ∃ target m, OnGrid (n * 2 ^ exponent) target m ∧ ∃ magnitude : Binary,
      magnitude.At (gridPlace target m) ∧
      UnpackedFloat.round Format.binary64 (signOf negative) n exponent =
        finiteOf negative magnitude := by
  generalize shifts : (exponent - max ((n.log2 : Int) + exponent - 52) (-1074)).toNat = count
  -- A significand with few bits is first extended by zeros, which changes neither number nor grid.
  have length : (n <<< count).log2 = n.log2 + count := by
    rw [Nat.shiftLeft_eq, Nat.log2_eq_iff (by positivity), Nat.add_right_comm, Nat.pow_add,
      Nat.pow_add _ _ count]
    exact ⟨Nat.mul_le_mul_right _ (Nat.log2_self_le pos.ne'),
      Nat.mul_lt_mul_of_pos_right Nat.lt_log2_self (by positivity)⟩
  have value : ((n <<< count : Nat) : ℚ) * 2 ^ (exponent - count) = n * 2 ^ exponent := by
    rw [Nat.shiftLeft_eq, Nat.cast_mul, Nat.cast_pow, mul_assoc, Nat.cast_two, ← zpow_natCast,
      ← zpow_add₀ two_ne_zero, add_sub_cancel]
  obtain ⟨target, rounds⟩ := shiftToTargetExponent_roundsTo (n <<< count) (exponent - count)
    (by rw [length]; omega)
  have grid := onGrid_of_roundsTo (by rw [Nat.shiftLeft_eq]; positivity) rfl rounds
  rw [value, ← target] at grid
  obtain ⟨magnitude, there, significand, power⟩ := exists_at_of_onGrid grid
  refine ⟨_, _, grid, magnitude, there, ?_⟩
  rw [UnpackedFloat.round, targetExponent_eq, decreaseExponent]
  simp only [shifts, roundWithAccuracy, significand, power]
  rfl

/-! ## Words -/

/-- Zero stands at the first place. -/
theorem onGrid_zero : OnGrid 0 (-1074) 0 :=
  ⟨le_rfl, by positivity, .inr rfl, by simpa using roundsTo_self 0⟩

/-- **A natural number below the limit is widened to the place that it is rounded to.** -/
theorem exists_onGrid_toFloat (word : UInt64) :
    ∃ exponent n, OnGrid word.toNat exponent n ∧ gridPlace exponent n ≤ infinityBits ∧
      word.toFloat = numberAt false (gridPlace exponent n) := by
  have made : word.toFloat = Float.ofModel (Float.Model.pack
      (UnpackedFloat.normalize Format.binary64 (word.toNat : Int) 0 .positive)) := rfl
  have small : (word.toNat : ℚ) < 2 ^ (64 : Int) := by exact_mod_cast word.toNat_lt
  generalize word.toNat = natural at made small
  rcases Nat.eq_zero_or_pos natural with rfl | pos
  · refine ⟨_, _, by exact_mod_cast onGrid_zero, by decide, made.trans ?_⟩
    exact @ofModel_pack false 0 (by decide)
  · obtain ⟨exponent, n, grid, magnitude, there, rounded⟩ := round_eq pos 0 false
    rw [zpow_zero, mul_one] at grid
    have bounded : exponent < 12 := by
      rcases grid.normal with normal | least
      · have := (zpow_lt_zpow_iff_right₀ one_lt_two).mp (normal.trans_lt small)
        omega
      · omega
    -- A word has at most 64 bits, which leaves it far from the infinite place.
    have finite : gridPlace exponent n < infinityBits := by
      have most := grid.multiple_le
      unfold gridPlace infinityBits
      omega
    refine ⟨exponent, n, grid, finite.le, made.trans ?_⟩
    have greater : compare (natural : Int) 0 = .gt := Int.compare_eq_gt.mpr (by omega)
    rw [UnpackedFloat.normalize, greater, ← ofModel_pack finite.le, decode_of_at there finite,
      ← rounded]
    rfl

/-- The unsigned word that is widened has the size of the word. -/
theorem toNat_toUInt64 (word : Int64) :
    (if word.toInt < 0 then -word else word).toUInt64.toNat = word.toInt.natAbs := by
  have value : word.toInt = if 2 * word.toBitVec.toNat < 2 ^ 64 then (word.toBitVec.toNat : Int)
      else word.toBitVec.toNat - (2 ^ 64 : Nat) := BitVec.toInt_eq_toNat_cond word.toBitVec
  have bound := word.toBitVec.isLt
  rw [← Int64.toNat_toBitVec]
  split
  · rw [Int64.toBitVec_neg, BitVec.toNat_neg]
    split at value <;> omega
  · split at value <;> omega

/-- **A word is widened to the place that its size is rounded to**, with its sign. -/
theorem exists_onGrid_ofWord (word : Int64) :
    ∃ exponent n, OnGrid word.toInt.natAbs exponent n ∧ gridPlace exponent n ≤ infinityBits ∧
      ofWord word = numberAt (decide (word.toInt < 0)) (gridPlace exponent n) := by
  have size := toNat_toUInt64 word
  have below : word < 0 ↔ word.toInt < 0 := Int64.lt_iff_toInt_lt
  rw [ofWord]
  by_cases negative : word.toInt < 0
  · rw [if_pos negative] at size
    obtain ⟨exponent, n, grid, finite, made⟩ := exists_onGrid_toFloat (-word).toUInt64
    refine ⟨exponent, n, size ▸ grid, finite, ?_⟩
    rw [if_pos (below.mpr negative), made, neg_numberAt finite, decide_eq_true negative]
    rfl
  · rw [if_neg negative] at size
    obtain ⟨exponent, n, grid, finite, made⟩ := exists_onGrid_toFloat word.toUInt64
    refine ⟨exponent, n, size ▸ grid, finite, ?_⟩
    rw [if_neg (mt below.mp negative), made, decide_eq_false negative]

variable {first second : Int64}

/-- A word is widened to a number of its sign. -/
theorem isNegative_ofWord (word : Int64) : isNegative (ofWord word) = decide (word.toInt < 0) := by
  obtain ⟨exponent, n, -, finite, made⟩ := exists_onGrid_ofWord word
  rw [made, isNegative_numberAt finite]

/-- A greater size is not widened to an earlier place. -/
theorem place_ofWord_mono (h : first.toInt.natAbs ≤ second.toInt.natAbs) :
    place (ofWord first) ≤ place (ofWord second) := by
  obtain ⟨exponent, n, grid, finite, made⟩ := exists_onGrid_ofWord first
  obtain ⟨exponent', n', grid', finite', made'⟩ := exists_onGrid_ofWord second
  rw [made, made', place_numberAt finite, place_numberAt finite']
  exact grid.gridPlace_mono grid' (by exact_mod_cast h)

/-- **A greater word is not widened to a lesser number.** -/
theorem key_ofWord_mono (h : first.toInt ≤ second.toInt) :
    key (ofWord first) ≤ key (ofWord second) := by
  simp only [key, signed, isNegative_ofWord, decide_eq_true_eq]
  by_cases negative : first.toInt < 0
  · by_cases negative' : second.toInt < 0
    · -- The greater of two negative words has the lesser size.
      have := @place_ofWord_mono second first (by omega)
      rw [if_pos negative, if_pos negative']
      omega
    · rw [if_pos negative, if_neg negative']
      omega
  · have := @place_ofWord_mono first second (by omega)
    rw [if_neg negative, if_neg (by omega)]
    omega

/-- A word other than zero is not widened to zero. -/
theorem place_ofWord_pos (h : first.toInt ≠ 0) : 0 < place (ofWord first) := by
  obtain ⟨exponent, n, grid, finite, made⟩ := exists_onGrid_ofWord first
  rw [made, place_numberAt finite]
  have one : OnGrid 1 (-52) (2 ^ 52) := by
    refine ⟨by norm_num, by norm_num, .inl (by norm_num), ?_⟩
    convert roundsTo_self (2 ^ 52) using 1
    norm_num
  have unit : (1 : ℚ) ≤ first.toInt.natAbs := by
    exact_mod_cast Int.natAbs_pos.mpr h
  exact lt_of_lt_of_le (by decide) (one.gridPlace_mono grid unit)

/-- Words that are widened to the same place with their signs are widened to one number. -/
theorem ofWord_eq_of_key (h : key (ofWord first) = key (ofWord second)) :
    ofWord first = ofWord second := by
  have pos := @place_ofWord_pos first
  have pos' := @place_ofWord_pos second
  have sign := isNegative_ofWord first
  have sign' := isNegative_ofWord second
  -- A place with its sign is shared by two numbers only if they are the zeros, and no word is
  -- widened to the negative one.
  unfold key signed at h
  rw [sign, sign'] at h
  simp only [decide_eq_true_eq] at h
  refine eq_of_place ?_ (by split at h <;> split at h <;> omega)
  rw [sign, sign', decide_eq_decide]
  split at h <;> split at h <;> omega

/-- **The order of numbers decides the order of words**, unless two are widened to one number. -/
theorem le_or_ofWord_eq (h : key (ofWord first) ≤ key (ofWord second)) :
    first.toInt ≤ second.toInt ∨ ofWord first = ofWord second := by
  rcases le_or_gt first.toInt second.toInt with order | order
  · exact .inl order
  · exact .inr (ofWord_eq_of_key (le_antisymm h (key_ofWord_mono order.le)))

/-! ## Words that are kept exactly -/

/-- A natural number of at most 53 bits is the multiple that it is rounded to. -/
theorem OnGrid.exact {natural : Nat} {exponent : Int} {n : Nat} (h : OnGrid natural exponent n)
    (small : natural ≤ 2 ^ 53) : (natural : ℚ) = n * 2 ^ exponent := by
  have whole : ∃ k : Nat, (natural : ℚ) / 2 ^ exponent = k := by
    rcases le_or_gt exponent 0 with fine | coarse
    · refine ⟨natural * 2 ^ (-exponent).toNat, ?_⟩
      rw [Nat.cast_mul, Nat.cast_pow, Nat.cast_two, ← zpow_natCast,
        Int.toNat_of_nonneg (by omega), zpow_neg, div_eq_mul_inv]
    · -- Only the greatest of them falls on a grid that is coarser than the integers.
      have normal := h.normal.resolve_right (by omega)
      have limit : (natural : ℚ) ≤ 2 ^ (53 : Int) := by exact_mod_cast small
      have order := (zpow_le_zpow_iff_right₀ one_lt_two).mp (normal.trans limit)
      obtain rfl : exponent = 1 := by omega
      have greatest : (natural : ℚ) = 2 ^ (53 : Int) := le_antisymm limit normal
      exact ⟨2 ^ 52, by rw [greatest]; norm_num⟩
  obtain ⟨k, quotient⟩ := whole
  have rounds := h.rounds
  rw [quotient] at rounds
  have same : k = n :=
    le_antisymm ((roundsTo_self k).mono rounds le_rfl) (rounds.mono (roundsTo_self k) le_rfl)
  rw [← same, ← quotient, div_mul_cancel₀ _ (by positivity)]

/-- Multiples at one place are equal. -/
theorem OnGrid.multiple_eq {y : ℚ} {exponent exponent' : Int} {m n : Nat}
    (first : OnGrid x exponent m) (second : OnGrid y exponent' n)
    (h : gridPlace exponent m = gridPlace exponent' n) :
    (m : ℚ) * 2 ^ exponent = n * 2 ^ exponent' := by
  wlog order : exponent ≤ exponent' generalizing x y exponent exponent' m n
  · exact (this second first h.symm (by omega)).symm
  have least := first.least
  unfold gridPlace at h
  rcases order.lt_or_eq with less | rfl
  · -- The first multiple has one bit more, and the second is its half.
    have most := first.multiple_le
    have leastMultiple := second.le_multiple.resolve_right (by omega)
    obtain ⟨rfl, rfl, rfl⟩ : exponent' = exponent + 1 ∧ m = 2 ^ 53 ∧ n = 2 ^ 52 := by omega
    rw [zpow_add_one₀ two_ne_zero]
    push_cast
    ring
  · obtain rfl : m = n := by omega
    rfl

/-- **Words of at most 53 bits are kept apart.** -/
theorem ofWord_inj (small : first.toInt.natAbs ≤ 2 ^ 53) (small' : second.toInt.natAbs ≤ 2 ^ 53)
    (h : ofWord first = ofWord second) : first = second := by
  obtain ⟨exponent, n, grid, finite, made⟩ := exists_onGrid_ofWord first
  obtain ⟨exponent', n', grid', finite', made'⟩ := exists_onGrid_ofWord second
  have signs : first.toInt < 0 ↔ second.toInt < 0 := by
    rw [← decide_eq_decide, ← isNegative_ofWord, ← isNegative_ofWord, h]
  have places := congrArg place h
  rw [made, made', place_numberAt finite, place_numberAt finite'] at places
  have sizes : (first.toInt.natAbs : ℚ) = second.toInt.natAbs := by
    rw [grid.exact small, grid'.exact small', grid.multiple_eq grid' places]
  have sizes : first.toInt.natAbs = second.toInt.natAbs := by exact_mod_cast sizes
  exact Int64.toInt_inj.mp (by omega)

end ReactiveScript.Number
