import ReactiveScript.Number.Layout
import ReactiveScript.Number.Reader
import ReactiveScript.Proofs.Number.Rounding

/-! # Numerals are read back

The shortest decimal of a number lies between the halfway points around it (`shortest_reads`), so
the nearest number to it is that number again. Written without an exponent it is a numeral, that is
digits and maybe a point with more digits, and a numeral is read as the number that is nearest to
it. So every number is read off its text (`readFloat_write`), whichever layout without exponents
wrote it. -/

namespace ReactiveScript.Number

/-! ## Decimals between the halfway points -/

/-- The ratio that a decimal stands for. -/
def Decimal.value (decimal : Decimal) : ℚ := decimal.digits * 10 ^ decimal.exponent

/-- Cross-multiplication compares the ratios. -/
theorem Decimal.compareQuarters_eq (decimal : Decimal) (quarters : Nat) (exponent : Int) :
    decimal.compareQuarters quarters exponent =
      compare decimal.value (quarters * 2 ^ (exponent - 2)) := by
  obtain ⟨-, under⟩ := powerRatio_pos (show 0 < 10 by decide) decimal.exponent
  obtain ⟨-, under'⟩ := powerRatio_pos two_pos (exponent - 2)
  have ten := powerRatio_div 10 decimal.exponent
  have two := powerRatio_div 2 (exponent - 2)
  unfold compareQuarters value
  push_cast at ten two
  rw [← ten, ← two]
  dsimp only
  generalize powerRatio 10 decimal.exponent = tens at under ⊢
  generalize powerRatio 2 (exponent - 2) = twos at under' ⊢
  -- Both sides are multiplied by both denominators.
  have scale : (0 : ℚ) < tens.2 * twos.2 := by positivity
  have left : (decimal.digits * (tens.1 / tens.2) : ℚ) * (tens.2 * twos.2) =
      (decimal.digits * tens.1 * twos.2 : Nat) := by
    push_cast
    field_simp
  have right : (quarters * (twos.1 / twos.2) : ℚ) * (tens.2 * twos.2) =
      (quarters * twos.1 * tens.2 : Nat) := by
    push_cast
    field_simp
  rcases lt_trichotomy (decimal.digits * tens.1 * twos.2) (quarters * twos.1 * tens.2) with
    less | same | more
  · rw [compare_lt_iff_lt.mpr less, eq_comm, compare_lt_iff_lt, ← mul_lt_mul_iff_of_pos_right scale,
      left, right]
    exact_mod_cast less
  · rw [compare_eq_iff_eq.mpr same, eq_comm, compare_eq_iff_eq, ← mul_left_inj' scale.ne', left,
      right]
    exact_mod_cast same
  · rw [compare_gt_iff_gt.mpr more, eq_comm, compare_gt_iff_gt,
      ← mul_lt_mul_iff_of_pos_right scale, left, right]
    exact_mod_cast more

variable {magnitude : Binary} {decimal : Decimal}

/-- Four quarters of a power of two make the power. -/
theorem two_zpow_quarters (exponent : Int) : (2 : ℚ) ^ exponent = 2 ^ (exponent - 2) * 4 := by
  rw [zpow_sub₀ two_ne_zero]
  norm_num

/-- The halfway point below a magnitude, counted in quarters. -/
theorem Binary.quarters_below (pos : 0 < magnitude.significand) :
    ((4 * magnitude.significand - (if magnitude.narrowBelow then 1 else 2) : Nat) : ℚ) *
        2 ^ (magnitude.exponent - 2) =
      (magnitude.significand - magnitude.gapBelow) * 2 ^ magnitude.exponent := by
  rw [two_zpow_quarters magnitude.exponent, gapBelow]
  split
  · rw [Nat.cast_sub (by omega)]
    push_cast
    ring
  · rw [Nat.cast_sub (by omega)]
    push_cast
    ring

/-- The halfway point above a magnitude, counted in quarters. -/
theorem Binary.quarters_above (magnitude : Binary) :
    ((4 * magnitude.significand + 2 : Nat) : ℚ) * 2 ^ (magnitude.exponent - 2) =
      (magnitude.significand + 1 / 2) * 2 ^ magnitude.exponent := by
  rw [two_zpow_quarters magnitude.exponent]
  push_cast
  ring

/-- **A decimal that reads back lies between the halfway points.** -/
theorem Binary.reads_of_readsBack (pos : 0 < magnitude.significand)
    (h : magnitude.readsBack decimal = true) : magnitude.Reads decimal.value := by
  rw [readsBack] at h
  simp only [Decimal.compareQuarters_eq, quarters_below pos, quarters_above, Bool.and_eq_true] at h
  obtain ⟨below, above⟩ := h
  -- At a halfway point itself each test asks for an even significand.
  generalize atLeast : (magnitude.significand - magnitude.gapBelow : ℚ) * 2 ^ magnitude.exponent =
    least at below
  generalize atMost : (magnitude.significand + 1 / 2 : ℚ) * 2 ^ magnitude.exponent =
    greatest at above
  have lower : least ≤ decimal.value ∧ (decimal.value = least → magnitude.significand % 2 = 0) := by
    cases order : compare decimal.value least with
    | lt => simp [order] at below
    | eq =>
      simp only [order, beq_iff_eq] at below
      exact ⟨(compare_eq_iff_eq.mp order).ge, fun _ => below⟩
    | gt =>
      have more := compare_gt_iff_gt.mp order
      exact ⟨more.le, fun same => absurd same more.ne'⟩
  have upper : decimal.value ≤ greatest ∧
      (decimal.value = greatest → magnitude.significand % 2 = 0) := by
    cases order : compare decimal.value greatest with
    | gt => simp [order] at above
    | eq =>
      simp only [order, beq_iff_eq] at above
      exact ⟨(compare_eq_iff_eq.mp order).le, fun _ => above⟩
    | lt =>
      have less := compare_lt_iff_lt.mp order
      exact ⟨less.le, fun same => absurd same less.ne⟩
  refine ⟨atLeast ▸ lower.1, atMost ▸ upper.1, ?_⟩
  rw [atLeast, atMost]
  rintro (tie | tie)
  · exact lower.2 tie
  · exact upper.2 tie

/-- What is found on a decimal grid reads back. -/
theorem Binary.readsBack_of_onGrid? {tie : Tie} {exponent : Int}
    (h : magnitude.onGrid? tie exponent = some decimal) : magnitude.readsBack decimal = true := by
  unfold onGrid? at h
  dsimp only at h
  split at h
  · cases h
  · cases h
    assumption
  · cases h
    assumption
  · -- Both points read back, whichever is nearer.
    rename_i lower upper
    split at h <;> cases h
    · exact lower
    · exact upper
    · exact upper
    · split
      · exact lower
      · exact upper

/-- Moving zeros from the digits into the power of ten keeps the ratio. -/
theorem Decimal.value_stripZeros (budget : Nat) (decimal : Decimal) :
    (decimal.stripZeros budget).value = decimal.value := by
  induction budget generalizing decimal with
  | zero => rfl
  | succ budget ih =>
    rw [stripZeros]
    split
    · rename_i zero
      have tens : (decimal.digits : ℚ) = 10 * (decimal.digits / 10 : Nat) := by
        exact_mod_cast (by omega : decimal.digits = 10 * (decimal.digits / 10))
      rw [ih, value, value, tens, zpow_add_one₀ (by norm_num)]
      ring
    · rfl

/-- The exact decimal stands for the magnitude. -/
theorem Binary.value_exactDecimal (magnitude : Binary) :
    magnitude.exactDecimal.value = magnitude.significand * 2 ^ magnitude.exponent := by
  unfold exactDecimal Decimal.value
  split
  · rename_i n power
    rw [power]
    simp
  · -- As many fives make tens of the twos in the denominator.
    rename_i n power
    rw [power]
    simp only [Nat.pow_eq, Nat.cast_mul, Nat.cast_pow, Nat.cast_ofNat, zpow_negSucc]
    rw [← Nat.cast_succ, zpow_neg, zpow_natCast, mul_assoc]
    congr 1
    rw [show (10 : ℚ) = 5 * 2 by norm_num, mul_pow]
    field_simp

/-- A magnitude lies between the halfway points around it. -/
theorem Binary.reads_self (magnitude : Binary) :
    magnitude.Reads (magnitude.significand * 2 ^ magnitude.exponent) := by
  have gap := magnitude.gapBelow_bounds
  have positive : (0 : ℚ) < 2 ^ magnitude.exponent := by positivity
  refine ⟨?_, ?_, ?_⟩
  · exact mul_le_mul_of_nonneg_right (by linarith) positive.le
  · exact mul_le_mul_of_nonneg_right (by linarith) positive.le
  · rw [mul_left_inj' positive.ne', mul_left_inj' positive.ne']
    rintro (tie | tie) <;> linarith

/-- **The shortest decimal lies between the halfway points.** -/
theorem Binary.shortest_reads (pos : 0 < magnitude.significand) (tie : Tie) :
    magnitude.Reads (magnitude.shortest tie).value := by
  rw [shortest, Decimal.value_stripZeros]
  cases found : (List.range 17).findSome? fun more : Nat =>
      magnitude.onGrid? tie (magnitude.scale - 1 - more) with
  | none =>
    rw [Option.getD_none, value_exactDecimal]
    exact magnitude.reads_self
  | some decimal =>
    obtain ⟨more, -, onGrid⟩ := List.exists_of_findSome?_eq_some found
    exact reads_of_readsBack pos (readsBack_of_onGrid? onGrid)

/-! ## Digits -/

/-- The number of digits one after the other. -/
theorem naturalOf_append (left right : List Char) :
    naturalOf (left ++ right) = 10 ^ right.length * naturalOf left + naturalOf right := by
  rw [naturalOf, naturalOf, naturalOf, ← Nat.ofDigitChars_eq_foldl, ← Nat.ofDigitChars_eq_foldl,
    ← Nat.ofDigitChars_eq_foldl, Nat.ofDigitChars_append, Nat.ofDigitChars_eq_ofDigitChars_zero]

/-- Zeros are the digits of zero. -/
theorem naturalOf_zeros (count : Nat) : naturalOf (zeros count) = 0 := by
  rw [naturalOf, ← Nat.ofDigitChars_eq_foldl, zeros, Nat.ofDigitChars_replicate_zero, Nat.mul_zero]

/-- The digits of a number spell it. -/
theorem naturalOf_toDigits (n : Nat) : naturalOf (Nat.toDigits 10 n) = n := by
  rw [naturalOf, ← Nat.ofDigitChars_eq_foldl, Nat.ofDigitChars_ten_toDigits]

/-- The digits of a number are digits. -/
theorem isDigit_of_mem_digits {n : Nat} {c : Char} (mem : c ∈ Nat.toDigits 10 n) :
    c.isDigit = true := Nat.isDigit_of_mem_toDigits (by decide) (by decide) mem

/-- Zeros are digits. -/
theorem isDigit_of_mem_zeros {count : Nat} {c : Char} (mem : c ∈ zeros count) :
    c.isDigit = true := by
  rw [List.eq_of_mem_replicate mem]
  rfl

/-- Digits have no lower case. -/
theorem toLower_of_isDigit {c : Char} (digit : c.isDigit = true) : c.toLower = c := by
  have bounds : '0'.val ≤ c.val ∧ c.val ≤ '9'.val := by simpa [Char.isDigit] using digit
  exact dif_neg fun upper => absurd (UInt32.le_trans upper.1 bounds.2) (by decide)

/-! ## Numerals -/

/-- **A numeral**: digits, and maybe a point with more digits. -/
structure Numeral where
  /-- The digits before the point. -/
  whole : List Char
  /-- The digits after the point, if there is one. -/
  fraction : Option (List Char)
  /-- There are digits before the point. -/
  whole_ne_nil : whole ≠ []
  /-- They are digits. -/
  isDigit_whole : ∀ c ∈ whole, c.isDigit = true
  /-- So are those after the point. -/
  isDigit_fraction : ∀ c ∈ fraction.getD [], c.isDigit = true

namespace Numeral

variable (numeral : Numeral)

/-- The point and what follows it. -/
def tail : List Char := numeral.fraction.elim [] ('.' :: ·)

/-- The characters of a numeral. -/
def chars : List Char := numeral.whole ++ numeral.tail

/-- The parts that a numeral is read as. -/
def parts : DecimalParts := ⟨numeral.whole, numeral.fraction.getD [], 0⟩

/-- The ratio that a numeral stands for. -/
def value : ℚ :=
  naturalOf (numeral.whole ++ numeral.fraction.getD []) / 10 ^ (numeral.fraction.getD []).length

end Numeral

section Writing

variable {written : List Char} (layout : Layout) (decimal : Decimal)

/-- Digits and zeros after them spell a multiple of a power of ten. -/
theorem naturalOf_append_zeros (written : List Char) (count : Nat) :
    naturalOf (written ++ zeros count) = 10 ^ count * naturalOf written := by
  rw [naturalOf_append, naturalOf_zeros, zeros, List.length_replicate, Nat.add_zero]

variable {decimal} in
/-- A numeral stands for a decimal whose digits it spells, with zeros after them, if it has as many
more digits after the point as the power of ten says. -/
theorem Numeral.value_eq_of_spelled (numeral : Numeral) (count : Nat)
    (spelled : naturalOf (numeral.whole ++ numeral.fraction.getD []) =
      10 ^ count * decimal.digits)
    (places : count - ((numeral.fraction.getD []).length : Int) = decimal.exponent) :
    numeral.value = decimal.value := by
  rw [value, spelled, Decimal.value, ← places, zpow_sub₀ (by norm_num), zpow_natCast,
    zpow_natCast]
  push_cast
  ring

/-- **A decimal without an exponent is written as a numeral** for it. -/
theorem Layout.exists_numeral :
    ∃ numeral : Numeral, layout.writePositional decimal = numeral.chars ∧
      numeral.value = decimal.value := by
  have digits := @isDigit_of_mem_digits decimal.digits
  have someDigits : Nat.toDigits 10 decimal.digits ≠ [] := Nat.toDigits_ne_nil
  have spelled := naturalOf_toDigits decimal.digits
  unfold writePositional
  dsimp only
  generalize Nat.toDigits 10 decimal.digits = written at digits someDigits spelled
  cases power : decimal.exponent with
  | ofNat n =>
    -- Zeros fill up the places before the point.
    have whole : ∀ c ∈ written ++ zeros n, c.isDigit = true := by
      intro c mem
      exact (List.mem_append.mp mem).elim digits isDigit_of_mem_zeros
    have value : naturalOf (written ++ zeros n) = 10 ^ n * decimal.digits := by
      rw [naturalOf_append_zeros, spelled]
    dsimp only
    split
    · refine ⟨⟨written ++ zeros n, some ['0'], by simp [someDigits], whole, by simp⟩, rfl,
        Numeral.value_eq_of_spelled _ (n + 1) ?_ (by simp [power])⟩
      change naturalOf (written ++ zeros n ++ zeros 1) = _
      rw [naturalOf_append_zeros, value]
      ring
    · refine ⟨⟨written ++ zeros n, none, by simp [someDigits], whole, by simp⟩, rfl,
        Numeral.value_eq_of_spelled _ n ?_ (by simp [power])⟩
      change naturalOf (written ++ zeros n ++ []) = _
      rw [List.append_nil, value]
  | negSucc n =>
    dsimp only
    split
    · -- The point stands among the digits.
      rename_i inside
      refine ⟨⟨written.take (written.length - (n + 1)),
        some (written.drop (written.length - (n + 1))), ?_,
        fun c mem => digits (List.mem_of_mem_take mem),
        fun c mem => digits (List.mem_of_mem_drop mem)⟩, ?_,
        Numeral.value_eq_of_spelled _ 0 ?_ ?_⟩
      · simp [List.take_eq_nil_iff, someDigits]
        omega
      · simp [Numeral.chars, Numeral.tail]
      · simp [spelled]
      · simp [power]
        omega
    · -- Zeros fill up the places after the point.
      rename_i outside
      refine ⟨⟨['0'], some (zeros (n + 1 - written.length) ++ written), by simp, by simp,
        fun c mem => (List.mem_append.mp mem).elim isDigit_of_mem_zeros digits⟩, ?_,
        Numeral.value_eq_of_spelled _ 0 ?_ ?_⟩
      · simp [Numeral.chars, Numeral.tail]
      · change naturalOf (['0'] ++ (zeros (n + 1 - written.length) ++ written)) = _
        rw [naturalOf_append, naturalOf_append, naturalOf_zeros, spelled]
        simp [naturalOf]
      · simp [power, zeros]
        omega

end Writing

/-! ## Reading numerals -/

/-- Digits are taken as far as they go. -/
theorem span_digits {digits rest : List Char} (all : ∀ c ∈ digits, c.isDigit = true)
    (stop : ∀ c ∈ rest.head?, c.isDigit = false) :
    (digits ++ rest).takeWhile Char.isDigit = digits ∧
      (digits ++ rest).dropWhile Char.isDigit = rest := by
  rw [List.takeWhile_append_of_pos all, List.dropWhile_append_of_pos all]
  cases rest with
  | nil => simp
  | cons c rest =>
    have other : c.isDigit = false := stop c rfl
    simp [other]

namespace Numeral

variable (numeral : Numeral) {magnitude : Binary} {size : Nat}

/-- **A numeral is read as its parts**, where what follows it is read as the exponent. -/
theorem readParts_append (rest : List Char)
    (stop : ∀ c ∈ rest.head?, c.isDigit = false ∧ c ≠ '.') :
    readParts (numeral.chars ++ rest) =
      (readPower rest).map (⟨numeral.whole, numeral.fraction.getD [], ·⟩) := by
  have some : numeral.whole.isEmpty = false := by simp [numeral.whole_ne_nil]
  -- The digits before the point end at the point, or where the rest begins.
  have follow : ∀ c ∈ (numeral.tail ++ rest).head?, c.isDigit = false := by
    unfold tail
    cases numeral.fraction with
    | none => exact fun c mem => (stop c mem).1
    | some fraction =>
      rintro c ⟨⟩
      rfl
  obtain ⟨taken, left⟩ := span_digits numeral.isDigit_whole follow
  rw [readParts, chars, List.append_assoc, taken, left, some]
  unfold tail
  cases present : numeral.fraction with
  | none =>
    cases rest with
    | nil => rfl
    | cons c rest =>
      have noPoint : c ≠ '.' := (stop c rfl).2
      simp [noPoint]
  | some fraction =>
    have digits := numeral.isDigit_fraction
    rw [present] at digits
    obtain ⟨taken, left⟩ := span_digits digits fun c mem => (stop c mem).1
    simp only [Option.elim_some, List.cons_append, Option.getD_some] at taken left ⊢
    rw [taken, left]
    rfl

/-- A numeral alone has no exponent. -/
theorem readParts_chars : readParts numeral.chars = some numeral.parts := by
  have read := numeral.readParts_append [] (by simp)
  rwa [List.append_nil] at read

/-- **A numeral between the halfway points around a number is read as that number.** -/
theorem value_parts_of_reads (pos : 0 < magnitude.significand)
    (reads : magnitude.Reads numeral.value) (there : magnitude.At size)
    (finite : size < infinityBits) : numeral.parts.value = numberAt false size := by
  obtain ⟨above, below⟩ := powerRatio_pos (show 0 < 10 by decide)
    (0 - ((numeral.fraction.getD []).length : Int))
  have ratio := powerRatio_div 10 (0 - ((numeral.fraction.getD []).length : Int))
  have positive : 0 < numeral.value := by
    have gap := magnitude.gapBelow_bounds
    have one : (1 : ℚ) ≤ magnitude.significand := by exact_mod_cast pos
    have least : 0 < (magnitude.significand - magnitude.gapBelow) * 2 ^ magnitude.exponent :=
      mul_pos (by linarith) (by positivity)
    exact least.trans_le reads.lower
  have nonzero : naturalOf (numeral.whole ++ numeral.fraction.getD []) ≠ 0 := by
    intro zero
    rw [value, zero] at positive
    simp at positive
  unfold DecimalParts.value parts
  simp only
  rw [if_neg (by unfold powerLimit; omega), if_neg (by unfold powerLimit; omega)]
  refine nearest_of_reads (by positivity) below ?_ there finite
  convert reads using 1
  rw [value, Nat.cast_mul, mul_div_assoc, ratio, zero_sub, zpow_neg, zpow_natCast, div_eq_mul_inv]
  rfl

/-- A numeral for zero is read as zero. -/
theorem value_parts_of_zero (zero : numeral.value = 0) :
    numeral.parts.value = numberAt false 0 := by
  have digits : naturalOf (numeral.whole ++ numeral.fraction.getD []) = 0 := by
    rw [value, div_eq_zero_iff] at zero
    exact_mod_cast zero.resolve_right (by positivity)
  exact if_pos (.inl digits)

end Numeral

/-! ## The text of a number -/

/-- The characters that stand in the text of a number behind its sign. -/
def numeralChars : List Char :=
  ['0', '1', '2', '3', '4', '5', '6', '7', '8', '9', '.', 'i', 'n', 'f']

/-- Digits are among them. -/
theorem mem_numeralChars_of_isDigit {c : Char} (digit : c.isDigit = true) : c ∈ numeralChars := by
  have bounds : '0'.val ≤ c.val ∧ c.val ≤ '9'.val := by simpa [Char.isDigit] using digit
  have low : 48 ≤ c.toNat := UInt32.le_iff_toNat_le.mp bounds.1
  have high : c.toNat ≤ 57 := UInt32.le_iff_toNat_le.mp bounds.2
  rw [← Char.ofNat_toNat c]
  generalize c.toNat = code at low high
  interval_cases code <;> decide

/-- The characters of a numeral are among them. -/
theorem Numeral.mem_numeralChars (numeral : Numeral) {c : Char} (mem : c ∈ numeral.chars) :
    c ∈ numeralChars := by
  have digits := numeral.isDigit_fraction
  rw [chars, tail] at mem
  rcases List.mem_append.mp mem with mem | mem
  · exact mem_numeralChars_of_isDigit (numeral.isDigit_whole c mem)
  · cases present : numeral.fraction with
    | none => simp [present] at mem
    | some fraction =>
      rw [present] at mem digits
      rcases List.mem_cons.mp mem with rfl | mem
      · decide
      · exact mem_numeralChars_of_isDigit (digits c mem)

/-- The number that a text without a sign spells. -/
def readMagnitude (chars : List Char) : Option Float :=
  match specialValue (String.ofList (chars.map Char.toLower)) with
  | some value => some value
  | none => (readParts chars).map DecimalParts.value

/-- A text is read without its sign, which is put before what is read. -/
theorem readFloat_eq (chars : List Char) :
    readFloat chars = (readMagnitude (splitSign chars).2).map fun value =>
      if (splitSign chars).1 then -value else value := rfl

/-- What starts with a digit is no word for a special value. -/
theorem Numeral.specialValue_append (numeral : Numeral) (rest : List Char) :
    specialValue (String.ofList ((numeral.chars ++ rest).map Char.toLower)) = none := by
  obtain ⟨first, more, split⟩ := List.exists_cons_of_ne_nil numeral.whole_ne_nil
  have digit := numeral.isDigit_whole first (by simp [split])
  -- Each of those words starts with a letter.
  have other {word : String} {letter : Char} {letters : List Char}
      (spelled : word.toList = letter :: letters) (noDigit : letter.isDigit = false) :
      String.ofList ((numeral.chars ++ rest).map Char.toLower) ≠ word := by
    rintro rfl
    rw [chars, split, String.toList_ofList] at spelled
    simp only [List.cons_append, List.map_cons, List.cons.injEq, toLower_of_isDigit digit]
      at spelled
    rw [spelled.1, noDigit] at digit
    cases digit
  rw [specialValue, if_neg, if_neg]
  · exact other rfl rfl
  · rintro (word | word)
    · exact other rfl rfl word
    · exact other rfl rfl word

/-- The text of a number without its sign. -/
def Layout.magnitudeText (layout : Layout) (x : Float) : List Char :=
  if x.isInf then infinityText.toList else layout.writeMagnitude (Binary.ofFloat x)

section Text

variable {layout : Layout} (positional : layout.positional = none) {x : Float}

/-- The text of a number is its sign and the text without it. -/
theorem Layout.toList_write (layout : Layout) (number : x.isNaN = false) :
    (layout.write x).toList = (if isNegative x then ['-'] else []) ++ layout.magnitudeText x := by
  unfold write magnitudeText
  rw [if_neg (by rw [number]; exact Bool.false_ne_true)]
  dsimp only
  split <;> split <;> simp

include positional

/-- **The text of a number without its sign** is the word for the infinite number or a numeral that
is read as the number without its sign. -/
theorem Layout.magnitudeText_cases (number : x.isNaN = false) :
    (place x = infinityBits ∧ layout.magnitudeText x = infinityText.toList) ∨
      ∃ numeral : Numeral, layout.magnitudeText x = numeral.chars ∧
        numeral.parts.value = numberAt false (place x) := by
  unfold magnitudeText
  by_cases infinite : x.isInf = true
  · exact .inl ⟨isInf_iff_place.mp infinite, if_pos infinite⟩
  have finite : place x < infinityBits :=
    lt_of_le_of_ne (place_le_of_isNaN number) (mt isInf_iff_place.mpr infinite)
  have there : (Binary.ofFloat x).At (place x) := Binary.ofBits_at finite
  rw [if_neg infinite, writeMagnitude]
  right
  split
  · rename_i zero
    have first : place x = 0 := by
      have same := there.place_eq
      have normal := there.normal
      omega
    obtain ⟨numeral, written, value⟩ := layout.exists_numeral ⟨0, 0⟩
    refine ⟨numeral, written, ?_⟩
    rw [first]
    exact numeral.value_parts_of_zero (value.trans (by simp [Decimal.value]))
  · rename_i nonzero
    have pos := Nat.pos_of_ne_zero nonzero
    obtain ⟨numeral, written, value⟩ :=
      layout.exists_numeral ((Binary.ofFloat x).shortest layout.tie)
    refine ⟨numeral, ?_, ?_⟩
    · rw [writeDecimal, positional]
      exact written
    · refine numeral.value_parts_of_reads pos ?_ there finite
      rw [value]
      exact Binary.shortest_reads pos _

/-- The text without the sign is read as the number without the sign. -/
theorem readMagnitude_magnitudeText (number : x.isNaN = false) :
    readMagnitude (layout.magnitudeText x) = some (numberAt false (place x)) := by
  rcases layout.magnitudeText_cases positional number with ⟨infinite, text⟩ | ⟨numeral, text, value⟩
  · rw [text, infinite]
    rfl
  · have special := numeral.specialValue_append []
    rw [List.append_nil] at special
    rw [text, readMagnitude, special, numeral.readParts_chars]
    exact congrArg some value

/-- With a plus sign behind it the text is not read. -/
theorem readMagnitude_magnitudeText_plus (number : x.isNaN = false) :
    readMagnitude (layout.magnitudeText x ++ ['+']) = none := by
  rcases layout.magnitudeText_cases positional number with ⟨-, text⟩ | ⟨numeral, text, -⟩
  · rw [text]
    rfl
  · have parts := numeral.readParts_append ['+'] (by
      rintro c ⟨⟩
      exact ⟨rfl, by decide⟩)
    rw [text, readMagnitude, numeral.specialValue_append, parts]
    rfl

/-- What stands in the text behind the sign. -/
theorem mem_numeralChars_of_magnitudeText (number : x.isNaN = false) {c : Char}
    (mem : c ∈ layout.magnitudeText x) : c ∈ numeralChars := by
  rcases layout.magnitudeText_cases positional number with ⟨-, text⟩ | ⟨numeral, text, -⟩
  · have letters : infinityText.toList = ['i', 'n', 'f'] := rfl
    have all : ∀ c ∈ ['i', 'n', 'f'], c ∈ numeralChars := by simp [numeralChars]
    rw [text, letters] at mem
    exact all c mem
  · rw [text] at mem
    exact numeral.mem_numeralChars mem

/-- There is something in the text behind the sign. -/
theorem magnitudeText_ne_nil (number : x.isNaN = false) : layout.magnitudeText x ≠ [] := by
  intro empty
  have read := readMagnitude_magnitudeText positional number
  rw [empty] at read
  cases read

end Text

/-- The characters behind the sign are read without one. -/
theorem splitSign_numeralChars {chars : List Char} (all : ∀ c ∈ chars, c ∈ numeralChars)
    (rest : List Char) (nonempty : chars ≠ []) :
    splitSign (chars ++ rest) = (false, chars ++ rest) := by
  obtain ⟨first, more, rfl⟩ := List.exists_cons_of_ne_nil nonempty
  have mem := all first List.mem_cons_self
  unfold splitSign
  split
  · rename_i minus
    cases minus
    exact absurd mem (by decide)
  · rename_i plus
    cases plus
    exact absurd mem (by decide)
  · rfl

section Reading

variable {layout : Layout} (positional : layout.positional = none) {x : Float}
  (number : x.isNaN = false)
include positional number

/-- The text behind the sign is read with the sign that stands before it. -/
theorem readFloat_minus :
    readFloat ('-' :: layout.magnitudeText x) = some (numberAt true (place x)) := by
  have read := readMagnitude_magnitudeText positional number
  rw [readFloat_eq]
  change Option.map _ (readMagnitude (layout.magnitudeText x)) = _
  rw [read]
  exact congrArg some (neg_numberAt (place_le_of_isNaN number))

/-- A plus sign may stand before it. -/
theorem readFloat_plus :
    readFloat ('+' :: layout.magnitudeText x) = some (numberAt false (place x)) := by
  have read := readMagnitude_magnitudeText positional number
  rw [readFloat_eq]
  change Option.map _ (readMagnitude (layout.magnitudeText x)) = _
  rw [read]
  rfl

/-- The text of a number is read without its sign, whatever follows. -/
theorem readFloat_write_append (rest : List Char) :
    readFloat ((layout.write x).toList ++ rest) =
      (readMagnitude (layout.magnitudeText x ++ rest)).map fun value =>
        if isNegative x then -value else value := by
  rw [layout.toList_write number, readFloat_eq]
  cases isNegative x with
  | true => rfl
  | false =>
    have unsigned := splitSign_numeralChars
      (fun _ => mem_numeralChars_of_magnitudeText positional number) rest
      (magnitudeText_ne_nil positional number)
    rw [if_neg Bool.false_ne_true, List.nil_append, unsigned]

/-- **The text of a number is read as that number.** -/
theorem readFloat_write : readFloat (layout.write x).toList = some x := by
  have read := readFloat_write_append positional number []
  have same := numberAt_place number
  rw [List.append_nil, List.append_nil, readMagnitude_magnitudeText positional number] at read
  rw [read, Option.map_some]
  cases sign : isNegative x with
  | true =>
    rw [sign] at same
    rw [if_pos rfl, neg_numberAt (place_le_of_isNaN number)]
    exact congrArg some same
  | false =>
    rw [sign] at same
    rw [if_neg Bool.false_ne_true, same]

/-- With a plus sign behind it the text is not read. -/
theorem readFloat_write_plus : readFloat ((layout.write x).toList ++ ['+']) = none := by
  rw [readFloat_write_append positional number,
    readMagnitude_magnitudeText_plus positional number]
  rfl

end Reading

end ReactiveScript.Number
