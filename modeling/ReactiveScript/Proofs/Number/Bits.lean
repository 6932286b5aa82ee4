import ReactiveScript.Number.Nearest
import ReactiveScript.Proofs.Number.Double

/-! # The bits of floating-point numbers

Apart from its sign, a floating-point number is its place on the grid of the numbers from zero up:
the grid is counted in the order of size, so the bits without the sign are that place. What the
operations see of a number can be read off the sign and the place (`unpack_eq`): whether it is no
number, infinite or finite, which number is its negative (`neg_numberAt`), and which of two numbers
is less (`lt_iff_key`). -/

namespace ReactiveScript.Number

open Float.Model Float.Model.UnpackedFloat

/-! ## Places on the grid -/

/-- The place of a number on the grid, whatever its sign. -/
def place (x : Float) : Nat := x.toBits.toNat % 2 ^ 63

/-- **The magnitude at a place of the grid.** The place counts `2 ^ 52` numbers for each power of
two, and the significand has 53 bits but for the least power. -/
structure Binary.At (magnitude : Binary) (place : Nat) : Prop where
  /-- The place is counted from the power of two and the significand. -/
  place_eq : (magnitude.exponent + 1074).toNat * 2 ^ 52 + magnitude.significand = place
  /-- There is a least power of two. -/
  least : -1074 ≤ magnitude.exponent
  /-- The significand has at most 53 bits. -/
  significand_lt : magnitude.significand < 2 ^ 53
  /-- It has fewer only for the least power of two. -/
  normal : 2 ^ 52 ≤ magnitude.significand ∨ magnitude.exponent = -1074
  /-- The neighbour below is nearer where the power of two changes. -/
  narrow_iff : magnitude.narrowBelow = true ↔
    magnitude.significand = 2 ^ 52 ∧ -1074 < magnitude.exponent

/-- The magnitude that bits encode is the one at their place, if that is a place of a number. -/
theorem Binary.ofBits_at {bits : UInt64} (finite : bits.toNat % 2 ^ 63 < infinityBits) :
    (Binary.ofBits bits).At (bits.toNat % 2 ^ 63) := by
  unfold infinityBits at finite
  unfold Binary.ofBits Binary.leastExponent
  simp only [Nat.pow_eq]
  -- With a biased exponent the significand has a bit more than the fraction.
  split
  · constructor <;> simp <;> omega
  · constructor <;> simp <;> omega

/-- There is a magnitude at every place before the infinite one. -/
theorem Binary.at_ofNat {place : Nat} (finite : place < infinityBits) :
    (Binary.ofBits (UInt64.ofNat place)).At place := by
  have small : place % 2 ^ 63 = place := by
    unfold infinityBits at finite
    omega
  have value : (UInt64.ofNat place).toNat = place :=
    UInt64.toNat_ofNat_of_lt' (Nat.lt_trans finite (by decide))
  have there := @Binary.ofBits_at (UInt64.ofNat place) (by rwa [value, small])
  rwa [value, small] at there

/-- There is one magnitude at a place. -/
theorem Binary.At.unique {left right : Binary} {place : Nat} (first : left.At place)
    (second : right.At place) : left = right := by
  obtain ⟨same, least, bound, normal, narrow⟩ := first
  obtain ⟨same', least', bound', normal', narrow'⟩ := second
  have exponents : left.exponent = right.exponent := by omega
  have significands : left.significand = right.significand := by omega
  have sides : left.narrowBelow = right.narrowBelow := by
    rw [Bool.eq_iff_iff, narrow, narrow', exponents, significands]
  cases left
  cases right
  simp_all

/-! ## Reading the bits -/

/-- The sign that a sign bit stands for. -/
def signOf (negative : Bool) : Sign := if negative then .negative else .positive

/-- The finite number of a sign and a magnitude. -/
def finiteOf (negative : Bool) (magnitude : Binary) : UnpackedFloat :=
  if h : magnitude.significand = 0 then .zero (signOf negative)
  else .finite (signOf negative) magnitude.significand magnitude.exponent (Nat.pos_of_ne_zero h)

/-- What a sign and a place stand for. -/
def decode (negative : Bool) (place : Nat) : UnpackedFloat :=
  if infinityBits < place then .notANumber
  else if place = infinityBits then .infinity (signOf negative)
  else finiteOf negative (Binary.ofBits (UInt64.ofNat place))

/-- A place before that of the infinite number stands for the magnitude at it. -/
theorem decode_of_at {negative : Bool} {place : Nat} {magnitude : Binary}
    (h : magnitude.At place) (finite : place < infinityBits) :
    decode negative place = finiteOf negative magnitude := by
  rw [decode, if_neg (by omega), if_neg (by omega), (Binary.at_ofNat finite).unique h]

variable (bits : BitVec 64)

/-- The fraction is the last 52 bits. -/
theorem toNat_unpackMantissa :
    (@unpackMantissa Format.binary64 bits).toNat = bits.toNat % 2 ^ 52 := by
  rw [unpackMantissa_def]
  simp

/-- The biased exponent is the 11 bits before them. -/
theorem toNat_unpackExponent :
    (@unpackExponent Format.binary64 bits).toNat = bits.toNat / 2 ^ 52 % 2 ^ 11 := by
  rw [unpackExponent_def]
  simp [Nat.shiftRight_eq_div_pow]

/-- The sign is the first bit. -/
theorem ofBitVec_unpackSign :
    Sign.ofBitVec (@unpackSign Format.binary64 bits) =
      signOf (decide (2 ^ 63 ≤ bits.toNat)) := by
  have value : (@unpackSign Format.binary64 bits).toNat = bits.toNat / 2 ^ 63 := by
    rw [unpackSign_def]
    have bound := bits.isLt
    simp [Nat.shiftRight_eq_div_pow]
    omega
  unfold Sign.ofBitVec signOf
  simp only [← BitVec.toNat_inj, value, BitVec.toNat_ofNat, decide_eq_true_eq]
  split <;> split <;> first | rfl | omega

/-- The significand of a number with a biased exponent has one bit more than its fraction. -/
theorem toNat_implicit :
    (1#1 ++ @unpackMantissa Format.binary64 bits).toNat =
      2 ^ 52 + bits.toNat % 2 ^ 52 := by
  rw [BitVec.toNat_append, ← toNat_unpackMantissa,
    ← Nat.shiftLeft_add_eq_or_of_lt (BitVec.isLt _)]
  rfl

/-- **What bits stand for is read off the sign and the place.** -/
theorem unpack_eq :
    UnpackedFloat.unpack Format.binary64 bits =
      decode (decide (2 ^ 63 ≤ bits.toNat)) (bits.toNat % 2 ^ 63) := by
  have bias : (Format.binary64.exponentBias : Int) = 1023 := rfl
  have greatest : (-1#11).toNat = 2047 := by decide
  have bound := bits.isLt
  rw [UnpackedFloat.unpack]
  simp only [← BitVec.toNat_inj, toNat_unpackMantissa, toNat_unpackExponent, ofBitVec_unpackSign,
    greatest, bias, BitVec.toNat_ofNat, Nat.zero_mod]
  -- The four kinds of bits: special values with and without a fraction, and numbers without and
  -- with a biased exponent.
  by_cases special : bits.toNat / 2 ^ 52 % 2 ^ 11 = 2047
  · rw [if_pos special, decode]
    by_cases whole : bits.toNat % 2 ^ 52 = 0
    · rw [if_pos whole, if_neg (by unfold infinityBits; omega),
        if_pos (by unfold infinityBits; omega)]
    · rw [if_neg whole, if_pos (by unfold infinityBits; omega)]
  · rw [if_neg special]
    have finite : bits.toNat % 2 ^ 63 < infinityBits := by
      unfold infinityBits
      omega
    by_cases subnormal : bits.toNat / 2 ^ 52 % 2 ^ 11 = 0
    · have there : (Binary.mk (bits.toNat % 2 ^ 52) (-1074) false).At (bits.toNat % 2 ^ 63) := by
        constructor <;> simp <;> omega
      rw [if_pos subnormal, decode_of_at there finite, finiteOf]
      split
      · rfl
      · simp only [UnpackedFloat.finite.injEq, true_and]
        omega
    · have there : (Binary.mk (2 ^ 52 + bits.toNat % 2 ^ 52)
          ((bits.toNat / 2 ^ 52 % 2 ^ 11 : Nat) - 1075)
          (decide (bits.toNat % 2 ^ 52 = 0 ∧ 1 < bits.toNat / 2 ^ 52 % 2 ^ 11))).At
            (bits.toNat % 2 ^ 63) := by
        constructor <;> simp <;> omega
      rw [if_neg subnormal, decode_of_at there finite, finiteOf, dif_neg (by simp)]
      simp only [UnpackedFloat.finite.injEq, true_and]
      exact ⟨toNat_implicit bits, by omega⟩

/-! ## Numbers by sign and place -/

/-- The number of a sign and a place. -/
def numberAt (negative : Bool) (place : Nat) : Float :=
  Float.ofBits (UInt64.ofNat (if negative then 2 ^ 63 + place else place))

variable {x y : Float} {negative : Bool} {size : Nat}

/-- What the operations see of a number. -/
theorem unpack_toModel (x : Float) : x.toModel.unpack = decode (isNegative x) (place x) :=
  unpack_eq x.toModel.toBits.toBitVec

/-- What is no number has a place behind the infinite one. -/
theorem isNaN_iff_place : x.isNaN = true ↔ infinityBits < place x := by
  change x.toModel.unpack.isNaN = true ↔ _
  rw [unpack_toModel, decode]
  split
  · simp [UnpackedFloat.isNaN, *]
  · split
    · simp [UnpackedFloat.isNaN, *]
    · unfold finiteOf
      split <;> simp [UnpackedFloat.isNaN, *]

/-- A number has a place up to the infinite one. -/
theorem place_le_of_isNaN (number : x.isNaN = false) : place x ≤ infinityBits := by
  by_contra behind
  rw [isNaN_iff_place.mpr (by omega)] at number
  cases number

/-- What is infinite has the place after all finite numbers. -/
theorem isInf_iff_place : x.isInf = true ↔ place x = infinityBits := by
  change x.toModel.unpack.isInf = true ↔ _
  rw [unpack_toModel, decode]
  split
  · simp [UnpackedFloat.isInf]
    omega
  · split
    · simp [UnpackedFloat.isInf, *]
    · unfold finiteOf
      split <;> simp [UnpackedFloat.isInf, *]

/-- **A number is its sign and its place.** -/
theorem eq_of_place (signs : isNegative x = isNegative y) (places : place x = place y) :
    x = y := by
  refine Float.toBits_inj.mp (UInt64.toNat_inj.mp ?_)
  have bound := x.toBits.toNat_lt
  have bound' := y.toBits.toNat_lt
  unfold isNegative at signs
  unfold place at places
  simp only [Nat.pow_eq, decide_eq_decide] at signs
  omega

/-- The bits of a number are the ones that it was made from. -/
theorem toNat_toBits_numberAt (h : size ≤ infinityBits) :
    (numberAt negative size).toBits.toNat = if negative then 2 ^ 63 + size else size := by
  generalize value : (if negative then 2 ^ 63 + size else size) = bits
  have small : bits < UInt64.size ∧ bits % 2 ^ 63 ≤ infinityBits := by
    change bits < 2 ^ 64 ∧ _
    unfold infinityBits at h ⊢
    split at value <;> omega
  have exact := UInt64.toNat_ofNat_of_lt' small.1
  -- Packing keeps all bits but those behind the infinite place, which are no number.
  have noNaN : @isNaNBits Format.binary64 (UInt64.ofNat bits).toBitVec = false := by
    have bound : (UInt64.ofNat bits).toBitVec.toNat = bits := exact
    unfold isNaNBits
    have greatest : (-1#11).toNat = 2047 := by decide
    simp only [← BitVec.toNat_inj, toNat_unpackMantissa, toNat_unpackExponent, greatest, bound,
      decide_eq_false_iff_not, ne_eq, BitVec.toNat_ofNat, Nat.zero_mod]
    unfold infinityBits at small
    omega
  have kept := @pack_unpack Format.binary64 (UInt64.ofNat bits).toBitVec
  rw [noNaN, if_neg Bool.false_ne_true] at kept
  rw [numberAt, value]
  change (UnpackedFloat.pack Format.binary64
    (UnpackedFloat.unpack Format.binary64 (UInt64.ofNat bits).toBitVec)).toNat = bits
  rw [kept]
  exact exact

/-- The place that a number was made from. -/
theorem place_numberAt (h : size ≤ infinityBits) : place (numberAt negative size) = size := by
  rw [place, toNat_toBits_numberAt h]
  unfold infinityBits at h
  split <;> omega

/-- The sign that a number was made from. -/
theorem isNegative_numberAt (h : size ≤ infinityBits) :
    isNegative (numberAt negative size) = negative := by
  rw [isNegative, toNat_toBits_numberAt h]
  unfold infinityBits at h
  cases negative
  · simp
    omega
  · simp

/-- A number is the one of its sign and its place. -/
theorem numberAt_place (number : x.isNaN = false) : numberAt (isNegative x) (place x) = x :=
  have bound := place_le_of_isNaN number
  eq_of_place (isNegative_numberAt bound) (place_numberAt bound)

/-- Packing what a sign and a place stand for gives the number of both. -/
theorem ofModel_pack (h : size ≤ infinityBits) :
    Float.ofModel (Float.Model.pack (decode negative size)) = numberAt negative size := by
  have unpacked := unpack_toModel (numberAt negative size)
  rw [isNegative_numberAt h, place_numberAt h] at unpacked
  refine Float.toBits_inj.mp (UInt64.toBitVec_inj.mp ?_)
  change UnpackedFloat.pack Format.binary64 (decode negative size) = _
  rw [← unpacked]
  exact pack_unpack_of_valid (numberAt negative size).toModel.valid

/-- **The negative of a number** has the other sign and the same place. -/
theorem neg_numberAt (h : size ≤ infinityBits) :
    -numberAt negative size = numberAt (!negative) size := by
  -- Whatever stands at the place, only its sign is turned.
  have turned : (decode negative size).neg = decode (!negative) size := by
    unfold decode finiteOf signOf
    cases negative <;> split <;> try rfl
    all_goals split <;> try rfl
    all_goals split <;> rfl
  have unpacked := unpack_toModel (numberAt negative size)
  rw [isNegative_numberAt h, place_numberAt h] at unpacked
  change Float.ofModel (Float.Model.pack (numberAt negative size).toModel.unpack.neg) = _
  rw [unpacked, turned, ofModel_pack h]

/-- The negative of a number has the same place. -/
theorem place_neg (number : x.isNaN = false) : place (-x) = place x := by
  have bound := place_le_of_isNaN number
  nth_rewrite 1 [← numberAt_place number]
  rw [neg_numberAt bound, place_numberAt bound]

/-- The negative of a number has the other sign. -/
theorem isNegative_neg (number : x.isNaN = false) : isNegative (-x) = !isNegative x := by
  have bound := place_le_of_isNaN number
  nth_rewrite 1 [← numberAt_place number]
  rw [neg_numberAt bound, isNegative_numberAt bound]

/-! ## Order -/

/-- A sign before a place, the same for both signs of zero. -/
def signed (negative : Bool) (size : Nat) : Int := if negative then -size else size

/-- The place of a number with its sign, the same for both zeros. -/
def key (x : Float) : Int := signed (isNegative x) (place x)

variable {left right : Binary} {negative' : Bool} {size' : Nat}

/-- Of two magnitudes the one at the earlier place is less, by the power of two and then by the
significand. -/
theorem Binary.At.compare_eq (first : left.At size) (second : right.At size') :
    (compare left.exponent right.exponent).then (compare left.significand right.significand) =
      compare size size' := by
  obtain ⟨same, least, bound, normal, -⟩ := first
  obtain ⟨same', least', bound', normal', -⟩ := second
  -- A lesser power never stands at a later place, as significands of greater ones have all 53
  -- bits.
  rcases Nat.lt_trichotomy size size' with less | equal | more
  · rw [Nat.compare_eq_lt.mpr less, Ordering.then_eq_lt]
    simp only [Int.compare_eq_lt, Int.compare_eq_eq, Nat.compare_eq_lt]
    omega
  · rw [Nat.compare_eq_eq.mpr equal, Ordering.then_eq_eq]
    simp only [Int.compare_eq_eq, Nat.compare_eq_eq]
    omega
  · rw [Nat.compare_eq_gt.mpr more, Ordering.then_eq_gt]
    simp only [Int.compare_eq_gt, Int.compare_eq_eq, Nat.compare_eq_gt]
    omega

/-- A place stands for zero, a positive finite number or the infinite number. -/
theorem decode_cases (negative : Bool) (h : size ≤ infinityBits) :
    (size = 0 ∧ decode negative size = .zero (signOf negative)) ∨
    (size = infinityBits ∧ decode negative size = .infinity (signOf negative)) ∨
    (0 < size ∧ size < infinityBits ∧ ∃ magnitude : Binary, magnitude.At size ∧
      ∃ pos, decode negative size =
        .finite (signOf negative) magnitude.significand magnitude.exponent pos) := by
  rcases Nat.lt_or_eq_of_le h with finite | infinite
  · have there := Binary.at_ofNat finite
    rw [decode_of_at there finite, finiteOf]
    by_cases zero : (Binary.ofBits (UInt64.ofNat size)).significand = 0
    · refine .inl ⟨?_, dif_pos zero⟩
      obtain ⟨same, -, -, normal, -⟩ := there
      omega
    · refine .inr (.inr ⟨?_, finite, _, there, Nat.pos_of_ne_zero zero, dif_neg zero⟩)
      have same := there.place_eq
      omega
  · refine .inr (.inl ⟨infinite, ?_⟩)
    rw [decode, if_neg (by omega), if_pos infinite]

/-- Finite numbers compare as their places with their signs. -/
theorem compare_finite (first : left.At size) (second : right.At size') (pos : 0 < size)
    (pos' : 0 < size') (h : 0 < left.significand) (h' : 0 < right.significand) :
    (UnpackedFloat.finite (signOf negative) left.significand left.exponent h).compare
        (.finite (signOf negative') right.significand right.exponent h') =
      some (compare (signed negative size) (signed negative' size')) := by
  have places := first.compare_eq second
  cases negative <;> cases negative'
  · have naturals : compare (size : Int) size' = compare size size' := by
      rw [Int.compare_eq_ite_lt, Nat.compare_eq_ite_lt]
      simp
    exact congrArg some (places.trans naturals.symm)
  · exact congrArg some (Int.compare_eq_gt.mpr (show (-size' : Int) < size by omega)).symm
  · exact congrArg some (Int.compare_eq_lt.mpr (show (-size : Int) < size' by omega)).symm
  · -- Among negative numbers the later place is the lesser number.
    have turned : compare (-size : Int) (-size') = (compare size size').swap := by
      rw [Nat.compare_swap, Int.compare_eq_ite_lt, Nat.compare_eq_ite_lt]
      simp
    exact congrArg some ((congrArg Ordering.swap places).trans turned.symm)

/-- Infinite numbers compare by their signs. -/
theorem compare_infinite (pos : 0 < size) :
    compare (signOf negative) (signOf negative') =
      compare (signed negative size) (signed negative' size) := by
  cases negative <;> cases negative'
  · exact (Int.compare_eq_eq.mpr rfl).symm
  · exact (Int.compare_eq_gt.mpr (show (-size : Int) < size by omega)).symm
  · exact (Int.compare_eq_lt.mpr (show (-size : Int) < size by omega)).symm
  · exact (Int.compare_eq_eq.mpr rfl).symm

/-- **Numbers compare as their places with their signs.** -/
theorem compare_decode (h : size ≤ infinityBits) (h' : size' ≤ infinityBits) :
    (decode negative size).compare (decode negative' size') =
      some (compare (signed negative size) (signed negative' size')) := by
  have infinite : 0 < infinityBits := by decide
  rcases decode_cases negative h with
    ⟨kind, first⟩ | ⟨kind, first⟩ | ⟨kind, bound, magnitude, there, _, first⟩
  all_goals rcases decode_cases negative' h' with
    ⟨kind', second⟩ | ⟨kind', second⟩ | ⟨kind', bound', magnitude', there', _, second⟩
  all_goals rw [first, second]
  -- Numbers of one kind compare by their places or signs; different kinds are settled by the signs.
  case inr.inr.inr.inr => exact compare_finite there there' kind kind' _ _
  case inr.inl.inr.inl =>
    rw [kind, kind']
    exact congrArg some (compare_infinite infinite)
  all_goals
    clear first second
    generalize infinityBits = top at *
    cases negative <;> cases negative' <;>
    simp only [signOf, signed, UnpackedFloat.compare, Int.compare_eq_ite_lt, Bool.false_eq_true,
      if_true, if_false, Option.some.injEq] <;>
    grind

/-- **A number is less than another** when its place with its sign is. -/
theorem lt_iff_key (number : x.isNaN = false) (number' : y.isNaN = false) :
    x < y ↔ key x < key y := by
  change decide ((x.toModel.unpack.compare y.toModel.unpack == some .lt) = true) = true ↔ _
  rw [unpack_toModel, unpack_toModel,
    compare_decode (place_le_of_isNaN number) (place_le_of_isNaN number'), decide_eq_true_eq,
    beq_iff_eq, Option.some.injEq, Int.compare_eq_lt]
  rfl

end ReactiveScript.Number
