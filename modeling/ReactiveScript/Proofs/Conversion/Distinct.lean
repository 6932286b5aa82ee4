import ReactiveScript.Proofs.Conversion.Spelling
import ReactiveScript.Proofs.Datum.Likeness
import ReactiveScript.Proofs.Number.Widening

/-! # The texts of scalars tell them apart

Scalars that are not texts have different texts unless they are the same value
(`Datum.same_of_render_eq`) or contain the value that is no number both, which the letters of their
texts tell (`Datum.isNaN_eq_of_render_eq`). The characters of a text give away whether it spells a
real number, a complex number or a word (`Appearance.of`). Real numbers of both kinds are read off
their texts, and the digits of an integer are read as the floating-point number that the integer is
widened to (`readFloat_intText`). Complex numbers are read off their texts but for a negative zero,
which is seen at the end of the text. -/

namespace ReactiveScript

open Number

/-! ## Digits are read as the widened integer -/

namespace Number

/-- The numeral of a natural number. -/
def naturalNumeral (natural : Nat) : Numeral where
  whole := Nat.toDigits 10 natural
  fraction := none
  whole_ne_nil := Nat.toDigits_ne_nil
  isDigit_whole _ := isDigit_of_mem_digits
  isDigit_fraction _ mem := by cases mem

/-- Zero is rounded to the first place only. -/
theorem OnGrid.gridPlace_zero {exponent : Int} {n : Nat} (h : OnGrid 0 exponent n) :
    gridPlace exponent n = 0 := by
  have first : gridPlace exponent n ≤ gridPlace (-1074) 0 := h.gridPlace_mono onGrid_zero le_rfl
  exact Nat.le_zero.mp first

/-- **The digits of a natural number are read as the place that it is rounded to.** -/
theorem value_naturalNumeral {natural : Nat} {exponent : Int} {n : Nat}
    (h : OnGrid natural exponent n) (finite : gridPlace exponent n ≤ infinityBits) :
    (naturalNumeral natural).parts.value = numberAt false (gridPlace exponent n) := by
  have digits : naturalOf (Nat.toDigits 10 natural ++ []) = natural := by
    rw [List.append_nil, naturalOf_toDigits]
  unfold DecimalParts.value
  simp only [Numeral.parts, naturalNumeral, Option.getD_none, digits]
  rcases Nat.eq_zero_or_pos natural with rfl | pos
  · rw [if_pos (.inl rfl), OnGrid.gridPlace_zero (by exact_mod_cast h)]
    rfl
  · have ratio : powerRatio 10 (0 - (([] : List Char).length : Int)) = (1, 1) := rfl
    rw [if_neg (by unfold powerLimit; simp; omega), if_neg (by unfold powerLimit; simp), ratio]
    simp only [Nat.mul_one]
    rw [nearest_eq pos Nat.one_pos (by simpa using h), min_eq_left finite]

/-- Digits are read without a sign. -/
theorem readMagnitude_chars (numeral : Numeral) :
    readMagnitude numeral.chars = some numeral.parts.value := by
  have special := numeral.specialValue_append []
  rw [List.append_nil] at special
  rw [readMagnitude, special, numeral.readParts_chars]
  rfl

end Number

/-- **The text of an integer is read as the floating-point number that it is widened to.** -/
theorem readFloat_intText (n : Int64) : readFloat (intText n).toList = some (ofWord n) := by
  obtain ⟨exponent, multiple, grid, finite, made⟩ := exists_onGrid_ofWord n
  have read : readMagnitude (Nat.toDigits 10 n.toInt.natAbs) =
      some (numberAt false (gridPlace exponent multiple)) := by
    have read := readMagnitude_chars (naturalNumeral n.toInt.natAbs)
    rw [value_naturalNumeral grid finite] at read
    rwa [Numeral.chars, Numeral.tail, naturalNumeral, Option.elim_none, List.append_nil] at read
  rw [toList_intText, readFloat_eq]
  by_cases negative : n.toInt < 0
  · rw [if_pos negative, List.singleton_append, splitSign]
    dsimp only
    rw [read, made, decide_eq_true negative, Option.map_some, if_pos rfl, neg_numberAt finite]
    rfl
  · rw [if_neg negative, List.nil_append, splitSign_digits fun c => isDigit_of_mem_digits]
    dsimp only
    rw [read, made, decide_eq_false negative, Option.map_some, if_neg Bool.false_ne_true]

/-! ## The appearance of a text -/

/-- What the text of a scalar looks like: a real number, a complex number or a word. -/
inductive Appearance where
  | real
  | complex
  | word
deriving DecidableEq, Repr

/-- What a text looks like: only complex numbers have blanks, and only numbers have nothing but the
characters of numbers. -/
def Appearance.of (text : String) : Appearance :=
  if ' ' ∈ text.toList then .complex
  else if ∀ c ∈ text.toList, c ∈ signedChars then .real
  else .word

/-- Whether a tree is a text. -/
def Datum.isText : Datum → Bool
  | .text _ => true
  | _ => false

/-- What the text of a scalar that is no text looks like. -/
def Datum.appearance : Datum → Appearance
  | .int _ | .float _ => .real
  | .complex .. => .complex
  | _ => .word

/-- Nothing but the characters of numbers looks like a real number. -/
theorem Appearance.of_solid {text : String} (solid : ∀ c ∈ text.toList, c ∈ signedChars) :
    Appearance.of text = .real := by
  have noBlank : ' ' ∉ text.toList := fun mem => absurd (solid ' ' mem) (by decide)
  rw [Appearance.of, if_neg noBlank, if_pos solid]

/-- A letter that no number has looks like a word. -/
theorem Appearance.of_letter {text : String} {chars : List Char} (spelled : text.toList = chars)
    (noBlank : ' ' ∉ chars) (letter : ∃ c ∈ chars, c ∉ signedChars) :
    Appearance.of text = .word := by
  subst spelled
  rw [Appearance.of, if_neg noBlank, if_neg]
  rintro solid
  obtain ⟨c, mem, odd⟩ := letter
  exact odd (solid c mem)

namespace Datum

variable {key other : Datum} {a b c d : Float}

/-- A scalar that is no text looks like what it is. -/
theorem appearance_eq (plain : key.container? = none) (noText : key.isText = false)
    (number : key.isNaN = false) : Appearance.of key.render = key.appearance := by
  cases key with
  | int n => exact Appearance.of_solid fun c => mem_signedChars_of_intText
  | float x => exact Appearance.of_solid fun c => mem_signedChars_of_floatText number
  | complex re im =>
    have blank : ' ' ∈ (complexText re im).toList := by
      rw [complexText]
      split <;> simp
    exact if_pos blank
  | boolean b =>
    cases b with
    | false => exact Appearance.of_letter rfl (by decide) ⟨'a', by decide, by decide⟩
    | true => exact Appearance.of_letter rfl (by decide) ⟨'t', by decide, by decide⟩
  | text s => cases noText
  | void => exact Appearance.of_letter rfl (by decide) ⟨'v', by decide, by decide⟩
  | untyped => exact Appearance.of_letter rfl (by decide) ⟨'?', by decide, by decide⟩
  | list handle element items => cases plain
  | dict handle key value entries => cases plain
  | cycle container => cases plain

/-! ## What is no number

Of the texts of scalars only that of the value that is no number, and those of complex numbers that
contain it, have both letters of `nan`. -/

/-- There is one value that is no number. -/
theorem eq_nan_of_isNaN (noNumber : a.isNaN = true) : a = Float.nan := by
  rw [Float.isNaN_eq_decide_eq_nan] at noNumber
  exact of_decide_eq_true noNumber

/-- The text of the value that is no number. -/
theorem toList_floatText_nan : (floatText Float.nan).toList = ['n', 'a', 'n'] := by decide

/-- What stands in the text of a complex number beside its parts. -/
theorem mem_of_complexText {letter : Char} (mem : letter ∈ (complexText a b).toList) :
    letter ∈ (floatText a).toList ∨ letter ∈ (floatText b).toList ∨
      letter ∈ (floatText (-b)).toList ∨ letter ∈ [' ', '+', '-', 'j'] := by
  rw [complexText] at mem
  split at mem <;> simp at mem ⊢ <;> tauto

/-- Both letters are in the text of what contains the value that is no number. -/
theorem letters_of_isNaN (noNumber : key.isNaN = true) :
    'n' ∈ key.render.toList ∧ 'a' ∈ key.render.toList := by
  cases key with
  | float x =>
    obtain rfl := eq_nan_of_isNaN noNumber
    rw [show (float Float.nan).render = floatText Float.nan from rfl, toList_floatText_nan]
    decide
  | complex re im =>
    have holds (letter : Char) (mem : letter ∈ ['n', 'a', 'n']) :
        letter ∈ (complexText re im).toList := by
      rw [← toList_floatText_nan] at mem
      rcases Bool.or_eq_true_iff.mp noNumber with noNumber | noNumber
      · obtain rfl := eq_nan_of_isNaN noNumber
        rw [complexText]
        split <;> simp [mem]
      · obtain rfl := eq_nan_of_isNaN noNumber
        have notLess : ¬ Float.nan < 0 := by decide
        rw [complexText, if_neg notLess]
        simp [mem]
    exact ⟨holds _ (by decide), holds _ (by decide)⟩
  | _ => cases noNumber

/-- A scalar that is no text and has both letters contains the value that is no number. -/
theorem isNaN_of_letters (plain : key.container? = none) (noText : key.isText = false)
    (first : 'n' ∈ key.render.toList) (second : 'a' ∈ key.render.toList) : key.isNaN = true := by
  have odd : 'a' ∉ signedChars := by decide
  have unread {x : Float} (number : x.isNaN = false) : 'a' ∉ (floatText x).toList :=
    fun mem => odd (mem_signedChars_of_floatText number mem)
  cases key with
  | int n => exact absurd (mem_signedChars_of_intText second) odd
  | float x => exact Bool.of_not_eq_false fun number => unread number second
  | complex re im =>
    refine Bool.of_not_eq_false fun numbers => ?_
    obtain ⟨number, number'⟩ := Bool.or_eq_false_iff.mp numbers
    rcases mem_of_complexText second with mem | mem | mem | mem
    · exact unread number mem
    · exact unread number' mem
    · exact unread (isNaN_neg number') mem
    · exact absurd mem (by decide)
  | boolean b => cases b <;> exact absurd first (by decide)
  | text s => cases noText
  | void => exact absurd first (by decide)
  | untyped => exact absurd first (by decide)
  | _ => cases plain

/-- **Scalars with one text contain the value that is no number both or neither.** -/
theorem isNaN_eq_of_render_eq (plain : key.container? = none) (plain' : other.container? = none)
    (noText : key.isText = false) (noText' : other.isText = false)
    (h : key.render = other.render) : key.isNaN = other.isNaN := by
  refine Bool.eq_iff_iff.mpr ⟨fun noNumber => ?_, fun noNumber => ?_⟩
  · obtain ⟨first, second⟩ := letters_of_isNaN noNumber
    rw [h] at first second
    exact isNaN_of_letters plain' noText' first second
  · obtain ⟨first, second⟩ := letters_of_isNaN noNumber
    rw [← h] at first second
    exact isNaN_of_letters plain noText first second

/-! ## Numbers -/

/-- Integers have different texts. -/
theorem eq_of_intText_eq {m n : Int64} (h : intText m = intText n) : m = n := by
  have read := readWord_intText m
  rw [h, readWord_intText] at read
  exact (Option.some.inj read).symm

/-- Floating-point numbers have different texts. -/
theorem eq_of_floatText_eq (number : a.isNaN = false) (number' : b.isNaN = false)
    (h : floatText a = floatText b) : a = b := by
  have read : readFloat (floatText a).toList = some a := readFloat_write rfl number
  have read' : readFloat (floatText b).toList = some b := readFloat_write rfl number'
  rw [h, read'] at read
  exact (Option.some.inj read).symm

/-- An integer that has the text of a floating-point number is widened to it. -/
theorem ofWord_eq_of_text_eq {n : Int64} (number : a.isNaN = false)
    (h : intText n = floatText a) : ofWord n = a := by
  have read : readFloat (floatText a).toList = some a := readFloat_write rfl number
  rw [← h, readFloat_intText] at read
  exact Option.some.inj read

/-- **Complex numbers have different texts.** -/
theorem eq_of_complexText_eq (numbers : a.isNaN = false ∧ b.isNaN = false)
    (numbers' : c.isNaN = false ∧ d.isNaN = false) (h : complexText a b = complexText c d) :
    a = c ∧ b = d := by
  obtain ⟨number, imaginary⟩ := numbers
  obtain ⟨number', imaginary'⟩ := numbers'
  by_cases zero : b = -0
  · by_cases zero' : d = -0
    · -- The same imaginary part stands at the end of both texts.
      subst zero zero'
      refine ⟨eq_of_floatText_eq number number' ?_, rfl⟩
      have notLess : ¬ (-0 : Float) < 0 := by
        rw [lt_zero_iff imaginary, negativeZero_eq, place_numberAt (Nat.zero_le _)]
        exact fun less => less.2 rfl
      simp only [complexText, if_neg notLess, String.append_assoc] at h
      exact (String.append_left_inj _).mp h
    · have unread := readComplex_negativeZero number
      rw [zero] at h
      rw [h, readComplex_complexText number' imaginary' zero'] at unread
      cases unread
  · by_cases zero' : d = -0
    · have unread := readComplex_negativeZero number'
      rw [zero'] at h
      rw [← h, readComplex_complexText number imaginary zero] at unread
      cases unread
    · have read := readComplex_complexText number imaginary zero
      rw [h, readComplex_complexText number' imaginary' zero'] at read
      obtain ⟨rfl, rfl⟩ := Prod.mk.inj (Option.some.inj read)
      exact ⟨rfl, rfl⟩

/-- Real numbers have different texts unless they are the same. -/
theorem same_of_real (real : key.appearance = .real) (real' : other.appearance = .real)
    (number : key.isNaN = false) (number' : other.isNaN = false)
    (h : key.render = other.render) : key.same other = true := by
  cases key with
  | int m =>
    cases other with
    | int n =>
      obtain rfl := eq_of_intText_eq h
      exact beq_self_eq_true m
    | float x =>
      obtain rfl := ofWord_eq_of_text_eq number' h
      exact beq_self (isNaN_ofWord m)
    | _ => cases real'
  | float x =>
    cases other with
    | int n =>
      obtain rfl := ofWord_eq_of_text_eq number h.symm
      exact beq_self (isNaN_ofWord n)
    | float y =>
      obtain rfl := eq_of_floatText_eq number number' h
      exact beq_self number
    | _ => cases real'
  | _ => cases real

/-- The scalars whose texts are words. -/
def words : List Datum := [.boolean false, .boolean true, .void, .untyped]

/-- What looks like a word is one of them. -/
theorem mem_words (plain : key.container? = none) (noText : key.isText = false)
    (word : key.appearance = .word) : key ∈ words := by
  cases key with
  | boolean b => cases b <;> simp [words]
  | text s => cases noText
  | void => simp [words]
  | untyped => simp [words]
  | int n => cases word
  | float x => cases word
  | complex re im => cases word
  | _ => cases plain

/-- Words are different unless they stand for the same. -/
theorem same_of_words : ∀ key ∈ words, ∀ other ∈ words, key.render = other.render →
    key.same other = true := by
  decide

/-- **Scalars that are not texts have different texts unless they are the same.** -/
theorem same_of_render_eq (plain : key.container? = none) (plain' : other.container? = none)
    (noText : key.isText = false) (noText' : other.isText = false) (number : key.isNaN = false)
    (number' : other.isNaN = false) (h : key.render = other.render) : key.same other = true := by
  have appearance := appearance_eq plain noText number
  rw [h, appearance_eq plain' noText' number'] at appearance
  cases looks : key.appearance with
  | real => exact same_of_real looks (appearance.trans looks) number number' h
  | complex =>
    rw [looks] at appearance
    cases key with
    | complex a b =>
      cases other with
      | complex c d =>
        obtain ⟨first, second⟩ := Bool.or_eq_false_iff.mp number
        obtain ⟨rfl, rfl⟩ :=
          eq_of_complexText_eq ⟨first, second⟩ (Bool.or_eq_false_iff.mp number') h
        exact Bool.and_eq_true_iff.mpr ⟨beq_self first, beq_self second⟩
      | _ => cases appearance
    | _ => cases looks
  | word =>
    rw [looks] at appearance
    have known := mem_words plain noText looks
    exact same_of_words key known other (mem_words plain' noText' appearance) h

end Datum

end ReactiveScript
