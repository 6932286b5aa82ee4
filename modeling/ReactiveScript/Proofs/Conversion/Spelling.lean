import ReactiveScript.Proofs.Grammar.Statement
import ReactiveScript.Proofs.Number.Numeral
import ReactiveScript.Proofs.Ty.Profile
import ReactiveScript.Value.Cast

/-! # Scalars are read off their texts

An integer, a truth value and a floating-point number cast to a text are cast back to themselves. So
is a complex number, whose text is split at the sign of the imaginary part
(`imaginaryStart?_marked`), unless that part is negative zero. Negative zero is not less than zero,
so it is written behind a plus sign with its own sign, and the text is split between the two signs
(`readComplex_negativeZero`). -/

namespace ReactiveScript

open Number

/-! ## Characters -/

/-- The characters that stand in the text of a number. -/
def signedChars : List Char := '-' :: numeralChars

/-- None of them is blank, nor is a plus sign or the mark of the imaginary unit. -/
theorem isBlank_visible : ∀ c ∈ '+' :: 'j' :: signedChars, Text.isBlank c = false := by
  have all : (('+' :: 'j' :: signedChars).all fun c => !Text.isBlank c) = true := by
    cbv
  exact fun c mem => (Bool.not_eq_eq_eq_not ..).mp (List.all_eq_true.mp all c mem)

/-- None of them is blank. -/
theorem isBlank_signedChars : ∀ c ∈ signedChars, Text.isBlank c = false :=
  fun c mem => isBlank_visible c (List.mem_cons_of_mem _ (List.mem_cons_of_mem _ mem))

/-- The mark of the imaginary unit is not blank. -/
theorem isBlank_unit : Text.isBlank 'j' = false := isBlank_visible 'j' (by simp)

/-- Nothing is trimmed where no character is blank. -/
theorem Text.trim_of_solid {chars : List Char} (solid : ∀ c ∈ chars, isBlank c = false) :
    trim chars = chars :=
  trim_of_bare ⟨fun c head => solid c (List.mem_of_mem_head? head),
    fun c last => solid c (List.mem_of_mem_getLast? last)⟩

/-! ## Integers, truth values and floating-point numbers -/

/-- The text of an integer is its sign and its digits. -/
theorem toList_intText (n : Int64) :
    (intText n).toList =
      (if n.toInt < 0 then ['-'] else []) ++ Nat.toDigits 10 n.toInt.natAbs := by
  unfold intText
  cases n.toInt with
  | ofNat m =>
    have sign : ¬ Int.ofNat m < 0 := not_lt.mpr (Int.natCast_nonneg m)
    rw [if_neg sign]
    exact Nat.toList_repr
  | negSucc m =>
    have sign : Int.negSucc m < 0 := Int.negSucc_lt_zero m
    rw [if_pos sign]
    change ("-" ++ Nat.repr (m + 1)).toList = _
    rw [String.toList_append, Nat.toList_repr]
    rfl

/-- **The text of an integer is read as that integer.** -/
theorem readWord_intText (n : Int64) : readWord (intText n).toList = some n := by
  have natural := readNatural_repr n.toInt.natAbs
  rw [Nat.toList_repr] at natural
  have integer : readInteger (intText n).toList = some n.toInt := by
    rw [toList_intText]
    by_cases negative : n.toInt < 0
    · rw [if_pos negative, List.singleton_append, readInteger, splitSign]
      dsimp only
      rw [natural]
      exact congrArg some (show -(n.toInt.natAbs : Int) = n.toInt by omega)
    · rw [if_neg negative, List.nil_append, readInteger,
        splitSign_digits fun c => isDigit_of_mem_digits]
      dsimp only
      rw [natural]
      exact congrArg some (show (n.toInt.natAbs : Int) = n.toInt by omega)
  rw [readWord, integer, Option.bind_some, checked_toInt]

/-- What stands in the text of an integer. -/
theorem mem_signedChars_of_intText {n : Int64} {c : Char} (mem : c ∈ (intText n).toList) :
    c ∈ signedChars := by
  rw [toList_intText] at mem
  rcases List.mem_append.mp mem with mem | mem
  · split at mem
    · rw [List.mem_singleton.mp mem]
      exact List.mem_cons_self
    · cases mem
  · exact List.mem_cons_of_mem _ (mem_numeralChars_of_isDigit (isDigit_of_mem_digits mem))

variable {x re im : Float}

/-- What stands in the text of a floating-point number. -/
theorem mem_signedChars_of_floatText (number : x.isNaN = false) {c : Char}
    (mem : c ∈ (floatText x).toList) : c ∈ signedChars := by
  rw [floatText, canonicalLayout.toList_write number] at mem
  rcases List.mem_append.mp mem with mem | mem
  · split at mem
    · rw [List.mem_singleton.mp mem]
      exact List.mem_cons_self
    · cases mem
  · exact List.mem_cons_of_mem _ (mem_numeralChars_of_magnitudeText rfl number mem)

/-- The text of an integer is cast to that integer. -/
theorem castInt_intText (n : Int64) : Value.castInt (.text (intText n)) = .ok n := by
  have solid : Text.trim (intText n).toList = (intText n).toList :=
    Text.trim_of_solid fun c mem => isBlank_signedChars c (mem_signedChars_of_intText mem)
  rw [Value.castInt]
  simp only [solid, readWord_intText]

/-- The text of a truth value is cast to that truth value. -/
theorem textTruth_booleanText (b : Bool) : textTruth (booleanText b) = b := by
  cases b <;> cbv

/-- The text of a floating-point number is cast to that number. -/
theorem castFloat_floatText (number : x.isNaN = false) :
    Value.castFloat (.text (floatText x)) = .ok x := by
  have solid : Text.trim (floatText x).toList = (floatText x).toList :=
    Text.trim_of_solid fun c mem => isBlank_signedChars c (mem_signedChars_of_floatText number mem)
  rw [Value.castFloat, solid, floatText, readFloat_write rfl number]

/-! ## Complex numbers -/

/-- **The imaginary part starts at the last sign**, unless that is the sign of an exponent. -/
theorem imaginaryStart?_marked {front behind : List Char} {mark : Char}
    (sign : mark = '+' ∨ mark = '-') (nonempty : front ≠ [])
    (noExponent : ∀ c ∈ front, c ≠ 'e' ∧ c ≠ 'E') (unsigned : ∀ c ∈ behind, c ≠ '+' ∧ c ≠ '-') :
    imaginaryStart? (front ++ mark :: behind).reverse = some front.length := by
  rw [List.reverse_append, List.reverse_cons, List.append_assoc, List.singleton_append]
  -- The characters behind the sign are passed one by one.
  have passed : ∀ {passing : List Char}, (∀ c ∈ passing, c ≠ '+' ∧ c ≠ '-') →
      imaginaryStart? (passing ++ mark :: front.reverse) =
        imaginaryStart? (mark :: front.reverse) := by
    intro passing unsigned
    induction passing with
    | nil => rfl
    | cons c passing ih =>
      obtain ⟨plain, unsigned⟩ := List.forall_mem_cons.mp unsigned
      have rest := ih unsigned
      obtain ⟨next, more, split⟩ :=
        List.exists_cons_of_ne_nil (l := passing ++ mark :: front.reverse) (by simp)
      rw [List.cons_append, split, imaginaryStart?, if_neg (by simp [plain]), ← split, rest]
  rw [passed (by simpa using unsigned)]
  obtain ⟨last, before, split⟩ := List.exists_cons_of_ne_nil (l := front.reverse) (by simpa)
  have length := congrArg List.length split
  have mem : last ∈ front := by
    rw [← List.mem_reverse, split]
    exact List.mem_cons_self
  rw [split, imaginaryStart?, if_pos ⟨sign, noExponent last mem⟩]
  simpa using length.symm

section Spaced

variable {left right : List Char} {mark : Char} {text : String}

/-- Two parts around a sign between blanks, with the mark of the imaginary unit at the end. -/
def spaced (left : List Char) (mark : Char) (right : List Char) : List Char :=
  left ++ [' ', mark, ' '] ++ right ++ ['j']

/-- Only the blanks are taken out of two parts around a sign. -/
theorem filter_spaced (solid : ∀ c ∈ left, c ∈ signedChars) (solid' : ∀ c ∈ right, c ∈ signedChars)
    (visible : Text.isBlank mark = false) :
    (spaced left mark right).filter (fun c => !Text.isBlank c) =
      left ++ mark :: right ++ ['j'] := by
  have kept {chars : List Char} (solid : ∀ c ∈ chars, c ∈ signedChars) :
      chars.filter (fun c => !Text.isBlank c) = chars :=
    List.filter_eq_self.mpr fun c mem => by rw [isBlank_signedChars c (solid c mem)]; rfl
  simp [spaced, List.filter_append, kept solid, kept solid', Text.isBlank_space, isBlank_unit,
    visible]

/-- **Two parts around a sign are read one by one**, split where the imaginary part starts. -/
theorem readComplex_spaced (nonempty : left ≠ []) (solid : ∀ c ∈ left, c ∈ signedChars)
    (solid' : ∀ c ∈ right, c ∈ signedChars) (visible : Text.isBlank mark = false)
    (spelled : text.toList = spaced left mark right) {place : Nat}
    (start : imaginaryStart? (left ++ mark :: right).reverse = some place) :
    readComplex text = (do
      let re ← readFloat ((left ++ mark :: right).take place)
      let im ← readImaginary ((left ++ mark :: right).drop place)
      return (re, im)) := by
  have bare : Text.Bare (spaced left mark right) := by
    refine ⟨fun c head => ?_, fun c last => ?_⟩
    · obtain ⟨first, more, rfl⟩ := List.exists_cons_of_ne_nil nonempty
      cases head
      exact isBlank_signedChars _ (solid _ List.mem_cons_self)
    · rw [spaced, List.getLast?_append] at last
      cases last
      exact isBlank_unit
  have noParenthesis : (spaced left mark right).dropWhile (· = '(') = spaced left mark right := by
    obtain ⟨first, more, rfl⟩ := List.exists_cons_of_ne_nil nonempty
    have other : first ≠ '(' := fun same =>
      absurd (solid first List.mem_cons_self) (by rw [same]; decide)
    simp [spaced, other]
  have noParenthesis' : ((spaced left mark right).reverse.dropWhile (· = ')')).reverse =
      spaced left mark right := by
    simp [spaced]
  rw [readComplex, spelled, Text.trim_of_bare bare, noParenthesis]
  simp only [noParenthesis', filter_spaced solid solid' visible]
  rw [if_pos List.getLast?_concat, List.dropLast_concat, start]

end Spaced

/-- None of the characters of a number marks an exponent. -/
theorem noExponent_signedChars : ∀ c ∈ signedChars, c ≠ 'e' ∧ c ≠ 'E' := by
  simp [signedChars, numeralChars]

/-- None of those behind its sign is a sign. -/
theorem unsigned_numeralChars : ∀ c ∈ numeralChars, c ≠ '+' ∧ c ≠ '-' := by
  simp [numeralChars]

/-- Both zeros are numbers. -/
theorem isNaN_zeroAt (negative : Bool) : (numberAt negative 0).isNaN = false := by
  rw [Bool.eq_false_iff, Ne, isNaN_iff_place, place_numberAt (Nat.zero_le _)]
  exact Nat.not_lt_zero _

/-- A number is less than zero when its sign is set and it is not zero. -/
theorem lt_zero_iff (number : x.isNaN = false) :
    x < 0 ↔ isNegative x = true ∧ place x ≠ 0 := by
  have zero : (0 : Float) = numberAt false 0 := rfl
  have bound : 0 ≤ infinityBits := Nat.zero_le _
  rw [zero, lt_iff_key number (isNaN_zeroAt false)]
  unfold key signed
  rw [isNegative_numberAt bound, place_numberAt bound]
  cases isNegative x with
  | true => simp; omega
  | false => simp

/-- Negative zero is the number at the first place with its sign set. -/
theorem negativeZero_eq : (-0 : Float) = numberAt true 0 := by
  have zero : (0 : Float) = numberAt false 0 := rfl
  rw [zero, neg_numberAt (Nat.zero_le _)]
  rfl

/-- A number whose sign is set and that is not less than zero is negative zero. -/
theorem eq_negativeZero (number : x.isNaN = false) (sign : isNegative x = true)
    (notLess : ¬ x < 0) : x = -0 := by
  have first : place x = 0 := by
    by_contra other
    exact notLess ((lt_zero_iff number).mpr ⟨sign, other⟩)
  rw [negativeZero_eq, ← numberAt_place number, sign, first]

/-- Something stands in the text of a floating-point number. -/
theorem floatText_ne_nil (number : x.isNaN = false) : (floatText x).toList ≠ [] := by
  intro empty
  have read : readFloat (floatText x).toList = some x := readFloat_write rfl number
  rw [empty] at read
  cases read

/-- A sign and something behind it are read as a number. -/
theorem readImaginary_marked {mark : Char} {chars : List Char} (nonempty : chars ≠ []) :
    readImaginary (mark :: chars) = readFloat (mark :: chars) := by
  obtain ⟨first, more, rfl⟩ := List.exists_cons_of_ne_nil nonempty
  simp [readImaginary]

/-- The text of a number and a number without a sign are read as the parts of a complex number. -/
theorem readComplex_of_parts {y : Float} {mark : Char} {text : String} (number : re.isNaN = false)
    (number' : y.isNaN = false) (sign : mark = '+' ∨ mark = '-')
    (spelled : text.toList =
      spaced (floatText re).toList mark (canonicalLayout.magnitudeText y))
    (read : readFloat (mark :: canonicalLayout.magnitudeText y) = some im) :
    readComplex text = some (re, im) := by
  have nonempty := floatText_ne_nil number
  have solid := fun c => mem_signedChars_of_floatText number (c := c)
  have marks : ∀ c ∈ canonicalLayout.magnitudeText y, c ∈ numeralChars :=
    fun _ => mem_numeralChars_of_magnitudeText rfl number'
  have visible : Text.isBlank mark = false := by
    rcases sign with rfl | rfl
    · exact isBlank_visible '+' (by simp)
    · exact isBlank_visible '-' (by simp [signedChars])
  have start := imaginaryStart?_marked sign nonempty
    (fun c mem => noExponent_signedChars c (solid c mem))
    fun c mem => unsigned_numeralChars c (marks c mem)
  rw [readComplex_spaced nonempty solid (fun c mem => List.mem_cons_of_mem _ (marks c mem)) visible
    spelled start, List.take_left, List.drop_left, floatText, readFloat_write rfl number,
    readImaginary_marked (magnitudeText_ne_nil rfl number'), read]
  rfl

/-- **The text of a complex number is read as that number**, unless the imaginary part is negative
zero. -/
theorem readComplex_complexText (number : re.isNaN = false) (number' : im.isNaN = false)
    (other : im ≠ -0) : readComplex (complexText re im) = some (re, im) := by
  have same := numberAt_place number'
  rw [complexText]
  by_cases less : im < 0
  · -- The sign stands between the parts, and the magnitude is written without one.
    have sign := ((lt_zero_iff number').mp less).1
    have number'' := isNaN_neg number'
    have written : (floatText (-im)).toList = canonicalLayout.magnitudeText (-im) := by
      rw [floatText, canonicalLayout.toList_write number'', isNegative_neg number', sign]
      rfl
    rw [sign] at same
    rw [if_pos less]
    refine readComplex_of_parts number number'' (.inr rfl) (by simp [spaced, written]) ?_
    rw [readFloat_minus rfl number'', place_neg number', same]
  · have sign : isNegative im = false := by
      by_contra set
      exact other (eq_negativeZero number' (by simpa using set) less)
    have written : (floatText im).toList = canonicalLayout.magnitudeText im := by
      rw [floatText, canonicalLayout.toList_write number', sign]
      rfl
    rw [sign] at same
    rw [if_neg less]
    refine readComplex_of_parts number number' (.inl rfl) (by simp [spaced, written]) ?_
    rw [readFloat_plus rfl number', same]

/-- **Negative zero as an imaginary part is not read back**: its own sign follows the plus sign
between the parts, and the text is split between the two. -/
theorem readComplex_negativeZero (number : re.isNaN = false) :
    readComplex (complexText re (-0)) = none := by
  have number' : (-0 : Float).isNaN = false := negativeZero_eq ▸ isNaN_zeroAt true
  have sign : isNegative (-0) = true := by
    rw [negativeZero_eq, isNegative_numberAt (Nat.zero_le _)]
  have notLess : ¬ (-0 : Float) < 0 := by
    rw [lt_zero_iff number', negativeZero_eq, place_numberAt (Nat.zero_le _)]
    exact fun less => less.2 rfl
  have written : (floatText (-0)).toList = '-' :: canonicalLayout.magnitudeText (-0) := by
    rw [floatText, canonicalLayout.toList_write number', sign]
    rfl
  have nonempty := floatText_ne_nil number
  have solid := fun c => mem_signedChars_of_floatText number (c := c)
  have marks : ∀ c ∈ canonicalLayout.magnitudeText (-0), c ∈ numeralChars :=
    fun _ => mem_numeralChars_of_magnitudeText rfl number'
  have spelled : (complexText re (-0)).toList = spaced (floatText re).toList '+'
      ('-' :: canonicalLayout.magnitudeText (-0)) := by
    rw [complexText, if_neg notLess]
    simp [spaced, written]
  -- Two signs stand between the parts, and the text is split before the second one.
  have body : (floatText re).toList ++ '+' :: '-' :: canonicalLayout.magnitudeText (-0) =
      ((floatText re).toList ++ ['+']) ++ '-' :: canonicalLayout.magnitudeText (-0) := by simp
  have noExponent : ∀ c ∈ (floatText re).toList ++ ['+'], c ≠ 'e' ∧ c ≠ 'E' := by
    intro c mem
    rcases List.mem_append.mp mem with mem | mem
    · exact noExponent_signedChars c (solid c mem)
    · rw [List.mem_singleton.mp mem]
      decide
  have start := @imaginaryStart?_marked _ _ '-' (.inr rfl) (by simp) noExponent
    fun c mem => unsigned_numeralChars c (marks c mem)
  rw [← body] at start
  have solid' : ∀ c ∈ '-' :: canonicalLayout.magnitudeText (-0), c ∈ signedChars :=
    List.forall_mem_cons.mpr
      ⟨List.mem_cons_self, fun c mem => List.mem_cons_of_mem _ (marks c mem)⟩
  rw [readComplex_spaced nonempty solid solid' (isBlank_visible '+' (by simp)) spelled start, body,
    List.take_left, floatText, readFloat_write_plus rfl number]
  rfl

/-! ## Casts -/

namespace Value

/-- An integer, a truth value, or a floating-point or complex number without a part that is no
number. -/
def IsSpelled : Value → Prop
  | .int _ => True
  | .boolean _ => True
  | .float x => x.isNaN = false
  | .complex re im => re.isNaN = false ∧ im.isNaN = false
  | _ => False

/-- An outcome that is made a value leaves the store as it is. -/
theorem run_lifted {α : Type} (outcome : Except Fault α) (make : α → Value) (store : Store) :
    (do return make (← outcome) : Alloc Value).run store =
      outcome.map fun result => (make result, store) := by
  cases outcome <;> rfl

/-- A text is cast to an integer as it is read. -/
theorem run_cast_int (text : String) (store : Store) :
    (cast .int (.text text)).run store =
      (castInt (.text text)).map fun n => (.int n, store) := run_lifted _ _ store

/-- A text is cast to a floating-point number as it is read. -/
theorem run_cast_float (text : String) (store : Store) :
    (cast .float (.text text)).run store =
      (castFloat (.text text)).map fun x => (.float x, store) := run_lifted _ _ store

/-- A text is cast to a complex number as it is read. -/
theorem run_cast_complex (text : String) (store : Store) :
    (cast .complex (.text text)).run store =
      (castComplex (.text text)).map fun parts => (.complex parts.1 parts.2, store) :=
  run_lifted (castComplex (.text text)) (fun parts => .complex parts.1 parts.2) store

/-- **Scalars are cast to texts and back.** An integer, a truth value and a number without a part
that is no number have a text, and the text cast to the type of the value is the value again, with
its signs, infinite parts and zeros. Only a complex number whose imaginary part is negative zero is
refused. -/
theorem text_cast_back (store : Store) {value : Value} (spelled : value.IsSpelled) :
    ∃ text, (cast .text value).run store = .ok (.text text, store) ∧
      ((∀ re, value ≠ .complex re (-0)) →
        (cast (value.typeIn store) (.text text)).run store = .ok (value, store)) ∧
      ∀ re, value = .complex re (-0) → ∃ fault, fault.kind = .invalidCast ∧
        (cast (value.typeIn store) (.text text)).run store = .error (.fault fault) := by
  cases value with
  | int n =>
    refine ⟨intText n, rfl, fun _ => ?_, by simp⟩
    rw [typeIn, run_cast_int, castInt_intText]
    rfl
  | boolean b =>
    refine ⟨booleanText b, rfl, fun _ => ?_, by simp⟩
    change Except.ok (Value.boolean (textTruth (booleanText b)), store) = _
    rw [textTruth_booleanText]
  | float x =>
    refine ⟨floatText x, rfl, fun _ => ?_, by simp⟩
    rw [typeIn, run_cast_float, castFloat_floatText spelled]
    rfl
  | complex re im =>
    obtain ⟨number, number'⟩ := spelled
    refine ⟨complexText re im, rfl, fun other => ?_, ?_⟩
    · have read := readComplex_complexText number number' fun same => other re (by rw [same])
      rw [typeIn, run_cast_complex, castComplex, read]
      rfl
    · rintro re ⟨⟩
      refine ⟨(Cause.invalidLiteral "complex" (complexText re (-0))).fault, rfl, ?_⟩
      rw [typeIn, run_cast_complex, castComplex, readComplex_negativeZero number]
      rfl
  | _ => cases spelled

/-- A complex number with a negative imaginary part is cast to a text and back. -/
theorem negative_imaginary_cast_back :
    ∃ text, (cast .text (.complex 1.5 (-0.25))).run .empty = .ok (.text text, .empty) ∧
      (cast .complex (.text text)).run .empty = .ok (.complex 1.5 (-0.25), .empty) := by
  obtain ⟨text, written, read, -⟩ := @text_cast_back .empty (.complex 1.5 (-0.25))
    ⟨by decide, by decide⟩
  refine ⟨text, written, read ?_⟩
  intro re same
  have parts := congrArg Float.toBits (Value.complex.inj same).2
  exact absurd parts (by decide)

/-- **A complex number with negative zero as its imaginary part is not cast back.** -/
theorem negativeZero_not_cast_back :
    (cast .text (.complex 1 (-0))).run .empty = .ok (.text "1.0 + -0.0j", .empty) ∧
      (cast .complex (.text "1.0 + -0.0j")).run .empty =
        .error (.fault (Cause.invalidLiteral "complex" "1.0 + -0.0j").fault) := by
  have text : complexText 1 (-0) = "1.0 + -0.0j" := by decide
  have number : (1 : Float).isNaN = false := by decide
  constructor
  · change Except.ok (Value.text (complexText 1 (-0)), Store.empty) = _
    rw [text]
  · have read := readComplex_negativeZero number
    rw [text] at read
    rw [run_cast_complex, castComplex, read]
    rfl

end Value

end ReactiveScript
