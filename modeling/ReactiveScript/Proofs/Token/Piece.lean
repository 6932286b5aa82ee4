import ReactiveScript.Proofs.Token.Spelling

/-! # One written word is read as one piece

The lexer looks ahead: a number goes on through a point or an exponent, a name through every letter,
a symbol through an equals sign. A gap stops all of them. So each word, with nothing or a gap behind
it, is read as one piece that takes exactly the characters it is written with
(`Word.Valid.readsAs`). -/

namespace ReactiveScript

open Lexer

/-! ## What stops a run of characters -/

/-- The characters behind a run do not go on with it. -/
def Stops (p : Char → Bool) (follow : List Char) : Prop := ∀ c ∈ follow.head?, p c = false

variable {p q : Char → Bool} {run follow : List Char}

/-- A run is taken as a whole, and nothing behind it. -/
theorem takeWhile_run (all : run.all p = true) (stops : Stops p follow) :
    (run ++ follow).takeWhile p = run := by
  rw [List.takeWhile_append_of_pos (List.all_eq_true.mp all)]
  cases follow with
  | nil => simp
  | cons c rest =>
    have stop : ¬ p c = true := by simp [stops c rfl]
    rw [List.takeWhile_cons_of_neg stop, List.append_nil]

/-- What stops a wider class stops a narrower one. -/
theorem Stops.mono (stops : Stops q follow) (h : ∀ c, p c = true → q c = true) :
    Stops p follow := by
  intro c head
  have stop := stops c head
  cases found : p c with
  | false => rfl
  | true => rw [h c found] at stop; exact stop

/-- A character that is not of the class stops it. -/
theorem stops_cons {c : Char} (h : p c = false) : Stops p (c :: follow) := by
  intro d head
  obtain rfl : c = d := by simpa using head
  exact h

/-- The characters with which a gap starts. -/
def gapStarts : List Char := [' ', '\r', '\t', '\n', '#', '/']

/-- Nothing, or what starts with a gap. -/
def Closed (follow : List Char) : Prop := ∀ c ∈ follow.head?, c ∈ gapStarts

/-- A gap stops every class that no gap starts with. -/
theorem Closed.stops (closed : Closed follow) (h : gapStarts.any p = false) : Stops p follow := by
  intro c head
  have none := List.any_eq_false.mp h c (closed c head)
  exact eq_false_of_ne_true none

/-- No other character stands where a gap does. -/
theorem Closed.head_ne (closed : Closed follow) {c : Char} (h : c ∉ gapStarts) :
    follow.head? ≠ some c := fun head => h (closed c head)

/-! ## Numbers -/

/-- The characters with which a number may go on. -/
def isNumeric (c : Char) : Bool := c.isDigit || c = '.' || c = 'e' || c = 'E'

/-- No digit is another character of a number. -/
theorem isNumeric_of_isDigit {c : Char} (h : c.isDigit = true) : isNumeric c = true := by
  simp [isNumeric, h]

/-- A fraction is read, unless more of it follows. -/
theorem fractionPart_append {fraction : List Char} (h : IsFraction fraction)
    (stops : Stops (fun c => c.isDigit || c = '.') follow) :
    fractionPart (fraction ++ follow) = fraction := by
  rcases h with rfl | ⟨digits, ⟨some, all⟩, rfl⟩
  · cases follow with
    | nil => rfl
    | cons c rest =>
      have stop := stops c rfl
      unfold fractionPart
      split
      · simp_all
      · rfl
  · have taken := takeWhile_run all (stops.mono fun c digit => by simp [digit])
    simp only [List.cons_append, fractionPart, taken]
    simp [some]

/-- An exponent is read, unless more of it follows. -/
theorem exponentPart_append {exponent : List Char} (h : IsExponent exponent)
    (stops : Stops isNumeric follow) : exponentPart (exponent ++ follow) = exponent := by
  rcases h with rfl | ⟨mark, marks, sign, signs, digits, ⟨some, all⟩, rfl⟩
  · cases follow with
    | nil => rfl
    | cons c rest =>
      have stop := stops c rfl
      have unmarked : ¬(c = 'e' ∨ c = 'E') := by
        rintro (rfl | rfl) <;> exact absurd stop (by decide)
      simp only [List.nil_append, exponentPart, if_neg unmarked]
  · have taken := takeWhile_run all (stops.mono fun c => isNumeric_of_isDigit)
    have marked : mark = 'e' ∨ mark = 'E' := by simpa using marks
    -- The digits start with a digit, so no digit is taken for a sign.
    have signed : ((sign ++ (digits ++ follow)).take 1).filter (fun c => c = '+' || c = '-') =
        sign := by
      obtain ⟨first, more, rfl⟩ := List.exists_cons_of_ne_nil some
      have digit := List.all_eq_true.mp all first List.mem_cons_self
      simp only [List.mem_cons, List.not_mem_nil, or_false] at signs
      rcases signs with rfl | rfl | rfl
      · have plus : first ≠ '+' := by rintro rfl; exact absurd digit (by decide)
        have minus : first ≠ '-' := by rintro rfl; exact absurd digit (by decide)
        simp [plus, minus]
      · simp
      · simp
    simp only [List.cons_append, exponentPart, if_pos marked, List.append_assoc, signed,
      List.drop_left, taken]
    simp [some]

/-- A numeral is read up to its end, unless more of it follows. -/
theorem numberText_append {chars : List Char} (h : IsNumeral chars)
    (stops : Stops isNumeric follow) : numberText (chars ++ follow) = chars := by
  obtain ⟨whole, fraction, exponent, ⟨_, digits⟩, isFraction, isExponent, rfl⟩ := h
  -- Each part stops the part before it: no mark of an exponent is a digit, and neither is a point.
  have behind : Stops (fun c => c.isDigit || c = '.') (exponent ++ follow) := by
    rcases isExponent with rfl | ⟨mark, marks, _, _, _, _, rfl⟩
    · exact stops.mono fun c h => by simp only [isNumeric, h, Bool.true_or]
    · have marked : mark = 'e' ∨ mark = 'E' := by simpa using marks
      rcases marked with rfl | rfl <;> exact stops_cons rfl
  have start : Stops Char.isDigit (fraction ++ (exponent ++ follow)) := by
    rcases isFraction with rfl | ⟨_, _, rfl⟩
    · exact behind.mono fun c digit => by simp [digit]
    · exact stops_cons rfl
  have taken := takeWhile_run digits start
  simp only [numberText, List.append_assoc, taken, List.drop_left, ← List.drop_drop,
    fractionPart_append isFraction behind, exponentPart_append isExponent stops]

variable {first : Char} {more : List Char}

/-- **A number.** With a gap behind it, it is read as such. -/
theorem numberPiece_number (h : IsNumeral (first :: more)) (closed : Closed follow) :
    numberPiece first (more ++ follow) =
      .ok (.token .number (String.ofList (first :: more)) more.length) := by
  have text := numberText_append h (closed.stops (p := isNumeric) (by decide))
  rw [List.cons_append] at text
  simp only [numberPiece, text, List.length_cons, List.drop_succ_cons, List.drop_left]
  -- Behind the numeral stands neither its imaginary mark nor the start of a name.
  cases follow with
  | nil => rfl
  | cons c rest =>
    have start := closed.stops (p := startsName) (by decide) c rfl
    have mark : c ≠ 'j' := by rintro rfl; exact absurd start (by decide)
    simp [mark, start]

/-- **An imaginary number.** Its mark stands behind its digits. -/
theorem numberPiece_imaginary (h : IsNumeral (first :: more)) (closed : Closed follow) :
    numberPiece first (more ++ 'j' :: follow) =
      .ok (.token .imaginary (String.ofList (first :: more)) (more.length + 1)) := by
  have mark : Stops isNumeric ('j' :: follow) := stops_cons rfl
  have text := numberText_append h mark
  rw [List.cons_append] at text
  simp only [numberPiece, text, List.length_cons, List.drop_succ_cons, List.drop_left]
  cases follow with
  | nil => rfl
  | cons c rest =>
    have start := closed.stops (p := startsName) (by decide) c rfl
    simp [start]

/-- A numeral starts with a digit. -/
theorem IsNumeral.exists_cons {chars : List Char} (h : IsNumeral chars) :
    ∃ first more, chars = first :: more ∧ first.isDigit = true := by
  obtain ⟨whole, fraction, exponent, ⟨some, digits⟩, _, _, rfl⟩ := h
  obtain ⟨first, more, rfl⟩ := List.exists_cons_of_ne_nil some
  have digit := List.all_eq_true.mp digits first List.mem_cons_self
  exact ⟨first, more ++ fraction ++ exponent, by simp, digit⟩

/-! ## Names and keywords -/

/-- **A name or keyword.** With a gap behind it, it is read as a whole. -/
theorem namePiece_append (all : more.all continuesName = true) (closed : Closed follow) :
    namePiece first (more ++ follow) =
      .token (if isKeyword (String.ofList (first :: more)) then .keyword else .identifier)
        (String.ofList (first :: more)) more.length := by
  have taken := takeWhile_run all (closed.stops (by decide))
  simp only [namePiece, taken]

/-- Every keyword is written as a name is. -/
theorem isName_of_isKeyword {name : String} (h : isKeyword name = true) : IsName name.toList := by
  have named : ∀ word ∈ typeKeywords ++ plainKeywords,
      (word.toList.head?.any startsName && word.toList.tail.all continuesName) = true := by decide
  have mem : name ∈ typeKeywords ++ plainKeywords := by
    simpa [isKeyword, isTypeKeyword] using h
  have spelled := named name mem
  cases chars : name.toList with
  | nil => simp [chars] at spelled
  | cons first more =>
    rw [chars] at spelled
    simp only [List.head?_cons, Option.any_some, List.tail_cons, Bool.and_eq_true] at spelled
    exact ⟨first, more, spelled.1, spelled.2, rfl⟩

/-! ## Symbols -/

/-- A symbol has a first character. -/
theorem exists_cons_of_mem_symbols {chars : List Char} (h : chars ∈ symbols) :
    ∃ first more, chars = first :: more := by
  apply List.exists_cons_of_ne_nil
  rintro rfl
  exact absurd h (by decide)

/-- **A symbol.** With a gap behind it, it is read as a whole and not as the start of a longer
one. -/
theorem symbolPiece_append (h : first :: more ∈ symbols) (closed : Closed follow) :
    symbolPiece first (more ++ follow) =
      some (.token .symbol (String.ofList (first :: more)) more.length) := by
  have noPoint : follow.head? ≠ some '.' := closed.head_ne (by decide)
  have noAngle : follow.head? ≠ some '>' := closed.head_ne (by decide)
  have noEquals : follow.head? ≠ some '=' := closed.head_ne (by decide)
  simp only [symbols, List.mem_append, List.mem_map, or_assoc] at h
  rcases h with special | ⟨c, plain, same⟩ | ⟨c, assign, same⟩ | ⟨c, assign, same⟩
  · simp only [List.mem_cons, List.cons.injEq, List.not_mem_nil, or_false] at special
    rcases special with ⟨rfl, rfl⟩ | ⟨rfl, rfl⟩ | ⟨rfl, rfl⟩ | ⟨rfl, rfl⟩
    · cases follow <;> simp_all [symbolPiece]
    · cases follow <;> simp_all [symbolPiece]
    · rfl
    · rfl
  · obtain ⟨rfl, rfl⟩ : c = first ∧ [] = more := by simpa using same
    have point : c ≠ '.' := by rintro rfl; exact absurd plain (by decide)
    have minus : c ≠ '-' := by rintro rfl; exact absurd plain (by decide)
    have others : assignSymbols.any plainSymbols.contains = false := by decide
    have unassigned : c ∉ assignSymbols := by
      intro assign
      exact List.any_eq_false.mp others c assign (List.contains_iff_mem.mpr plain)
    simp [symbolPiece, point, minus, unassigned, plain]
  · obtain ⟨rfl, rfl⟩ : c = first ∧ [] = more := by simpa using same
    have point : c ≠ '.' := by rintro rfl; exact absurd assign (by decide)
    simp [symbolPiece, point, assign, noAngle, noEquals]
  · obtain ⟨rfl, rfl⟩ : c = first ∧ ['='] = more := by simpa using same
    have point : c ≠ '.' := by rintro rfl; exact absurd assign (by decide)
    simp [symbolPiece, point, assign]

/-- No symbol with a gap behind it opens a comment. -/
theorem head_ne_star (h : first :: more ∈ symbols) (closed : Closed follow) :
    (more ++ follow).head? ≠ some '*' := by
  cases more with
  | nil => exact closed.head_ne (by decide)
  | cons second rest =>
    have seconds : ∀ chars ∈ symbols, chars[1]? ≠ some '*' := by decide
    exact seconds _ h

/-- What is read as a symbol is one of the symbols. -/
theorem symbolPiece_mem_symbols {rest : List Char} {found : Piece}
    (h : symbolPiece first rest = some found) :
    ∃ more ∈ [[], ['.'], ['.', '.'], ['>'], ['=']], first :: more ∈ symbols ∧
      found = .token .symbol (String.ofList (first :: more)) more.length := by
  unfold symbolPiece at h
  simp only at h
  split at h
  · rename_i point
    subst point
    split at h <;> exact ⟨_, by decide, by decide, (Option.some.inj h).symm⟩
  split at h
  · rename_i arrow
    obtain ⟨rfl, -⟩ := arrow
    exact ⟨_, by decide, by decide, (Option.some.inj h).symm⟩
  split at h
  · rename_i assign
    refine ⟨_, ?_, ?_, (Option.some.inj h).symm⟩
    · split <;> decide
    · have mem : first ∈ assignSymbols := by simpa using assign
      split <;> simp [symbols, mem]
  split at h
  · rename_i plain
    have mem : first ∈ plainSymbols := by simpa using plain
    exact ⟨[], by decide, by simp [symbols, mem], (Option.some.inj h).symm⟩
  · cases h

/-! ## Texts and paths -/

/-- An escape stands for the character itself where a text is written. -/
theorem unescape_quote {quote c : Char} (h : quote ∈ ['"', '\'']) (special : c = '\\' ∨ c = quote) :
    unescape c = some c := by
  rcases special with rfl | rfl
  · rfl
  · have quotes : c = '"' ∨ c = '\'' := by simpa using h
    rcases quotes with rfl | rfl <;> rfl

/-- The quote closes a text. -/
theorem quotedText_close (quote : Char) (taken : Nat) :
    quotedText quote taken (quote :: follow) = .ok ([], taken + 1) := by
  rw [quotedText.eq_def]
  simp

/-- A character that is neither the quote nor a backslash stands for itself. -/
theorem quotedText_plain {quote c : Char} (special : ¬(c = '\\' ∨ c = quote)) (taken : Nat) :
    quotedText quote taken (c :: follow) =
      (quotedText quote (taken + 1) follow).map fun (content, total) => (c :: content, total) := by
  rw [not_or] at special
  rw [quotedText.eq_def]
  simp only [if_neg special.2, if_neg special.1]
  cases quotedText quote (taken + 1) follow <;> rfl

/-- A backslash and a character that may be escaped stand for what is meant. -/
theorem quotedText_escaped {quote c meant : Char} (backslash : '\\' ≠ quote)
    (escaped : unescape c = some meant) (taken : Nat) :
    quotedText quote taken ('\\' :: c :: follow) =
      (quotedText quote (taken + 2) follow).map fun (content, total) =>
        (meant :: content, total) := by
  rw [quotedText.eq_def]
  simp only [if_neg backslash, if_true, escaped]
  cases quotedText quote (taken + 2) follow <;> rfl

/-- **A text.** What is escaped for a quote is read back up to that quote, whatever stands behind
it. -/
theorem quotedText_escape {quote : Char} (h : quote ∈ ['"', '\'']) (content : List Char)
    (taken : Nat) :
    quotedText quote taken (escape quote content ++ quote :: follow) =
      .ok (content, taken + (escape quote content).length + 1) := by
  induction content generalizing taken with
  | nil => exact quotedText_close quote taken
  | cons c rest ih =>
    -- Everything else, ends of lines included, stands for itself.
    by_cases special : c = '\\' ∨ c = quote
    · have written : escape quote (c :: rest) = '\\' :: c :: escape quote rest := by
        simp [escape, special]
      have backslash : '\\' ≠ quote := by rintro rfl; exact absurd h (by decide)
      rw [written, List.cons_append, List.cons_append,
        quotedText_escaped backslash (unescape_quote h special), ih]
      simp only [Except.map, List.length_cons]
      congr 2
      omega
    · have written : escape quote (c :: rest) = c :: escape quote rest := by
        simp [escape, special]
      rw [written, List.cons_append, quotedText_plain special, ih]
      simp only [Except.map, List.length_cons]
      congr 2
      omega

/-- **A path.** It is read up to its closing bracket, whatever stands behind it. -/
theorem pathText_append {path : List Char} (closing : '>' ∉ path) (newline : '\n' ∉ path)
    (follow : List Char) : pathText (path ++ '>' :: follow) = some path := by
  induction path with
  | nil => rfl
  | cons c rest ih =>
    rw [List.mem_cons, not_or] at closing newline
    rw [List.cons_append, pathText, if_neg (Ne.symm closing.1), if_neg (Ne.symm newline.1),
      ih closing.2 newline.2]
    rfl

/-! ## Words -/

/-- Some characters are read as one word: whatever gap stands behind them, they are one piece. -/
def ReadsAs (pathOpen : Bool) (chars : List Char) (word : Word) : Prop :=
  ∃ first more, chars = first :: more ∧ ∀ follow, Closed follow →
    piece pathOpen first (more ++ follow) = .ok (.token word.1 word.2 more.length)

variable {pathOpen : Bool} {rest : List Char}

/-- What is no gap, no comment, no path and no text is a number, a name or a symbol. -/
theorem piece_plain (gap : isGap first = false) (hash : first ≠ '#')
    (comment : ¬(first = '/' ∧ rest.head? = some '*')) (path : ¬(first = '<' ∧ pathOpen = true))
    (quotes : ¬(first = '"' ∨ first = '\'')) :
    piece pathOpen first rest = plainPiece first rest := by
  rw [piece, gap, if_neg Bool.false_ne_true, if_neg hash, if_neg comment, if_neg path,
    if_neg quotes]

/-- The characters that never start a number or a name. -/
def marks : List Char := [' ', '\r', '\t', '\n', '#', '/', '<', '"', '\'']

/-- A piece that starts with none of them is a number, a name or a symbol. -/
theorem piece_of_not_mem_marks (h : first ∉ marks) :
    piece pathOpen first rest = plainPiece first rest := by
  simp only [marks, List.mem_cons, List.not_mem_nil, or_false, not_or] at h
  obtain ⟨space, back, tab, newline, hash, slash, angle, double, single⟩ := h
  refine piece_plain ?_ hash (fun h => slash h.1) (fun h => angle h.1) ?_
  · simp [isGap, space, back, tab, newline]
  · exact not_or.mpr ⟨double, single⟩

/-- A class that holds no mark starts with none. -/
theorem not_mem_marks (h : marks.any p = false) (start : p first = true) : first ∉ marks := by
  intro mark
  exact List.any_eq_false.mp h first mark start

/-- A digit starts a number. -/
theorem piece_digit (h : first.isDigit = true) :
    piece pathOpen first rest = numberPiece first rest := by
  have other : first ∉ marks := not_mem_marks (by decide) h
  rw [piece_of_not_mem_marks other, plainPiece, if_pos h]

/-- No digit starts a name. -/
theorem not_isDigit_of_startsName (h : startsName first = true) : ¬ first.isDigit = true := by
  intro digit
  rw [Char.isDigit_iff_toNat] at digit
  obtain ⟨low, high⟩ : 48 ≤ first.toNat ∧ first.toNat ≤ 57 := digit
  have letter : first.isAlpha = true ∨ first = '_' := by
    simpa [startsName, Text.isAlphabetic_of_lt (show first.toNat < 0x80 by omega)] using h
  rcases letter with letter | rfl
  · change (decide (65 ≤ first.val ∧ first.val ≤ 90) ||
      (decide (97 ≤ first.val) && decide (first.val ≤ 122))) = true at letter
    simp only [Bool.or_eq_true, Bool.and_eq_true, decide_eq_true_eq,
      UInt32.le_iff_toNat_le] at letter
    change (65 ≤ first.toNat ∧ first.toNat ≤ 90) ∨ (97 ≤ first.toNat ∧ first.toNat ≤ 122) at letter
    omega
  · exact absurd high (by decide)

/-- A letter starts a name. -/
theorem piece_name (h : startsName first = true) :
    piece pathOpen first rest = .ok (namePiece first rest) := by
  have other : first ∉ marks := not_mem_marks (by decide) h
  rw [piece_of_not_mem_marks other, plainPiece, if_neg (not_isDigit_of_startsName h), if_pos h]

/-- A character of a symbol starts one, unless it opens a comment or a path. -/
theorem piece_symbol {found : Piece} (mem : first :: more ∈ symbols)
    (comment : ¬(first = '/' ∧ rest.head? = some '*')) (path : ¬(first = '<' ∧ pathOpen = true))
    (h : symbolPiece first rest = some found) : piece pathOpen first rest = .ok found := by
  have starts : symbols.all (fun chars => chars.head?.all fun c =>
      !isGap c && c != '#' && c != '"' && c != '\'' && !c.isDigit && !startsName c) = true := by
    decide
  have start := List.all_eq_true.mp starts _ mem
  simp only [List.head?_cons, Option.all_some, Bool.and_eq_true, Bool.not_eq_true', bne_iff_ne,
    and_assoc] at start
  obtain ⟨gap, hash, double, single, noDigit, noName⟩ := start
  rw [piece_plain gap hash comment path (not_or.mpr ⟨double, single⟩), plainPiece, noDigit, noName]
  simp [h]

/-- A quote starts a text. -/
theorem piece_quote {quote : Char} (h : quote ∈ ['"', '\'']) :
    piece pathOpen quote rest =
      (quotedText quote 0 rest).map fun (content, total) =>
        .token .text (String.ofList content) total := by
  simp only [List.mem_cons, List.not_mem_nil, or_false] at h
  rcases h with rfl | rfl <;> rfl

/-- An angle bracket starts a path where one may stand. -/
theorem piece_path {path : List Char} (h : pathText rest = some path) :
    piece true '<' rest =
      .ok (.token .path (String.ofList (Text.trim path)) (path.length + 1)) := by
  rw [piece, if_neg (by decide), if_neg (by decide), if_neg (fun h => absurd h.1 (by decide)),
    if_pos ⟨rfl, rfl⟩, h]

/-- **Every word is read as it is written.** -/
theorem Word.Valid.readsAs {word : Word} {quote : Char} (h : word.Valid pathOpen)
    (quotes : quote ∈ ['"', '\'']) : ReadsAs pathOpen (word.source quote) word := by
  obtain ⟨kind, lexeme⟩ := word
  have text {chars : List Char} (h : lexeme.toList = chars) : String.ofList chars = lexeme := by
    rw [← h, String.ofList_toList]
  cases kind with
  | number =>
    have numeral : IsNumeral lexeme.toList := h
    obtain ⟨first, more, chars, digit⟩ := numeral.exists_cons
    rw [chars] at numeral
    refine ⟨first, more, chars, fun follow closed => ?_⟩
    rw [piece_digit digit, numberPiece_number numeral closed, text chars]
  | imaginary =>
    have numeral : IsNumeral lexeme.toList := h
    obtain ⟨first, more, chars, digit⟩ := numeral.exists_cons
    rw [chars] at numeral
    refine ⟨first, more ++ ['j'], by simp [Word.source, chars], fun follow closed => ?_⟩
    rw [piece_digit digit, List.append_assoc, List.singleton_append,
      numberPiece_imaginary numeral closed, text chars, List.length_append]
    rfl
  | text =>
    refine ⟨quote, escape quote lexeme.toList ++ [quote], rfl, fun follow closed => ?_⟩
    rw [List.append_assoc, List.singleton_append, piece_quote quotes, quotedText_escape quotes]
    simp [Except.map]
  | identifier =>
    obtain ⟨⟨first, more, start, all, chars⟩, other⟩ := h
    refine ⟨first, more, chars, fun follow closed => ?_⟩
    rw [piece_name start, namePiece_append all closed, text chars, other]
    rfl
  | keyword =>
    have reserved : isKeyword lexeme = true := h
    obtain ⟨first, more, start, all, chars⟩ := isName_of_isKeyword reserved
    refine ⟨first, more, chars, fun follow closed => ?_⟩
    rw [piece_name start, namePiece_append all closed, text chars, reserved]
    rfl
  | symbol =>
    obtain ⟨mem, path⟩ := h
    obtain ⟨first, more, chars⟩ := exists_cons_of_mem_symbols mem
    rw [chars] at mem path
    refine ⟨first, more, chars, fun follow closed => ?_⟩
    have whole := symbolPiece_append mem closed
    rw [text chars] at whole
    have noComment : ¬(first = '/' ∧ (more ++ follow).head? = some '*') :=
      fun h => head_ne_star mem closed h.2
    have noPath : ¬(first = '<' ∧ pathOpen = true) := by
      rintro ⟨rfl, isOpen⟩
      exact path ⟨isOpen, rfl⟩
    exact piece_symbol mem noComment noPath whole
  | path =>
    obtain ⟨rfl, trimmed, closing, newline⟩ := h
    refine ⟨'<', lexeme.toList ++ ['>'], rfl, fun follow closed => ?_⟩
    have whole := pathText_append closing newline follow
    rw [List.append_assoc, List.singleton_append, piece_path whole, trimmed, String.ofList_toList,
      List.length_append]
    rfl
  | ending => exact h.elim

end ReactiveScript
