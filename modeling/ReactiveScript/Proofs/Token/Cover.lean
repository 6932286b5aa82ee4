import Mathlib.Data.List.Induction
import ReactiveScript.Proofs.Token.RoundTrip

/-! # The tokens cover the source

Where the lexer accepts a source, every character belongs to exactly one token or to a gap, and
every token says where it starts. `Covers` is that statement: from an offset on, the source is a
gap, a spelling of the first token, and so on, up to a gap at its end. What counts as a spelling
(`Word.Spelled`) and as a gap (`GapText`) is said without the lexer, and so is the line and column
of an offset (`spanAt`). The main statement is `ofSource_covers`. -/

namespace ReactiveScript

open Lexer

/-! ## Lines and columns -/

/-- The line and column behind some characters: one more than the line ends among them, and one more
than the characters since the last of these. -/
def spanBehind (before : List Char) : Span :=
  .at (1 + before.count '\n') (1 + (before.reverse.takeWhile (· ≠ '\n')).length)

/-- The line and column of an offset of a source. -/
def spanAt (chars : List Char) (offset : Nat) : Span := spanBehind (chars.take offset)

/-- Walking over characters from the start of a source leads to the line and column behind them. -/
theorem span_after_start (before : List Char) :
    (Place.start.after before).span = spanBehind before := by
  have counted : Place.start.after before =
      ⟨1 + before.count '\n', 1 + (before.reverse.takeWhile (· ≠ '\n')).length⟩ := by
    induction before using List.reverseRecOn with
    | nil => rfl
    | append_singleton before c ih =>
      rw [Place.after_append, ih, Place.after_cons, Place.after_nil, Place.next,
        List.reverse_append, List.reverse_singleton, List.singleton_append]
      by_cases newline : c = '\n'
      · simp [newline, Nat.add_assoc]
      · simp [newline, Nat.add_comm]
  rw [counted]
  rfl

/-! ## Spellings -/

/-- The characters that may stand behind a backslash, each with the character that is meant. -/
def escapes : List (Char × Char) :=
  [('n', '\n'), ('t', '\t'), ('r', '\r'), ('0', '\x00'), ('\\', '\\'), ('"', '"'), ('\'', '\'')]

/-- **What stands between two quotes**, and the content that it stands for. -/
inductive Quoted (quote : Char) : List Char → List Char → Prop
  /-- Nothing stands for nothing. -/
  | nil : Quoted quote [] []
  /-- A character that is neither the quote nor a backslash stands for itself. -/
  | plain {c : Char} {body content : List Char} (other : c ≠ quote) (bare : c ≠ '\\')
      (rest : Quoted quote body content) : Quoted quote (c :: body) (c :: content)
  /-- A backslash and a character that may stand behind it stand for what is meant. -/
  | escaped {c meant : Char} {body content : List Char} (escape : (c, meant) ∈ escapes)
      (rest : Quoted quote body content) : Quoted quote ('\\' :: c :: body) (meant :: content)

/-- **How a word may be spelled.** Numbers, names, keywords and symbols are spelled as they are, an
imaginary number with its mark, a text between quotes, and a path between angle brackets and with
blanks around it. -/
def Word.Spelled : Word → List Char → Prop
  | (.number, lexeme), chars => IsNumeral chars ∧ chars = lexeme.toList
  | (.imaginary, lexeme), chars => IsNumeral lexeme.toList ∧ chars = lexeme.toList ++ ['j']
  | (.identifier, lexeme), chars => IsName chars ∧ isKeyword lexeme = false ∧ chars = lexeme.toList
  | (.keyword, lexeme), chars => isKeyword lexeme = true ∧ chars = lexeme.toList
  | (.symbol, lexeme), chars => chars ∈ symbols ∧ chars = lexeme.toList
  | (.text, lexeme), chars => ∃ quote ∈ ['"', '\''], ∃ body,
    Quoted quote body lexeme.toList ∧ chars = quote :: (body ++ [quote])
  | (.path, lexeme), chars => ∃ body, '>' ∉ body ∧ '\n' ∉ body ∧
    lexeme.toList = Text.trim body ∧ chars = '<' :: (body ++ ['>'])
  | (.ending, _), _ => False

/-- A blank or a comment, with what stands `behind` it. -/
inductive GapPiece (behind : List Char) : List Char → Prop
  /-- One blank. -/
  | blank {c : Char} (blank : c ∈ [' ', '\r', '\t', '\n']) : GapPiece behind [c]
  /-- A comment up to the end of its line or of the source. -/
  | line {content : List Char} (inside : '\n' ∉ content)
      (complete : behind = [] ∨ behind.head? = some '\n') : GapPiece behind ('#' :: content)
  /-- A comment between marks, which holds no closing mark. -/
  | block {content : List Char} (inside : ¬ ['*', '/'] <:+: content) :
    GapPiece behind ('/' :: '*' :: (content ++ ['*', '/']))

/-- **Blanks and complete comments**, one behind the other, with what stands `behind` them. -/
inductive GapText (behind : List Char) : List Char → Prop
  /-- Nothing. -/
  | nil : GapText behind []
  /-- A blank or comment in front of others. -/
  | cons {piece rest : List Char} (first : GapPiece (rest ++ behind) piece)
      (others : GapText behind rest) : GapText behind (piece ++ rest)

/-! ## One piece -/

variable {first : Char} {chars rest : List Char}

/-- The lexer knows no other escapes. -/
theorem mem_escapes_of_unescape {c meant : Char} (h : unescape c = some meant) :
    (c, meant) ∈ escapes := by
  unfold unescape at h
  repeat' split at h
  all_goals cases h
  all_goals
    subst c
    decide

/-- Where a mapped outcome is a value, the outcome was one. -/
theorem exists_of_map_eq_ok {ε α β : Type} {outcome : Except ε α} {f : α → β} {result : β}
    (h : outcome.map f = .ok result) : ∃ value, outcome = .ok value ∧ f value = result := by
  cases outcome with
  | error fault => cases h
  | ok value => exact ⟨value, rfl, Except.ok.inj h⟩

/-- **A quoted text** is read up to its closing quote, and as what stands between. -/
theorem quotedText_sound {quote : Char} {taken total : Nat} {content : List Char}
    (h : quotedText quote taken chars = .ok (content, total)) :
    ∃ body behind, chars = body ++ quote :: behind ∧ Quoted quote body content ∧
      total = taken + body.length + 1 := by
  induction taken, chars using quotedText.induct quote generalizing content total with
  | case1 => cases h
  | case2 taken behind =>
    rw [quotedText_close] at h
    cases h
    exact ⟨[], behind, rfl, .nil, rfl⟩
  | case3 taken bare =>
    rw [quotedText.eq_def] at h
    simp [bare] at h
  | case4 taken c rest unknown bare =>
    rw [quotedText.eq_def] at h
    simp [bare, unknown] at h
  | case5 taken c rest meant known bare ih =>
    rw [quotedText_escaped bare known] at h
    obtain ⟨⟨inner, all⟩, read, same⟩ := exists_of_map_eq_ok h
    cases same
    obtain ⟨body, behind, rfl, quoted, rfl⟩ := ih read
    refine ⟨'\\' :: c :: body, behind, rfl, .escaped (mem_escapes_of_unescape known) quoted, ?_⟩
    simp only [List.length_cons]
    omega
  | case6 taken c rest other bare ih =>
    rw [quotedText_plain (by simp [other, bare])] at h
    obtain ⟨⟨inner, all⟩, read, same⟩ := exists_of_map_eq_ok h
    cases same
    obtain ⟨body, behind, rfl, quoted, rfl⟩ := ih read
    refine ⟨c :: body, behind, rfl, .plain other bare quoted, ?_⟩
    simp only [List.length_cons]
    omega

/-- A comment between marks ends at its first closing mark. -/
theorem blockComment_sound {length : Nat} (h : blockComment chars = some length) :
    ∃ content behind, chars = content ++ '*' :: '/' :: behind ∧ ¬ ['*', '/'] <:+: content ∧
      length = content.length + 2 := by
  fun_induction blockComment chars generalizing length with
  | case1 => cases h
  | case2 behind =>
    cases h
    exact ⟨[], behind, rfl, by simp, rfl⟩
  | case3 c rest open_ ih =>
    obtain ⟨inner, found, rfl⟩ := Option.map_eq_some_iff.mp h
    obtain ⟨content, behind, rfl, inside, rfl⟩ := ih found
    refine ⟨c :: content, behind, rfl, ?_, rfl⟩
    rintro here
    rcases List.infix_cons_iff.mp here with ⟨more, same⟩ | inner
    · -- A mark at the front of the comment would have closed it.
      obtain ⟨rfl, rfl⟩ : '*' = c ∧ '/' :: more = content := by simpa using same
      exact open_ _ rfl rfl
    · exact inside inner

/-- A path ends at the first closing bracket, on its line. -/
theorem pathText_sound {path : List Char} (h : pathText chars = some path) :
    ∃ behind, chars = path ++ '>' :: behind ∧ '>' ∉ path ∧ '\n' ∉ path := by
  fun_induction pathText chars generalizing path with
  | case1 => cases h
  | case2 behind =>
    cases h
    exact ⟨behind, rfl, by simp, by simp⟩
  | case3 => cases h
  | case4 c rest bracket newline ih =>
    obtain ⟨inner, found, rfl⟩ := Option.map_eq_some_iff.mp h
    obtain ⟨behind, rfl, noBracket, noNewline⟩ := ih found
    refine ⟨behind, rfl, ?_, ?_⟩
    · simp [noBracket, Ne.symm bracket]
    · simp [noNewline, Ne.symm newline]

/-- What is taken as a fraction is one. -/
theorem fractionPart_sound (chars : List Char) :
    IsFraction (fractionPart chars) ∧ fractionPart chars <+: chars := by
  unfold fractionPart
  split
  · rename_i rest
    split
    · exact ⟨.inl rfl, List.nil_prefix⟩
    · rename_i some
      refine ⟨.inr ⟨_, ⟨by simpa using some, List.all_takeWhile⟩, rfl⟩, ?_⟩
      exact (List.prefix_cons_inj _).mpr <| List.takeWhile_prefix _
  · exact ⟨.inl rfl, List.nil_prefix⟩

/-- What is taken as an exponent is one. -/
theorem exponentPart_sound (chars : List Char) :
    IsExponent (exponentPart chars) ∧ exponentPart chars <+: chars := by
  cases chars with
  | nil => exact ⟨.inl rfl, List.nil_prefix⟩
  | cons mark rest =>
    rw [exponentPart]
    split
    · rename_i marked
      -- At most one character is taken for a sign, and only at the front.
      have signed : ∃ sign ∈ [[], ['+'], ['-']], ∃ behind, rest = sign ++ behind ∧
          (rest.take 1).filter (fun c => c = '+' || c = '-') = sign := by
        cases rest with
        | nil => exact ⟨[], by simp, [], rfl, rfl⟩
        | cons c rest =>
          by_cases plus : c = '+'
          · exact ⟨['+'], by simp, rest, by simp [plus], by simp [plus]⟩
          · by_cases minus : c = '-'
            · exact ⟨['-'], by simp, rest, by simp [minus], by simp [minus]⟩
            · exact ⟨[], by simp, c :: rest, rfl, by simp [plus, minus]⟩
      obtain ⟨sign, mem, behind, rfl, taken⟩ := signed
      simp only [taken, List.drop_left]
      split
      · exact ⟨.inl rfl, List.nil_prefix⟩
      · rename_i some
        refine ⟨.inr ⟨mark, by simpa using marked, sign, mem, _,
          ⟨by simpa using some, List.all_takeWhile⟩, rfl⟩, ?_⟩
        rw [List.prefix_cons_inj, List.prefix_append_right_inj]
        exact List.takeWhile_prefix _
    · exact ⟨.inl rfl, List.nil_prefix⟩

/-- A start of a list goes on with a start of what stands behind it. -/
theorem prefix_append_of_drop {text more : List Char} (start : text <+: chars)
    (next : more <+: chars.drop text.length) : text ++ more <+: chars := by
  conv_rhs => rw [← List.prefix_iff_eq_append.mp start]
  exact (List.prefix_append_right_inj text).mpr next

/-- What is taken as a number is one. -/
theorem numberText_sound (digit : first.isDigit = true) (rest : List Char) :
    IsNumeral (numberText (first :: rest)) ∧ numberText (first :: rest) <+: first :: rest := by
  have whole : IsDigits ((first :: rest).takeWhile Char.isDigit) :=
    ⟨by simp [digit], List.all_takeWhile⟩
  have start : (first :: rest).takeWhile Char.isDigit <+: first :: rest :=
    List.takeWhile_prefix _
  simp only [numberText]
  generalize (first :: rest).takeWhile Char.isDigit = digits at whole start ⊢
  obtain ⟨isFraction, fraction⟩ := fractionPart_sound ((first :: rest).drop digits.length)
  generalize fractionPart ((first :: rest).drop digits.length) = fractional at isFraction fraction ⊢
  obtain ⟨isExponent, exponent⟩ :=
    exponentPart_sound ((first :: rest).drop (digits.length + fractional.length))
  refine ⟨⟨_, _, _, whole, isFraction, isExponent, rfl⟩, ?_⟩
  rw [← List.length_append] at exponent ⊢
  exact prefix_append_of_drop (prefix_append_of_drop start fraction) exponent

/-- Some characters that are one piece, with what stands `behind` them. -/
def Lexer.Piece.Matches (behind text : List Char) : Piece → Prop
  | .gap _ => GapPiece behind text
  | .token kind lexeme _ => Word.Spelled (kind, lexeme) text

/-- A piece takes some characters from the front of a source, and is what these characters are. -/
def Lexer.Piece.Taken (chars : List Char) (found : Piece) : Prop :=
  ∃ text behind, chars = text ++ behind ∧ text.length = found.extra + 1 ∧ found.Matches behind text

variable {found : Piece}

/-- **A number** is spelled as it is, an imaginary one with its mark. -/
theorem numberPiece_sound (digit : first.isDigit = true)
    (h : numberPiece first rest = .ok found) : found.Taken (first :: rest) := by
  obtain ⟨numeral, start⟩ := numberText_sound digit rest
  obtain ⟨c, more, nonempty, -⟩ := numeral.exists_cons
  unfold numberPiece at h
  extract_lets number follow candidate at h
  -- What is not refused for the name behind it is the candidate.
  have same : found = candidate.1 := by
    split at h
    · split at h
      · cases h
      · exact (Except.ok.inj h).symm
    · exact (Except.ok.inj h).symm
  have length : 0 < number.length := by simp [number, nonempty]
  have cut : first :: rest = number ++ follow := (List.prefix_iff_eq_append.mp start).symm
  rw [same, cut]
  simp only [candidate]
  generalize follow = behind
  split
  · rename_i rest
    exact ⟨number ++ ['j'], rest, by simp, by simp [Piece.extra], by simpa using numeral, by simp⟩
  · exact ⟨number, behind, rfl, by simp only [Piece.extra]; omega, numeral, by simp⟩

/-- **A name or keyword.** -/
theorem namePiece_sound (start : startsName first = true) (rest : List Char) :
    (namePiece first rest).Taken (first :: rest) := by
  have taken : rest.takeWhile continuesName <+: rest := List.takeWhile_prefix _
  obtain ⟨behind, split⟩ := taken
  refine ⟨first :: rest.takeWhile continuesName, behind, by rw [List.cons_append, split], rfl, ?_⟩
  have name : IsName (first :: rest.takeWhile continuesName) :=
    ⟨first, _, start, List.all_takeWhile, rfl⟩
  unfold namePiece
  simp only [Piece.Matches]
  split
  · rename_i keyword
    exact ⟨keyword, String.toList_ofList.symm⟩
  · rename_i plain
    exact ⟨name, by simpa using plain, String.toList_ofList.symm⟩

/-- What starts with a character is that character and what stands behind it. -/
theorem prefix_of_head? {c : Char} (h : rest.head? = some c) : [c] <+: rest := by
  cases rest with
  | nil => cases h
  | cons d more =>
    cases h
    exact ⟨more, rfl⟩

/-- The characters of a symbol stand at the front of the source. -/
theorem symbolPiece_prefix {more : List Char}
    (h : symbolPiece first rest =
      some (.token .symbol (String.ofList (first :: more)) more.length)) : more <+: rest := by
  have spelled {other : List Char} (start : other <+: rest) (same : some (Piece.token .symbol
      (String.ofList (first :: other)) other.length) =
        some (.token .symbol (String.ofList (first :: more)) more.length)) : more <+: rest := by
    have lexemes := (Piece.token.inj (Option.some.inj same)).2.1
    have chars := String.ofList_injective lexemes
    cases chars
    exact start
  unfold symbolPiece at h
  simp only at h
  split at h
  · split at h
    · exact spelled ⟨_, rfl⟩ h
    · exact spelled ⟨_, rfl⟩ h
    · exact spelled List.nil_prefix h
  split at h
  · rename_i arrow
    exact spelled (prefix_of_head? arrow.2) h
  split at h
  · refine spelled ?_ h
    split
    · rename_i equals
      exact prefix_of_head? equals
    · exact List.nil_prefix
  split at h
  · exact spelled List.nil_prefix h
  · cases h

/-- **A symbol** is spelled as it is. -/
theorem symbolPiece_sound (h : symbolPiece first rest = some found) :
    found.Taken (first :: rest) := by
  obtain ⟨more, _, mem, rfl⟩ := symbolPiece_mem_symbols h
  obtain ⟨behind, rfl⟩ := symbolPiece_prefix h
  exact ⟨first :: more, behind, rfl, rfl, mem, String.toList_ofList.symm⟩

/-- **A number, name or symbol.** -/
theorem plainPiece_sound (h : plainPiece first rest = .ok found) :
    found.Taken (first :: rest) := by
  unfold plainPiece at h
  split at h
  · rename_i digit
    exact numberPiece_sound digit h
  split at h
  · rename_i start
    cases h
    exact namePiece_sound start rest
  split at h
  · rename_i symbol found
    cases h
    exact symbolPiece_sound found
  · cases h

/-- **Every piece is what its characters are.** -/
theorem piece_sound {pathOpen : Bool} (h : piece pathOpen first rest = .ok found) :
    found.Taken (first :: rest) := by
  unfold piece at h
  split at h
  · rename_i blank
    cases h
    refine ⟨[first], rest, rfl, rfl, .blank ?_⟩
    simpa [isGap, or_assoc] using blank
  split at h
  · rename_i hash
    subst hash
    cases h
    refine ⟨'#' :: rest.takeWhile (· ≠ '\n'), rest.dropWhile (· ≠ '\n'), ?_, rfl, .line ?_ ?_⟩
    · rw [List.cons_append, List.takeWhile_append_dropWhile]
    · intro newline
      have inside := List.all_eq_true.mp List.all_takeWhile '\n' newline
      simp at inside
    · have stop := List.head?_dropWhile_not (· ≠ '\n') rest
      cases behind : rest.dropWhile (· ≠ '\n') with
      | nil => exact .inl rfl
      | cons c more =>
        rw [behind] at stop
        exact .inr (by simpa using stop)
  split at h
  · rename_i opening
    obtain ⟨rfl, star⟩ := opening
    obtain ⟨more, rfl⟩ := prefix_of_head? star
    split at h
    · rename_i length comment
      cases h
      obtain ⟨content, behind, split, inside, rfl⟩ := blockComment_sound comment
      obtain rfl : more = content ++ '*' :: '/' :: behind := split
      exact ⟨'/' :: '*' :: (content ++ ['*', '/']), behind, by simp, by simp [Piece.extra],
        .block inside⟩
    · cases h
  split at h
  · rename_i bracket
    obtain ⟨rfl, -⟩ := bracket
    split at h
    · rename_i path found
      cases h
      obtain ⟨behind, rfl, noBracket, noNewline⟩ := pathText_sound found
      exact ⟨'<' :: (path ++ ['>']), behind, by simp, by simp [Piece.extra], path, noBracket,
        noNewline, String.toList_ofList, rfl⟩
    · cases h
  split at h
  · rename_i quote
    obtain ⟨⟨content, total⟩, read, rfl⟩ := exists_of_map_eq_ok h
    obtain ⟨body, behind, rfl, quoted, rfl⟩ := quotedText_sound read
    exact ⟨first :: (body ++ [first]), behind, by simp, by simp [Piece.extra], first,
      by simpa using quote, body, by simpa using quoted, rfl⟩
  · exact plainPiece_sound h

/-! ## Parts of a source -/

/-- The characters from one offset up to another. -/
def excerpt (chars : List Char) (first past : Nat) : List Char := (chars.take past).drop first

/-- From an offset on stand the characters up to a later one, and those from there on. -/
theorem excerpt_append_drop {first past : Nat} (h : first ≤ past) :
    excerpt chars first past ++ chars.drop past = chars.drop first := by
  rw [excerpt, List.drop_take]
  conv_rhs => rw [← List.take_append_drop (past - first) (chars.drop first)]
  rw [List.drop_drop, Nat.add_sub_cancel' h]

/-- Up to an offset stand the characters up to an earlier one, and those from there on. -/
theorem excerpt_append_excerpt {first middle past : Nat} (h : first ≤ middle) (h' : middle ≤ past) :
    excerpt chars first middle ++ excerpt chars middle past = excerpt chars first past := by
  have cut : excerpt (chars.take past) first middle ++ (chars.take past).drop middle =
      (chars.take past).drop first := excerpt_append_drop h
  rwa [excerpt, List.take_take, Nat.min_eq_left h'] at cut

/-- The characters of a part in the middle. -/
theorem excerpt_middle (before text behind : List Char) :
    excerpt (before ++ text ++ behind) before.length (before ++ text).length = text := by
  rw [excerpt, List.take_left, List.drop_left]

/-! ## Whole sources -/

/-- Where a token stands: from one offset of a source up to another, which is greater. -/
structure Extent where
  /-- The offset of the first character. -/
  first : Nat
  /-- The offset behind the last character. -/
  past : Nat
  /-- There is a character. -/
  nonempty : first < past

/-- **The source is covered from an offset on.** There stands a gap, then a spelling of the first
token, which starts where the token says, then a gap and a spelling of the next one, and so on, and
behind the last token a gap up to the end of the source. -/
inductive Covers (chars : List Char) : Nat → List Token → List Extent → Prop
  /-- Behind the last token. -/
  | ending {start : Nat} (inside : start ≤ chars.length) (gap : GapText [] (chars.drop start)) :
    Covers chars start [] []
  /-- In front of a token. -/
  | token {start : Nat} {token : Token} {extent : Extent} {tokens : List Token}
      {extents : List Extent} (after : start ≤ extent.first)
      (gap : GapText (chars.drop extent.first) (excerpt chars start extent.first))
      (spelled : token.word.Spelled (excerpt chars extent.first extent.past))
      (located : token.span = spanAt chars extent.first)
      (rest : Covers chars extent.past tokens extents) :
    Covers chars start (token :: tokens) (extent :: extents)

variable {before text behind : List Char} {tokens : List Token} {extents : List Extent}

/-- A blank or comment belongs to the gap that follows it. -/
theorem Covers.gap (piece : GapPiece behind text)
    (rest : Covers (before ++ text ++ behind) (before ++ text).length tokens extents) :
    Covers (before ++ text ++ behind) before.length tokens extents := by
  have starts : before.length ≤ (before ++ text).length := by simp
  cases rest with
  | ending inside gap =>
    rw [List.drop_left] at gap
    refine .ending (Nat.le_trans starts inside) ?_
    rw [List.append_assoc, List.drop_left]
    exact .cons (by rwa [List.append_nil]) gap
  | token after gap spelled located rest =>
    refine .token (Nat.le_trans starts after) ?_ spelled located rest
    rw [← excerpt_append_excerpt starts after, excerpt_middle]
    refine .cons ?_ gap
    rw [excerpt_append_drop after, List.drop_left]
    exact piece

/-- A spelling is covered by its token, right where it starts. -/
theorem Covers.word {kind : TokenKind} {lexeme : String}
    (spelled : Word.Spelled (kind, lexeme) text)
    (longer : before.length < (before ++ text).length)
    (rest : Covers (before ++ text ++ behind) (before ++ text).length tokens extents) :
    Covers (before ++ text ++ behind) before.length
      (⟨kind, lexeme, (Place.start.after before).span⟩ :: tokens)
      (⟨before.length, (before ++ text).length, longer⟩ :: extents) := by
  have front : (before ++ text ++ behind).take before.length = before := by
    rw [List.append_assoc, List.take_left]
  refine .token (Nat.le_refl _) ?_ ?_ ?_ rest
  · rw [excerpt, front, List.drop_length]
    exact .nil
  · rw [excerpt_middle]
    exact spelled
  · rw [spanAt, front]
    exact span_after_start before

/-- **What is scanned is covered**, and the scan ends where the source does. -/
theorem scan_covers {place : Place} {pathOpen : Bool} {rest : List Char} :
    ∀ {before : List Char} {tokens : List Token} {ending : Place},
      place = Place.start.after before → scan place pathOpen rest = .ok (tokens, ending) →
        (∃ extents, Covers (before ++ rest) before.length tokens extents) ∧
          ending = Place.start.after (before ++ rest) := by
  induction place, pathOpen, rest using scan.induct with
  | case1 place pathOpen =>
    rintro before tokens ending rfl h
    rw [scan] at h
    cases h
    refine ⟨⟨[], .ending (by simp) ?_⟩, by rw [List.append_nil]⟩
    rw [List.append_nil, List.drop_length]
    exact .nil
  | case2 place pathOpen first rest problem failed =>
    rintro before tokens ending rfl h
    rw [scan, failed] at h
    cases h
  | case3 place pathOpen first rest found read taken =>
    rename_i ih
    rintro before tokens ending rfl h
    obtain ⟨text, behind, cut, length, isText⟩ := piece_sound read
    obtain ⟨more, rfl, rfl⟩ : ∃ more, text = first :: more ∧ rest = more ++ behind := by
      cases text with
      | nil => cases length
      | cons c more => simpa [eq_comm] using cut
    have extra : found.extra = more.length := (Nat.succ.inj length).symm
    rw [scan_append read extra] at h
    obtain ⟨⟨others, final⟩, scanned, same⟩ := exists_of_map_eq_ok h
    cases same
    simp only [taken, extra, List.take_left, List.drop_left] at ih
    obtain ⟨⟨extents, covered⟩, rfl⟩ := ih (Place.after_append ..).symm scanned
    rw [← List.cons_append, ← List.append_assoc]
    refine ⟨?_, rfl⟩
    cases found with
    | gap length => exact ⟨extents, covered.gap isText⟩
    | token kind lexeme length => exact ⟨_, covered.word isText (by simp)⟩

end ReactiveScript
