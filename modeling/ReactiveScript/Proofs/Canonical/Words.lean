import Mathlib.Data.List.Forall2
import ReactiveScript.Proofs.Datum.Tree
import ReactiveScript.Proofs.Grammar.RoundTrip
import ReactiveScript.Proofs.Token.RoundTrip
import ReactiveScript.Value.Text

/-! # The words of canonical text

The canonical text of a value is the source of an expression, if the value is made of integers,
truth values, texts, lists and dictionaries (`Datum.isWritable`). It is written with hardly any
gaps, so what stands behind a value is a delimiter: `Spells` says that some characters are read as
some words wherever a delimiter follows, and it is handed on from the parts of a container to the
container. The main statement is `Datum.spells_inner`. -/

namespace ReactiveScript

open Lexer

/-! ## What can be written -/

/-- Whether a character stands between quotes as itself or behind one backslash. -/
def Text.isPlainlyQuoted (c : Char) : Bool :=
  quoteChar c ∈ [[c], ['\\', 'n'], ['\\', 'r'], ['\\', 't'], ['\\', '0'], ['\\', '\\'],
    ['\\', '"']]

/-- The negative of an integer that is not the least one. -/
theorem Number.toInt_neg {n : Int64} (h : least < n.toInt) : (-n).toInt = -n.toInt := by
  have high := n.toInt_lt
  unfold least at h
  rw [Int64.toInt_neg, Int.bmod_eq_of_le] <;> omega

namespace Datum

/-- Whether a tree, apart from the trees inside it, has a text that can be read back: an integer
with a negative that is one too, a truth value, a text without characters that are written by their
code point, or a container. -/
def isWritable : Datum → Bool
  | .int n => Number.least < n.toInt
  | .boolean _ => true
  | .text s => s.toList.all Text.isPlainlyQuoted
  | .list .. => true
  | .dict .. => true
  | _ => false

mutual

/-- **The expression that the text of a writable tree spells.** -/
def literal : Datum → Expr
  | .int n =>
    if 0 ≤ n.toInt then .literal .unknown (.int n)
    else .unary .unknown .negate (.literal .unknown (.int (-n)))
  | .boolean b => .literal .unknown (.boolean b)
  | .text s => .literal .unknown (.text s)
  | .list _ _ items => .list .unknown (literalItems items)
  | .dict _ _ _ entries => .dict .unknown (literalEntries entries)
  | _ => .var .unknown ""

/-- The expressions of the items of a list. -/
def literalItems : List Datum → List Expr
  | [] => []
  | item :: items => literal item :: literalItems items

/-- The expressions of the keys and values of a dictionary. -/
def literalEntries : List (Datum × Datum) → List (Expr × Expr)
  | [] => []
  | (key, value) :: entries => (literal key, literal value) :: literalEntries entries

end

mutual

/-- The expression of a writable tree can be printed, also where ranges take no step. -/
theorem isPrintable_literal (stepped : Bool) : ∀ tree : Datum,
    (∀ part ∈ tree.parts, part.isWritable = true) → tree.literal.isPrintable stepped = true
  | .int n, writable => by
    have least : Number.least < n.toInt := by simpa [isWritable] using writable _ (mem_parts_self _)
    rw [literal]
    split
    · simpa [Expr.isPrintable, Literal.isPrintable]
    · simp only [Expr.isPrintable, Literal.isPrintable, Number.toInt_neg least, decide_eq_true_eq]
      omega
  | .boolean _, _ => rfl
  | .text _, _ => rfl
  | .list _ _ items, writable => by
    obtain ⟨-, inside⟩ := forall_parts_list.mp writable
    exact isPrintable_literalItems stepped items inside
  | .dict _ _ _ entries, writable => by
    obtain ⟨-, keys, values⟩ := forall_parts_dict.mp writable
    exact isPrintable_literalEntries stepped entries keys values
  | .float _, _ => rfl
  | .complex _ _, _ => rfl
  | .void, _ => rfl
  | .untyped, _ => rfl
  | .cycle _, _ => rfl

/-- So can those of items. -/
theorem isPrintable_literalItems (stepped : Bool) : ∀ items : List Datum,
    (∀ item ∈ items, ∀ part ∈ item.parts, part.isWritable = true) →
    Expr.arePrintable stepped (literalItems items) = true
  | [], _ => rfl
  | item :: items, writable => by
    obtain ⟨first, rest⟩ := List.forall_mem_cons.mp writable
    rw [literalItems, Expr.arePrintable, isPrintable_literal stepped item first,
      isPrintable_literalItems stepped items rest, Bool.and_self]

/-- So can those of entries. -/
theorem isPrintable_literalEntries (stepped : Bool) : ∀ entries : List (Datum × Datum),
    (∀ entry ∈ entries, ∀ part ∈ entry.1.parts, part.isWritable = true) →
    (∀ entry ∈ entries, ∀ part ∈ entry.2.parts, part.isWritable = true) →
    Expr.entriesPrintable stepped (literalEntries entries) = true
  | [], _, _ => rfl
  | (key, value) :: entries, keys, values => by
    obtain ⟨first, keys⟩ := List.forall_mem_cons.mp keys
    obtain ⟨second, values⟩ := List.forall_mem_cons.mp values
    rw [literalEntries, Expr.entriesPrintable, isPrintable_literal false key first,
      isPrintable_literal stepped value second,
      isPrintable_literalEntries stepped entries keys values, Bool.and_self, Bool.and_self]

end

end Datum

/-! ## Quoted texts -/

/-- A character that is plainly quoted is read back off its quoted form. -/
theorem quotedText_quoteChar {c : Char} (plain : Text.isPlainlyQuoted c = true) (taken : Nat)
    (follow : List Char) :
    quotedText '"' taken (Text.quoteChar c ++ follow) =
      (quotedText '"' (taken + (Text.quoteChar c).length) follow).map
        fun (content, total) => (c :: content, total) := by
  have backslash : '\\' ≠ '"' := by decide
  unfold Text.isPlainlyQuoted at plain
  unfold Text.quoteChar at plain ⊢
  split
  · subst c
    exact quotedText_escaped backslash rfl taken
  split
  · subst c
    exact quotedText_escaped backslash rfl taken
  split
  · subst c
    exact quotedText_escaped backslash rfl taken
  split
  · subst c
    exact quotedText_escaped backslash rfl taken
  split
  · subst c
    exact quotedText_escaped backslash rfl taken
  split
  · subst c
    exact quotedText_escaped backslash rfl taken
  split
  · exact quotedText_plain (by simp [*]) taken
  · -- A code point takes more than two characters.
    simp_all

/-- **A quoted text** is read back up to its closing quote. -/
theorem quotedText_quoteChars {content : List Char}
    (plain : ∀ c ∈ content, Text.isPlainlyQuoted c = true) (taken : Nat) (follow : List Char) :
    quotedText '"' taken (content.flatMap Text.quoteChar ++ '"' :: follow) =
      .ok (content, taken + (content.flatMap Text.quoteChar).length + 1) := by
  induction content generalizing taken with
  | nil => exact quotedText_close '"' taken
  | cons c rest ih =>
    obtain ⟨first, others⟩ := List.forall_mem_cons.mp plain
    rw [List.flatMap_cons, List.append_assoc, quotedText_quoteChar first, ih others,
      List.length_append]
    simp only [Except.map]
    congr 2
    omega

/-! ## Words before a delimiter -/

/-- The characters that may follow a value in canonical text. -/
def delimiters : List Char := [',', ':', ']', '\x7d', ';']

/-- What starts with a delimiter. -/
def Delimited (follow : List Char) : Prop := ∀ c ∈ follow.head?, c ∈ delimiters

/-- A delimiter stops every class that holds none. -/
theorem Delimited.stops {p : Char → Bool} {follow : List Char} (h : Delimited follow)
    (none : delimiters.any p = false) : Stops p follow := by
  intro c head
  exact eq_false_of_ne_true (List.any_eq_false.mp none c (h c head))

/-- A delimiter before anything. -/
theorem delimited_cons {c : Char} {follow : List Char} (h : c ∈ delimiters) :
    Delimited (c :: follow) := by
  intro d head
  obtain rfl : c = d := by simpa using head
  exact h

/-- **Some characters spell some words** wherever a delimiter follows them. -/
def Spells (chars : List Char) (group : List Word) : Prop :=
  ∀ follow words, Delimited follow → Scans false follow words →
    Scans false (chars ++ follow) (group ++ words)

/-- A step over a word that is read as one piece. -/
theorem Scans.token {first : Char} {follow : List Char} {words : List Word} {pathOpen : Bool}
    (word : Word) (more : List Char) (rest : Scans word.opensPath follow words)
    (h : piece pathOpen first (more ++ follow) = .ok (.token word.1 word.2 more.length)) :
    Scans pathOpen (first :: (more ++ follow)) (word :: words) := by
  intro place
  obtain ⟨tokens, ending, read, spelled⟩ := rest (place.after (first :: more))
  refine ⟨⟨word.1, word.2, place.span⟩ :: tokens, ending, ?_, by rw [← spelled]; rfl⟩
  rw [scan_append h rfl]
  exact congrArg (Except.map _) read

/-- A symbol that is read alone whatever follows it. -/
theorem Scans.plainSymbol {c : Char} {follow : List Char} {words : List Word}
    (rest : Scans false follow words) (mem : c ∈ plainSymbols) :
    Scans false (c :: follow) (.symbol (String.ofList [c]) :: words) := by
  have alone : symbolPiece c follow = some (.token .symbol (String.ofList [c]) 0) := by
    simp only [plainSymbols, List.mem_cons, List.not_mem_nil, or_false] at mem
    rcases mem with rfl | rfl | rfl | rfl | rfl | rfl | rfl | rfl | rfl | rfl | rfl | rfl | rfl <;>
      rfl
  have symbol : [c] ∈ symbols := by simp [symbols, mem]
  have slash : ¬(c = '/' ∧ follow.head? = some '*') := by
    rintro ⟨rfl, -⟩
    exact absurd mem (by decide)
  exact Scans.token (.symbol (String.ofList [c])) [] rest
    (piece_symbol symbol slash (by simp) alone)

/-- A keyword that no path may follow, before anything that does not go on with a name. -/
theorem Scans.keyword {follow : List Char} {words : List Word}
    (rest : Scans false follow words) {name : String} (h : isKeyword name = true)
    (pathless : Word.opensPath (.keyword, name) = false) (stops : Stops continuesName follow) :
    Scans false (name.toList ++ follow) ((.keyword, name) :: words) := by
  obtain ⟨first, more, starts, continues, chars⟩ := isName_of_isKeyword h
  have whole : String.ofList (first :: more) = name := by rw [← chars, String.ofList_toList]
  have taken := takeWhile_run continues stops
  rw [← pathless] at rest
  rw [chars]
  refine Scans.token (.keyword, name) more rest ?_
  rw [piece_name starts]
  simp only [namePiece, taken, whole, h, if_true]

/-- A blank between words. -/
theorem Scans.space {follow : List Char} {words : List Word} (rest : Scans false follow words) :
    Scans false (' ' :: follow) words :=
  rest.gap [] (piece_blank (by decide))

namespace Spells

/-- A number without a point or an exponent. -/
theorem digits {chars : List Char} (h : IsDigits chars) :
    Spells chars [(.number, String.ofList chars)] := by
  intro follow words delimited rest
  obtain ⟨some, all⟩ := h
  obtain ⟨first, more, rfl⟩ := List.exists_cons_of_ne_nil some
  have digit := List.all_eq_true.mp all first List.mem_cons_self
  have numeral : IsNumeral (first :: more) :=
    ⟨first :: more, [], [], ⟨some, all⟩, .inl rfl, .inl rfl, by simp⟩
  have text := numberText_append numeral (delimited.stops (p := isNumeric) (by decide))
  have read : numberPiece first (more ++ follow) =
      .ok (.token .number (String.ofList (first :: more)) more.length) := by
    rw [List.cons_append] at text
    simp only [numberPiece, text, List.length_cons, List.drop_succ_cons, List.drop_left]
    -- Behind the digits stands neither an imaginary mark nor the start of a name.
    cases follow with
    | nil => rfl
    | cons c rest =>
      have start := delimited.stops (p := startsName) (by decide) c rfl
      have mark : c ≠ 'j' := by rintro rfl; exact absurd start (by decide)
      simp [mark, start]
  refine Scans.token (.number, String.ofList (first :: more)) more rest ?_
  rw [piece_digit digit, read]

/-- A natural number. -/
theorem natural (n : Nat) : Spells n.repr.toList [(.number, n.repr)] := by
  have isDigits : IsDigits n.repr.toList := by
    rw [Nat.repr, String.toList_ofList]
    refine ⟨Nat.toDigits_ne_nil, List.all_eq_true.mpr fun c mem => ?_⟩
    exact Nat.isDigit_of_mem_toDigits (by decide) (by decide) mem
  simpa only [String.ofList_toList] using digits isDigits

/-- A minus sign before a natural number. -/
theorem minus (n : Nat) : Spells ('-' :: n.repr.toList) [.symbol "-", (.number, n.repr)] := by
  intro follow words delimited rest
  have number := natural n follow words delimited rest
  have digit : ∀ c ∈ (n.repr.toList ++ follow).head?, c.isDigit = true := by
    intro c head
    rw [Nat.repr, String.toList_ofList, List.head?_append_of_ne_nil _ Nat.toDigits_ne_nil] at head
    exact Nat.isDigit_of_mem_toDigits (by decide) (by decide) (List.mem_of_mem_head? head)
  -- Neither an arrow nor an assignment starts with a minus sign before a digit.
  have noArrow : (n.repr.toList ++ follow).head? ≠ some '>' :=
    fun head => absurd (digit _ head) (by decide)
  have noEquals : (n.repr.toList ++ follow).head? ≠ some '=' :=
    fun head => absurd (digit _ head) (by decide)
  have alone : symbolPiece '-' (n.repr.toList ++ follow) = some (.token .symbol "-" 0) := by
    simp only [symbolPiece, noArrow, noEquals]
    rfl
  have symbol : ['-'] ∈ symbols := by decide
  exact Scans.token (.symbol "-") [] number (piece_symbol symbol (by simp) (by simp) alone)

/-- **An integer**, with its sign as a word of its own. -/
theorem int {n : Int64} (least : Number.least < n.toInt) :
    Spells (intText n).toList (Datum.int n).literal.words := by
  rw [Datum.literal, intText]
  split
  case isTrue positive =>
    obtain ⟨size, value⟩ := Int.eq_ofNat_of_zero_le positive
    rw [Expr.words, Literal.word, value]
    exact natural size
  case isFalse negative =>
    obtain ⟨size, value⟩ : ∃ size : Nat, n.toInt = Int.negSucc size :=
      Int.eq_negSucc_of_lt_zero (by omega)
    have negated : (-n).toInt.toNat = size + 1 := by
      rw [Number.toInt_neg least, value]
      rfl
    have signed : toString (Int.negSucc size) = "-" ++ (size + 1).repr := rfl
    rw [Expr.words, Expr.words, Literal.word, negated, value, signed, String.toList_append]
    exact minus (size + 1)

/-- A keyword that no path may follow. -/
theorem keyword {name : String} (h : isKeyword name = true)
    (pathless : Word.opensPath (.keyword, name) = false) :
    Spells name.toList [(.keyword, name)] := by
  intro follow words delimited rest
  exact rest.keyword h pathless (delimited.stops (by decide))

/-- A truth value. -/
theorem boolean (b : Bool) : Spells (booleanText b).toList [(Literal.boolean b).word] := by
  cases b with
  | true => exact keyword rfl rfl
  | false => exact keyword rfl rfl

/-- A text between quotes. -/
theorem text {s : String} (plain : s.toList.all Text.isPlainlyQuoted = true) :
    Spells (Text.quoted s).toList [(.text, s)] := by
  intro follow words _ rest
  have content := quotedText_quoteChars (List.all_eq_true.mp plain) 0 follow
  rw [Text.quoted, String.toList_ofList, Text.quoteChars, List.cons_append]
  refine Scans.token (.text, s) (s.toList.flatMap Text.quoteChar ++ ['"']) rest ?_
  rw [List.append_assoc, List.singleton_append, piece_quote (by decide), content]
  simp [Except.map]

/-- Nothing at all. -/
theorem nil : Spells [] [] := fun _ _ _ rest => rest

/-- Two parts with a mark and a blank between them. -/
theorem joined {mark : Char} {left right : List Char} {group others : List Word}
    (first : Spells left group) (second : Spells right others) (symbol : mark ∈ plainSymbols)
    (delimiter : mark ∈ delimiters) :
    Spells (left ++ mark :: ' ' :: right)
      (group ++ .symbol (String.ofList [mark]) :: others) := by
  intro follow words delimited rest
  have behind := ((second follow words delimited rest).space).plainSymbol symbol
  have before := first _ _ (delimited_cons delimiter) behind
  simpa only [List.append_assoc, List.cons_append] using before

/-- What stands between brackets. -/
theorem enclosed {opening closing : Char} {chars : List Char} {group : List Word}
    (inside : Spells chars group) (opens : opening ∈ plainSymbols) (closes : closing ∈ plainSymbols)
    (delimiter : closing ∈ delimiters) :
    Spells (opening :: (chars ++ [closing]))
      (.symbol (String.ofList [opening]) :: (group ++ [.symbol (String.ofList [closing])])) := by
  intro follow words _ rest
  have before := inside _ _ (delimited_cons delimiter) (rest.plainSymbol closes)
  have whole := before.plainSymbol opens
  simpa only [List.append_assoc, List.cons_append, List.nil_append] using whole

/-- **A row of parts** with commas between them. -/
theorem row {texts : List String} {groups : List (List Word)}
    (each : List.Forall₂ (fun text group => Spells text.toList group) texts groups) :
    Spells (", ".intercalate texts).toList (separated groups) := by
  induction each with
  | nil => exact nil
  | cons first others ih =>
    cases others with
    | nil =>
      rw [String.intercalate_singleton, separated]
      exact first
    | cons second rest =>
      rw [String.intercalate_cons_cons, String.toList_append, String.toList_append,
        List.append_assoc]
      exact first.joined ih (by decide) (by decide)

end Spells

/-! ## The text of a tree -/

namespace Datum

/-- The texts of items spell the words of their expressions if the text of each item does. -/
theorem forall₂_innerItems {items : List Datum}
    (each : ∀ item ∈ items, Spells item.inner.toList item.literal.words) :
    List.Forall₂ (fun text group => Spells text.toList group) (innerItems items)
      (Expr.groups (literalItems items)) := by
  induction items with
  | nil => exact .nil
  | cons item items ih =>
    obtain ⟨first, others⟩ := List.forall_mem_cons.mp each
    exact .cons first (ih others)

/-- The texts of entries spell the words of their expressions if the text of each key and each value
does. -/
theorem forall₂_innerEntries {entries : List (Datum × Datum)}
    (keys : ∀ entry ∈ entries, Spells entry.1.inner.toList entry.1.literal.words)
    (values : ∀ entry ∈ entries, Spells entry.2.inner.toList entry.2.literal.words) :
    List.Forall₂ (fun text group => Spells text.toList group) (innerEntries entries)
      (Expr.entryGroups (literalEntries entries)) := by
  induction entries with
  | nil => exact .nil
  | cons entry entries ih =>
    obtain ⟨key, keys⟩ := List.forall_mem_cons.mp keys
    obtain ⟨value, values⟩ := List.forall_mem_cons.mp values
    refine .cons ?_ (ih keys values)
    rw [String.toList_append, String.toList_append, List.append_assoc]
    exact key.joined value (by decide) (by decide)

/-- **The text of a writable tree spells its expression.** -/
theorem spells_inner (tree : Datum) (writable : ∀ part ∈ tree.parts, part.isWritable = true) :
    Spells tree.inner.toList tree.literal.words := by
  induction tree with
  | int n =>
    have least : Number.least < n.toInt := by simpa [isWritable] using writable _ (mem_parts_self _)
    exact .int least
  | boolean b => exact .boolean b
  | text s => exact .text (writable _ (mem_parts_self _))
  | list handle element items ih =>
    obtain ⟨-, inside⟩ := forall_parts_list.mp writable
    have row := Spells.row (forall₂_innerItems fun item mem => ih item mem (inside item mem))
    rw [inner, String.toList_append, String.toList_append, List.append_assoc]
    exact row.enclosed (by decide) (by decide) (by decide)
  | dict handle key value entries keysIh valuesIh =>
    obtain ⟨-, keys, values⟩ := forall_parts_dict.mp writable
    have row := Spells.row (forall₂_innerEntries
      (fun entry mem => keysIh entry mem (keys entry mem))
      (fun entry mem => valuesIh entry mem (values entry mem)))
    rw [inner, String.toList_append, String.toList_append, List.append_assoc]
    exact row.enclosed (by decide) (by decide) (by decide)
  | _ => exact absurd (writable _ (mem_parts_self _)) Bool.false_ne_true

end Datum

end ReactiveScript
