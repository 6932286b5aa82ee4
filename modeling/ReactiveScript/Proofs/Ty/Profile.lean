import Mathlib.Data.List.Basic
import ReactiveScript.Ty

/-! # Reading type texts again

Any text is read as a type, however its brackets stand, and the text of that type is in general
another one: blanks at the ends are lost, `list<?>` becomes `list`, and a comma gets a blank behind
it. None of this touches the profile of the brackets, that is how many are open behind a text when
some are before it, and whether a comma stands outside all of them (`openAfter_render`). The profile
is all that decides where the parameters of a dictionary part, so the text of the type is read as
the same type (`readChars_render`). -/

namespace ReactiveScript

namespace Text

/-! ## Trimming -/

variable {chars : List Char}

/-- A space is blank. -/
theorem isBlank_space : isBlank ' ' = true := by cbv

/-- The marks in the text of a type are not blank, and neither is the first letter of a head
word. -/
theorem isBlank_marks : ∀ c ∈ [',', '<', '>', 'l', 'd'], isBlank c = false := by
  have all : ([',', '<', '>', 'l', 'd'].all fun c => !isBlank c) = true := by cbv
  exact fun c mem => (Bool.not_eq_eq_eq_not ..).mp (List.all_eq_true.mp all c mem)

/-- Characters without a blank at either end. -/
structure Bare (chars : List Char) : Prop where
  /-- The first character is not blank. -/
  first : ∀ c ∈ chars.head?, isBlank c = false
  /-- The last character is not blank. -/
  last : ∀ c ∈ chars.getLast?, isBlank c = false

/-- What follows the leading blanks does not start with one. -/
theorem isBlank_head?_trimStart (chars : List Char) :
    ∀ c ∈ (trimStart chars).head?, isBlank c = false := by
  intro c head
  have stop := List.head?_dropWhile_not isBlank chars
  unfold trimStart at head
  rw [Option.mem_def.mp head] at stop
  exact stop

/-- Only blanks are lost in front. -/
theorem exists_trimStart (chars : List Char) :
    ∃ blanks, blanks.all isBlank = true ∧ chars = blanks ++ trimStart chars :=
  ⟨chars.takeWhile isBlank, List.all_takeWhile, List.takeWhile_append_dropWhile.symm⟩

/-- Only blanks are lost behind. -/
theorem exists_trimEnd (chars : List Char) :
    ∃ blanks, blanks.all isBlank = true ∧ chars = trimEnd chars ++ blanks := by
  obtain ⟨blanks, all, parts⟩ := exists_trimStart chars.reverse
  refine ⟨blanks.reverse, by simpa using all, ?_⟩
  have turned := congrArg List.reverse parts
  rwa [List.reverse_reverse, List.reverse_append] at turned

/-- **Only blanks are lost by trimming.** -/
theorem exists_trim (chars : List Char) :
    ∃ before behind, before.all isBlank = true ∧ behind.all isBlank = true ∧
      chars = before ++ (trim chars ++ behind) := by
  obtain ⟨before, allBefore, front⟩ := exists_trimStart chars
  obtain ⟨behind, allBehind, back⟩ := exists_trimEnd (trimStart chars)
  exact ⟨before, behind, allBefore, allBehind, front.trans (congrArg (before ++ ·) back)⟩

/-- **Nothing is left to trim** after trimming. -/
theorem bare_trim (chars : List Char) : Bare (trim chars) where
  first := by
    intro c head
    -- What is trimmed behind starts as it did, if it is not all gone.
    obtain ⟨blanks, -, parts⟩ := exists_trimEnd (trimStart chars)
    have kept : (trimEnd (trimStart chars)).head? = some c := head
    refine isBlank_head?_trimStart chars c ?_
    rw [parts, List.head?_append, kept]
    rfl
  last := by
    intro c last
    have head : c ∈ (trimStart (trimStart chars).reverse).head? := by
      simpa [trim, trimEnd, trimStart, List.getLast?_reverse] using last
    exact isBlank_head?_trimStart _ c head

/-- What has no blank at its ends is left as it is. -/
theorem trim_of_bare (bare : Bare chars) : trim chars = chars := by
  have kept {chars : List Char} (h : ∀ c ∈ chars.head?, isBlank c = false) :
      chars.dropWhile isBlank = chars := by
    cases chars with
    | nil => rfl
    | cons c rest => rw [List.dropWhile_cons, h c rfl, if_neg Bool.false_ne_true]
  have back : chars.reverse.dropWhile isBlank = chars.reverse := by
    refine kept fun c head => bare.last c ?_
    rwa [List.head?_reverse] at head
  rw [trim, trimStart, kept bare.first, trimEnd, back, List.reverse_reverse]

/-- A blank in front is lost. -/
theorem trim_space (chars : List Char) : trim (' ' :: chars) = trim chars := by
  rw [trim, trimStart, List.dropWhile_cons_of_pos isBlank_space]
  rfl

end Text

namespace Ty

open Text

/-! ## The profile of the brackets -/

/-- How many brackets are open behind a character. -/
def openBehind (depth : Nat) (c : Char) : Nat :=
  if c = '<' then depth + 1 else if c = '>' then depth - 1 else depth

/-- **The profile of the brackets.** How many are open behind some characters if `depth` are before
them; nothing if a comma stands outside all. -/
def openAfter (depth : Nat) : List Char → Option Nat
  | [] => some depth
  | c :: rest => if c = ',' ∧ depth = 0 then none else openAfter (openBehind depth c) rest

variable {depth : Nat} {chars left right inner blanks : List Char} {head : List Char}

/-- The profile of texts one behind the other. -/
theorem openAfter_append (depth : Nat) (left right : List Char) :
    openAfter depth (left ++ right) = (openAfter depth left).bind (openAfter · right) := by
  induction left generalizing depth with
  | nil => rfl
  | cons c rest ih =>
    rw [List.cons_append, openAfter, openAfter]
    split
    · rfl
    · exact ih _

/-- Characters other than brackets and commas do not count. -/
theorem openAfter_of_plain (plain : ∀ c ∈ chars, c ≠ ',' ∧ c ≠ '<' ∧ c ≠ '>') (depth : Nat) :
    openAfter depth chars = some depth := by
  induction chars with
  | nil => rfl
  | cons c rest ih =>
    obtain ⟨⟨comma, opens, closes⟩, others⟩ := List.forall_mem_cons.mp plain
    rw [openAfter, if_neg fun h => comma h.1, openBehind, if_neg opens, if_neg closes]
    exact ih others

/-- Blanks do not count. -/
theorem openAfter_blanks (all : blanks.all isBlank = true) (depth : Nat) :
    openAfter depth blanks = some depth := by
  refine openAfter_of_plain (fun c mem => ?_) depth
  have blank := List.all_eq_true.mp all c mem
  have unmarked {mark : Char} (mem : mark ∈ [',', '<', '>', 'l', 'd']) : c ≠ mark := by
    rintro rfl
    rw [isBlank_marks c mem] at blank
    cases blank
  exact ⟨unmarked (by simp), unmarked (by simp), unmarked (by simp)⟩

/-- Trimming does not change the profile. -/
theorem openAfter_trim (depth : Nat) (chars : List Char) :
    openAfter depth (trim chars) = openAfter depth chars := by
  obtain ⟨before, behind, allBefore, allBehind, parts⟩ := exists_trim chars
  conv_rhs => rw [parts]
  rw [openAfter_append, openAfter_blanks allBefore, Option.bind_some, openAfter_append]
  simp only [openAfter_blanks allBehind, Option.bind_fun_some]

/-- What stands between brackets is read one bracket deeper. -/
theorem openAfter_wrapped (depth : Nat) (inner : List Char) :
    openAfter depth ('<' :: (inner ++ ['>'])) =
      (openAfter (depth + 1) inner).map (· - 1) := by
  have opened : openAfter depth ('<' :: (inner ++ ['>'])) =
      openAfter (depth + 1) (inner ++ ['>']) := rfl
  have closed (open' : Nat) : openAfter open' ['>'] = some (open' - 1) := by
    simp [openAfter, openBehind]
  rw [opened, openAfter_append]
  simp only [closed]
  cases openAfter (depth + 1) inner <;> rfl

/-- A comma inside brackets does not count. -/
theorem openAfter_comma (depth : Nat) (chars : List Char) :
    openAfter (depth + 1) (',' :: chars) = openAfter (depth + 1) chars := by
  simp [openAfter, openBehind]

/-- **Two parameters part at the first comma outside brackets.** -/
theorem splitAtComma_eq_some_iff :
    splitAtComma depth chars = some (left, right) ↔
      chars = left ++ ',' :: right ∧ openAfter depth left = some 0 := by
  induction chars generalizing depth left with
  | nil => simp [splitAtComma]
  | cons c rest ih =>
    by_cases here : c = ',' ∧ depth = 0
    · obtain ⟨rfl, rfl⟩ := here
      simp only [splitAtComma, and_self, if_true, Option.some.injEq, Prod.mk.injEq]
      constructor
      · rintro ⟨rfl, rfl⟩
        exact ⟨rfl, rfl⟩
      · rintro ⟨parts, closed⟩
        -- A part in front would itself start with the comma.
        cases left with
        | nil => simpa using parts
        | cons d left =>
          obtain ⟨rfl, -⟩ : ',' = d ∧ rest = left ++ ',' :: right := by simpa using parts
          simp [openAfter] at closed
    · rw [splitAtComma, if_neg here, Option.map_eq_some_iff]
      constructor
      · rintro ⟨⟨left, right⟩, found, same⟩
        cases same
        obtain ⟨rfl, closed⟩ := ih.mp found
        exact ⟨rfl, by rw [openAfter, if_neg here]; exact closed⟩
      · rintro ⟨parts, closed⟩
        cases left with
        | nil =>
          obtain ⟨rfl, rfl⟩ : c = ',' ∧ rest = right := by simpa using parts
          exact absurd ⟨rfl, by simpa [openAfter] using closed⟩ here
        | cons d left =>
          obtain ⟨rfl, rfl⟩ : c = d ∧ rest = left ++ ',' :: right := by simpa using parts
          rw [openAfter, if_neg here] at closed
          exact ⟨(left, right), ih.mpr ⟨rfl, closed⟩, rfl⟩

/-! ## Texts between brackets -/

/-- What is found between brackets stands there, behind the head word and blanks. -/
theorem exists_of_unwrapGeneric (h : unwrapGeneric head chars = some inner) :
    ∃ blanks, blanks.all isBlank = true ∧
      chars = head ++ (blanks ++ '<' :: (inner ++ ['>'])) := by
  unfold unwrapGeneric at h
  split at h
  · rename_i starts
    obtain ⟨rest, rfl⟩ := List.isPrefixOf_iff_prefix.mp starts
    rw [List.drop_left] at h
    obtain ⟨blanks, all, parts⟩ := exists_trimStart rest
    split at h
    · rename_i more opened
      split at h
      · rename_i closes
        cases h
        refine ⟨blanks, all, ?_⟩
        rw [List.dropLast_append_getLast? _ closes, ← opened, ← parts]
      · cases h
    · cases h
  · cases h

/-- Whatever stands between brackets right behind the head word is found. -/
theorem unwrapGeneric_wrapped (head inner : List Char) :
    unwrapGeneric head (head ++ '<' :: (inner ++ ['>'])) = some inner := by
  have starts : head.isPrefixOf (head ++ '<' :: (inner ++ ['>'])) = true :=
    List.isPrefixOf_iff_prefix.mpr ⟨_, rfl⟩
  have unblanked : trimStart ('<' :: (inner ++ ['>'])) = '<' :: (inner ++ ['>']) := by
    rw [trimStart, List.dropWhile_cons, isBlank_marks '<' (by simp), if_neg Bool.false_ne_true]
  simp [unwrapGeneric, starts, unblanked]

/-- Neither head word has a bracket or a comma in it. -/
theorem listHead_plain : ∀ c ∈ "list".toList, c ≠ ',' ∧ c ≠ '<' ∧ c ≠ '>' := by simp

theorem dictHead_plain : ∀ c ∈ "dict".toList, c ≠ ',' ∧ c ≠ '<' ∧ c ≠ '>' := by simp

/-- The profile of a head word with parameters. -/
theorem openAfter_of_unwrapGeneric (plain : ∀ c ∈ head, c ≠ ',' ∧ c ≠ '<' ∧ c ≠ '>')
    (h : unwrapGeneric head (trim chars) = some inner) (depth : Nat) :
    openAfter depth chars = (openAfter (depth + 1) inner).map (· - 1) := by
  obtain ⟨blanks, all, parts⟩ := exists_of_unwrapGeneric h
  rw [← openAfter_trim, parts, openAfter_append, openAfter_of_plain plain, Option.bind_some,
    openAfter_append, openAfter_blanks all, Option.bind_some, openAfter_wrapped]

/-! ## Reading, case by case -/

/-- What a text is read as depends on what is left of it after trimming. -/
theorem readChars_eq (chars : List Char) : readChars chars =
    match unwrapGeneric "list".toList (trim chars) with
    | some inner => .list (readChars inner)
    | none =>
      match unwrapGeneric "dict".toList (trim chars) with
      | some inner =>
        match splitAtComma 0 inner with
        | some (key, value) => .dict (readChars key) (readChars value)
        | none => .unknown (String.ofList (trim chars))
      | none => ofWord (String.ofList (trim chars)) := by
  rw [readChars]
  split
  · rename_i found
    rw [found]
  · rename_i noList
    rw [noList]
    split
    · rename_i found
      rw [found]
      split
      · rename_i parts
        simp only [parts]
      · rename_i noParts
        simp only [noParts]
    · rename_i noDict
      rw [noDict]

/-- Texts that are the same after trimming are read as the same type. -/
theorem readChars_of_trim {chars chars' : List Char} (h : trim chars = trim chars') :
    readChars chars = readChars chars' := by
  rw [readChars_eq, h, ← readChars_eq]

/-- A text is read as it is read after trimming. -/
theorem readChars_trim (chars : List Char) : readChars (trim chars) = readChars chars :=
  readChars_of_trim (trim_of_bare (bare_trim chars))

/-- A head word and its parameters have no blanks at their ends. -/
theorem bare_wrapped {first : Char} (more inner : List Char) (letter : isBlank first = false) :
    Bare (first :: (more ++ '<' :: (inner ++ ['>']))) where
  first := by
    intro c same
    cases same
    exact letter
  last := by
    intro c same
    have last : (first :: (more ++ '<' :: (inner ++ ['>']))).getLast? = some '>' := by
      rw [show first :: (more ++ '<' :: (inner ++ ['>'])) =
        (first :: (more ++ '<' :: inner)) ++ ['>'] by simp, List.getLast?_append]
      rfl
    rw [last] at same
    cases same
    exact isBlank_marks '>' (by simp)

/-- A list with its parameter between brackets. -/
theorem readChars_list (inner : List Char) :
    readChars ("list".toList ++ '<' :: (inner ++ ['>'])) = .list (readChars inner) := by
  have bare := bare_wrapped ['i', 's', 't'] inner (isBlank_marks 'l' (by simp))
  rw [readChars_eq, trim_of_bare (by exact bare), unwrapGeneric_wrapped]

/-- A dictionary with its parameters between brackets, where the first has no comma outside
brackets and leaves no bracket open. -/
theorem readChars_dict {key : List Char} (closed : openAfter 0 key = some 0) (value : List Char) :
    readChars ("dict".toList ++ '<' :: (key ++ ',' :: value ++ ['>'])) =
      .dict (readChars key) (readChars value) := by
  have bare := bare_wrapped ['i', 'c', 't'] (key ++ ',' :: value)
    (isBlank_marks 'd' (by simp))
  have noList : unwrapGeneric "list".toList
      ("dict".toList ++ '<' :: (key ++ ',' :: value ++ ['>'])) = none := rfl
  have parts : splitAtComma 0 (key ++ ',' :: value) = some (key, value) :=
    splitAtComma_eq_some_iff.mpr ⟨rfl, closed⟩
  rw [readChars_eq, trim_of_bare (by exact bare), noList, unwrapGeneric_wrapped]
  simp only [parts]

/-! ## The text of a type -/

variable {element key value : Ty}

/-- The text of a list with a parameter. -/
theorem toList_render_list (h : element ≠ .any) : (Ty.list element).render.toList =
    "list".toList ++ '<' :: (element.render.toList ++ ['>']) := by
  simp [render, isAny, h]

/-- The text of a dictionary with parameters. -/
theorem toList_render_dict (h : ¬(key = .any ∧ value = .any)) : (Ty.dict key value).render.toList =
    "dict".toList ++ '<' ::
      (key.render.toList ++ ',' :: (' ' :: value.render.toList) ++ ['>']) := by
  simp [render, isAny, h]

/-- The text of the type that a word names has the profile of the word. -/
theorem openAfter_render_ofWord (depth : Nat) (word : String) :
    openAfter depth (ofWord word).render.toList = openAfter depth word.toList := by
  unfold ofWord
  split_ifs with int float complex boolean text void any list dict
  all_goals try subst word
  all_goals try rfl
  rcases any with rfl | rfl
  all_goals rfl

/-- **The text of a type has the profile of every text that is read as the type.** -/
theorem openAfter_render (depth : Nat) (chars : List Char) :
    openAfter depth (readChars chars).render.toList = openAfter depth chars := by
  have unmarked (depth : Nat) : openAfter depth Ty.any.render.toList = some depth := rfl
  fun_induction readChars chars generalizing depth with
  | case1 chars inner found ih =>
    rw [openAfter_of_unwrapGeneric listHead_plain found]
    by_cases any : readChars inner = .any
    · -- A parameter that is not written opens and closes nothing.
      rw [any] at ih ⊢
      rw [← ih, unmarked]
      rfl
    · rw [toList_render_list any, openAfter_append, openAfter_of_plain listHead_plain,
        Option.bind_some, openAfter_wrapped, ih]
  | case2 chars noList inner found left right parts ihKey ihValue =>
    obtain ⟨rfl, -⟩ := splitAtComma_eq_some_iff.mp parts
    rw [openAfter_of_unwrapGeneric dictHead_plain found, openAfter_append]
    by_cases any : readChars left = .any ∧ readChars right = .any
    · obtain ⟨anyKey, anyValue⟩ := any
      rw [anyKey] at ihKey ⊢
      rw [anyValue] at ihValue ⊢
      rw [← ihKey, unmarked, Option.bind_some, openAfter_comma, ← ihValue, unmarked]
      rfl
    · -- What stands behind the comma counts only where the comma stands inside brackets.
      have behind (depth : Nat) : openAfter depth (',' :: ' ' :: (readChars right).render.toList) =
          openAfter depth (',' :: right) := by
        simp only [openAfter, openBehind]
        split
        · rfl
        · exact ihValue _
      rw [toList_render_dict any, openAfter_append, openAfter_of_plain dictHead_plain,
        Option.bind_some, openAfter_wrapped, openAfter_append, ihKey]
      simp only [behind]
  | case3 chars noList inner found noParts =>
    rw [render, String.toList_ofList, openAfter_trim]
  | case4 chars noList noDict =>
    rw [openAfter_render_ofWord, String.toList_ofList, openAfter_trim]

/-- The types that are written as one word. -/
def simples : List Ty :=
  [.int, .float, .complex, .boolean, .text, .void, .any, .anyList, .anyDict]

/-- A type that is written as one word is read off it. -/
theorem readChars_word {type : Ty} (mem : type ∈ simples) :
    readChars type.render.toList = type := by
  have each : ∀ type ∈ simples,
      unwrapGeneric "list".toList (trim type.render.toList) = none ∧
      unwrapGeneric "dict".toList (trim type.render.toList) = none ∧
      ofWord (String.ofList (trim type.render.toList)) = type := by
    simp only [simples, List.forall_mem_cons]
    refine ⟨?_, ?_, ?_, ?_, ?_, ?_, ?_, ?_, ?_, fun _ none => nomatch none⟩
    all_goals cbv
  obtain ⟨noList, noDict, named⟩ := each type mem
  rw [readChars_eq, noList, noDict]
  exact named

/-- A word names one of these types, or it is the name of no type. -/
theorem ofWord_mem_simples (word : String) :
    ofWord word ∈ simples ∨ ofWord word = .unknown word := by
  unfold ofWord
  split_ifs
  all_goals first
    | exact .inl (by decide)
    | exact .inr rfl

/-- **The text of a type that was read is read as the same type.** -/
theorem readChars_render (chars : List Char) :
    readChars (readChars chars).render.toList = readChars chars := by
  fun_induction readChars chars with
  | case1 chars inner found ih =>
    by_cases any : readChars inner = .any
    · rw [any]
      exact readChars_word (by decide : anyList ∈ simples)
    · rw [toList_render_list any, readChars_list, ih]
  | case2 chars noList inner found left right parts ihKey ihValue =>
    by_cases any : readChars left = .any ∧ readChars right = .any
    · rw [any.1, any.2]
      exact readChars_word (by decide : anyDict ∈ simples)
    · -- The first parameter is written with the profile that it had, so the second starts there.
      have closed : openAfter 0 (readChars left).render.toList = some 0 := by
        rw [openAfter_render]
        exact (splitAtComma_eq_some_iff.mp parts).2
      rw [toList_render_dict any, readChars_dict closed, ihKey, readChars_of_trim (trim_space _),
        ihValue]
  | case3 chars noList inner found noParts =>
    rw [render, String.toList_ofList, readChars_trim, readChars_eq, noList, found]
    simp only [noParts]
  | case4 chars noList noDict =>
    rcases ofWord_mem_simples (String.ofList (trim chars)) with simple | unknown
    · exact readChars_word simple
    · have again : readChars (trim chars) = ofWord (String.ofList (trim chars)) := by
        rw [readChars_trim, readChars_eq, noList, noDict]
      rw [unknown, render, String.toList_ofList, again, unknown]

end Ty

end ReactiveScript
