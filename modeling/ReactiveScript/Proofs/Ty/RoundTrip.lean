import ReactiveScript.Proofs.Canonical.Words
import ReactiveScript.Proofs.Ty.Profile

/-! # Type texts are read back

The text of a type is read in two ways: as a whole, where brackets and commas are counted, and as
tokens of a source. Both give the type back, unless it holds a name that is no type. The first way
also takes any other text, and what it gives has a text that it reads in the same way. The main
statement is `type_text_read_back`. -/

namespace ReactiveScript

open Lexer

namespace Ty

/-! ## As a whole -/

/-- A type without unknown names is written with balanced brackets, and with commas only inside
them. -/
theorem openAfter_of_isKnown {type : Ty} (known : type.isKnown = true) (depth : Nat) :
    openAfter depth type.render.toList = some depth := by
  induction type generalizing depth with
  | unknown name => cases known
  | list element ih =>
    by_cases any : element = .any
    · subst any
      rfl
    · rw [toList_render_list any, openAfter_append, openAfter_of_plain listHead_plain,
        Option.bind_some, openAfter_wrapped, ih known]
      rfl
  | dict key value ihKey ihValue =>
    rw [isKnown, Bool.and_eq_true] at known
    by_cases any : key = .any ∧ value = .any
    · obtain ⟨rfl, rfl⟩ := any
      rfl
    · have space (depth : Nat) (chars : List Char) :
          openAfter depth (' ' :: chars) = openAfter depth chars := rfl
      rw [toList_render_dict any, openAfter_append, openAfter_of_plain dictHead_plain,
        Option.bind_some, openAfter_wrapped, openAfter_append, ihKey known.1, Option.bind_some,
        openAfter_comma, space, ihValue known.2]
      rfl
  | _ => rfl

/-- **A type without unknown names is read off its text.** -/
theorem readChars_of_isKnown {type : Ty} (known : type.isKnown = true) :
    readChars type.render.toList = type := by
  induction type with
  | unknown name => cases known
  | list element ih =>
    by_cases any : element = .any
    · subst any
      exact readChars_word (by decide : anyList ∈ simples)
    · rw [toList_render_list any, readChars_list, ih known]
  | dict key value ihKey ihValue =>
    rw [isKnown, Bool.and_eq_true] at known
    by_cases any : key = .any ∧ value = .any
    · obtain ⟨rfl, rfl⟩ := any
      exact readChars_word (by decide : anyDict ∈ simples)
    · rw [toList_render_dict any, readChars_dict (openAfter_of_isKnown known.1 0), ihKey known.1,
        readChars_of_trim (Text.trim_space _), ihValue known.2]
  | _ => exact readChars_word (by decide)

/-! ## As tokens -/

/-- What stands behind a type inside another type, or nothing. -/
def Closes (follow : List Char) : Prop := ∀ c ∈ follow.head?, c ∈ [',', '>']

/-- A text of a type starts with no equals sign. -/
theorem head?_render_ne {type : Ty} (known : type.isKnown = true) (follow : List Char) :
    (type.render.toList ++ follow).head? ≠ some '=' := by
  cases type with
  | unknown name => cases known
  | list element =>
    by_cases any : element = .any
    · subst any
      simp [render, isAny]
    · rw [toList_render_list any]
      simp
  | dict key value =>
    by_cases any : key = .any ∧ value = .any
    · obtain ⟨rfl, rfl⟩ := any
      simp [render, isAny]
    · rw [toList_render_dict any]
      simp
  | _ => simp [render]

/-- A bracket is read alone where no equals sign follows. -/
theorem scans_bracket {c : Char} {follow : List Char} {words : List Word} (bracket : c ∈ ['<', '>'])
    (alone : follow.head? ≠ some '=') (rest : Scans false follow words) :
    Scans false (c :: follow) (.symbol (String.ofList [c]) :: words) := by
  have either : c = '<' ∨ c = '>' := by simpa using bracket
  have assign : c ∈ assignSymbols := by
    rcases either with rfl | rfl <;> decide
  have apart : c ≠ '.' ∧ c ≠ '-' ∧ c ≠ '/' := by
    rcases either with rfl | rfl <;> decide
  have symbol : [c] ∈ symbols := by simp [symbols, assign]
  have found : symbolPiece c follow = some (.token .symbol (String.ofList [c]) 0) := by
    simp [symbolPiece, apart, assign, alone]
  exact Scans.token (.symbol (String.ofList [c])) [] rest
    (piece_symbol symbol (fun h => apart.2.2 h.1) (by simp) found)

/-- **The text of a type is read as its words**, wherever the type may end. -/
theorem scans_render {type : Ty} (known : type.isKnown = true) {follow : List Char}
    {words : List Word} (closes : Closes follow) (rest : Scans false follow words) :
    Scans false (type.render.toList ++ follow) (type.words ++ words) := by
  have stops {follow : List Char} (closes : Closes follow) : Stops continuesName follow := by
    intro c head
    have either : c = ',' ∨ c = '>' := by simpa using closes c head
    rcases either with rfl | rfl <;> decide
  have cons {c : Char} {follow : List Char} (h : c ∈ [',', '>']) : Closes (c :: follow) := by
    intro d head
    obtain rfl : c = d := by simpa using head
    exact h
  have alone {follow : List Char} (closes : Closes follow) : follow.head? ≠ some '=' := by
    intro head
    exact absurd (closes _ head) (by decide)
  have opened (inner : List Char) : Stops continuesName ('<' :: inner) := stops_cons (by decide)
  induction type generalizing follow words with
  | unknown name => cases known
  | any => exact rest.plainSymbol (by decide)
  | list element ih =>
    have known : element.isKnown = true := known
    by_cases any : element = .any
    · subst any
      exact rest.keyword (by decide : isKeyword "list" = true) rfl (stops closes)
    · -- The tokens are put in front of each other from the last to the first.
      have closing := scans_bracket (by decide : '>' ∈ ['<', '>']) (alone closes) rest
      have inside := ih known (cons (by decide)) closing
      have opening := scans_bracket (by decide : '<' ∈ ['<', '>']) (head?_render_ne known _) inside
      have whole := opening.keyword (by decide : isKeyword "list" = true) rfl (opened _)
      have spelled : (Ty.list element).words =
          (.keyword, "list") :: Word.symbol "<" :: (element.words ++ [Word.symbol ">"]) := by
        rw [Ty.words, isAny, if_neg (by simpa using any)]
      rw [toList_render_list any, spelled]
      simpa using whole
  | dict key value ihKey ihValue =>
    rw [isKnown, Bool.and_eq_true] at known
    by_cases any : key = .any ∧ value = .any
    · obtain ⟨rfl, rfl⟩ := any
      exact rest.keyword (by decide : isKeyword "dict" = true) rfl (stops closes)
    · have closing := scans_bracket (by decide : '>' ∈ ['<', '>']) (alone closes) rest
      have second := ihValue known.2 (cons (by decide)) closing
      have between := second.space.plainSymbol (by decide : ',' ∈ plainSymbols)
      have first := ihKey known.1 (cons (by decide)) between
      have opening :=
        scans_bracket (by decide : '<' ∈ ['<', '>']) (head?_render_ne known.1 _) first
      have whole := opening.keyword (by decide : isKeyword "dict" = true) rfl (opened _)
      have spelled : (Ty.dict key value).words = (.keyword, "dict") :: Word.symbol "<" ::
          (key.words ++ Word.symbol "," :: (value.words ++ [Word.symbol ">"])) := by
        rw [Ty.words, isAny, isAny, if_neg (by simpa using any)]
      rw [toList_render_dict any, spelled]
      simpa using whole
  | _ => exact rest.keyword rfl rfl (stops closes)

/-- **A type without unknown names is read off the tokens of its text**, all of which are taken. -/
theorem exists_stream {type : Ty} (known : type.isKnown = true) :
    ∃ stream, TokenStream.ofSource type.render = .ok stream ∧
      stream.ahead.map Token.word = type.words ∧
      Parse.type.run stream = .ok (type, { stream with ahead := [] }) := by
  have ends : Closes [] := by
    intro c head
    cases head
  -- Nothing stands behind the type, so the tokens are those of its words.
  obtain ⟨tokens, ending, read, spelled⟩ := scans_render known ends scans_nil .start
  rw [List.append_nil] at read spelled
  refine ⟨⟨tokens, ending.span⟩, ?_, spelled, ?_⟩
  · rw [TokenStream.ofSource, read]
    rfl
  · have taken : (Parse.typeWithin (tokens.length + 1)).run ⟨tokens ++ [], ending.span⟩ =
        .ok (type, ⟨[], ending.span⟩) :=
      (Parse.ReadsType.of_words known spelled).run [] ending.span _ (Nat.le_succ tokens.length) rfl
    rw [List.append_nil] at taken
    exact taken

end Ty

/-- **Type texts are read back.** A type without unknown names is read off its text, both as a whole
and as tokens, of which none is left. And whatever a text is, however its brackets and commas stand,
the text of the type that it is read as is read as the same type. -/
theorem type_text_read_back :
    (∀ type : Ty, type.isKnown = true → Ty.read type.render = type ∧
      ∃ stream, TokenStream.ofSource type.render = .ok stream ∧
        Parse.type.run stream = .ok (type, { stream with ahead := [] })) ∧
    ∀ text : String, Ty.read (Ty.read text).render = Ty.read text := by
  constructor
  · intro type known
    obtain ⟨stream, tokens, -, parsed⟩ := Ty.exists_stream known
    exact ⟨Ty.readChars_of_isKnown known, stream, tokens, parsed⟩
  · intro text
    exact Ty.readChars_render text.toList

/-- A nested type is read off its text, and a text with brackets that do not match is read as a type
that is read off its own text. -/
theorem unmatched_text_read_back :
    (Ty.dict .text (.list (.list .any))).isKnown = true ∧
      Ty.read (Ty.dict .text (.list (.list .any))).render = .dict .text (.list (.list .any)) ∧
      Ty.read (Ty.read "dict< list<a>>b ,c<d,e>").render = Ty.read "dict< list<a>>b ,c<d,e>" :=
  ⟨rfl, (type_text_read_back.1 _ rfl).1, type_text_read_back.2 _⟩

end ReactiveScript
