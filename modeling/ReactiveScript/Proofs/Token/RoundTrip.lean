import ReactiveScript.Proofs.Token.Piece

/-! # Written sources are read back

Words with gaps between them are read as exactly these words and the end of the source. What is
carried along a source is whether a path may follow (`Scans`): a gap hands it on, and every word
sets it anew. The main statement is `ofSource_writtenSource`. -/

namespace ReactiveScript

open Lexer

/-- From here on the characters are read as tokens with the given words. -/
def Scans (pathOpen : Bool) (chars : List Char) (words : List Word) : Prop :=
  ∀ place, ∃ tokens ending, scan place pathOpen chars = .ok (tokens, ending) ∧
    tokens.map Token.word = words

variable {pathOpen : Bool} {first : Char} {more follow : List Char} {words : List Word}

/-! ## Steps -/

/-- A piece of known length is read, and then what follows it. -/
theorem scan_append {found : Piece} (h : piece pathOpen first (more ++ follow) = .ok found)
    (extra : found.extra = more.length) (place : Place) :
    scan place pathOpen (first :: (more ++ follow)) =
      (scan (place.after (first :: more)) (found.opensPath pathOpen) follow).map
        fun (tokens, ending) => (found.tokens place ++ tokens, ending) := by
  rw [scan, h]
  simp only [extra, List.take_left, List.drop_left]
  cases scan (place.after (first :: more)) (found.opensPath pathOpen) follow <;> rfl

/-- Nothing is read at the end. -/
theorem scans_nil : Scans pathOpen [] [] := by
  intro place
  exact ⟨[], place, by rw [scan], rfl⟩

/-- **A step over a gap.** No word is read, and a path may follow if it might before. -/
theorem Scans.gap (rest : Scans pathOpen follow words) (more : List Char)
    (h : piece pathOpen first (more ++ follow) = .ok (.gap more.length)) :
    Scans pathOpen (first :: more ++ follow) words := by
  intro place
  obtain ⟨tokens, ending, read, spelled⟩ := rest (place.after (first :: more))
  refine ⟨tokens, ending, ?_, spelled⟩
  rw [List.cons_append, scan_append h rfl]
  exact congrArg (Except.map _) read

/-- **A step over a word.** The word is read, and it alone says whether a path may follow. -/
theorem Scans.word {word : Word} {chars : List Char} (rest : Scans word.opensPath follow words)
    (h : ReadsAs pathOpen chars word) (closed : Closed follow) :
    Scans pathOpen (chars ++ follow) (word :: words) := by
  obtain ⟨first, more, rfl, reads⟩ := h
  intro place
  obtain ⟨tokens, ending, read, spelled⟩ := rest (place.after (first :: more))
  refine ⟨⟨word.1, word.2, place.span⟩ :: tokens, ending, ?_, by rw [← spelled]; rfl⟩
  rw [List.cons_append, scan_append (reads follow closed) rfl]
  exact congrArg (Except.map _) read

/-! ## Gaps -/

/-- A comment between marks ends at its first closing mark. -/
theorem blockComment_append {content : List Char} (h : ¬ ['*', '/'] <:+: content) :
    blockComment (content ++ '*' :: '/' :: follow) = some (content.length + 2) := by
  induction content with
  | nil => rfl
  | cons c rest ih =>
    have behind : ¬ ['*', '/'] <:+: rest := fun inner => h (List.infix_cons inner)
    have step : blockComment (c :: (rest ++ '*' :: '/' :: follow)) =
        (blockComment (rest ++ '*' :: '/' :: follow)).map (· + 1) := by
      rw [blockComment]
      rintro more rfl same
      -- A closing mark that starts here would lie inside the comment.
      cases rest with
      | nil => simp at same
      | cons d rest =>
        obtain ⟨rfl, -⟩ : d = '/' ∧ rest ++ '*' :: '/' :: follow = more := by simpa using same
        exact h ⟨[], rest, rfl⟩
    rw [List.cons_append, step, ih behind]
    rfl

/-- A blank is a piece of its own. -/
theorem piece_blank {c : Char} {rest : List Char} (h : c ∈ [' ', '\r', '\t', '\n']) :
    piece pathOpen c rest = .ok (.gap 0) := by
  have blank : isGap c = true := by simpa [isGap, or_assoc] using h
  rw [piece, if_pos blank]

/-- A comment on a line is a piece without the end of the line. -/
theorem piece_line {content : List Char} (h : '\n' ∉ content) :
    piece pathOpen '#' (content ++ '\n' :: follow) = .ok (.gap content.length) := by
  have start : piece pathOpen '#' (content ++ '\n' :: follow) =
      .ok (.gap ((content ++ '\n' :: follow).takeWhile (· ≠ '\n')).length) := rfl
  have all : content.all (fun c => c ≠ '\n') = true := by
    rw [List.all_eq_true]
    intro c mem
    exact decide_eq_true fun same => h (same ▸ mem)
  have stops : Stops (fun c => c ≠ '\n') ('\n' :: follow) := stops_cons rfl
  rw [start, takeWhile_run all stops]

/-- A comment between marks is a piece with its marks. -/
theorem piece_block {content : List Char} (h : ¬ ['*', '/'] <:+: content) :
    piece pathOpen '/' ('*' :: (content ++ ['*', '/']) ++ follow) =
      .ok (.gap ('*' :: (content ++ ['*', '/'])).length) := by
  have inside : ('*' :: (content ++ ['*', '/']) ++ follow).drop 1 =
      content ++ '*' :: '/' :: follow := by simp
  rw [piece, if_neg (by decide), if_neg (by decide), if_pos ⟨rfl, rfl⟩, inside,
    blockComment_append h]
  simp

/-- **A gap is passed over.** -/
theorem Scans.gapBefore {gap : Gap} (rest : Scans pathOpen follow words) (h : gap.Valid) :
    Scans pathOpen (gap.source ++ follow) words := by
  cases gap with
  | blank c => exact rest.gap [] (piece_blank h)
  | line content =>
    -- The end of the line is no part of the comment but a blank behind it.
    have newline : Scans pathOpen ('\n' :: follow) words := rest.gap [] (piece_blank (by decide))
    have comment : Scans pathOpen ('#' :: content ++ '\n' :: follow) words :=
      newline.gap content (piece_line h)
    rw [Gap.source, List.cons_append, List.append_assoc]
    exact comment
  | block content => exact rest.gap _ (piece_block h)

/-- So are several gaps. -/
theorem Scans.gapsBefore {gaps : List Gap} (rest : Scans pathOpen follow words)
    (h : ∀ gap ∈ gaps, gap.Valid) : Scans pathOpen (gapSource gaps ++ follow) words := by
  induction gaps with
  | nil => exact rest
  | cons gap gaps ih =>
    have behind := ih fun gap mem => h gap (List.mem_cons_of_mem _ mem)
    have before := behind.gapBefore (h gap List.mem_cons_self)
    rw [gapSource, List.flatMap_cons, List.append_assoc]
    exact before

/-- A gap starts as gaps do. -/
theorem Gap.Valid.closed {gap : Gap} (h : gap.Valid) : Closed (gap.source ++ follow) := by
  intro c head
  cases gap with
  | blank d =>
    obtain rfl : d = c := by simpa [Gap.source] using head
    exact List.mem_append_left ['#', '/'] h
  | line content =>
    obtain rfl : '#' = c := by simpa [Gap.source] using head
    decide
  | block content =>
    obtain rfl : '/' = c := by simpa [Gap.source] using head
    decide

/-! ## Whole sources -/

/-- Behind a word stands a gap or nothing at all. -/
theorem closed_behind {gaps : List Gap} {rest : List Written} (h : ∀ gap ∈ gaps, gap.Valid)
    (apart : rest ≠ [] → gaps ≠ []) : Closed (gapSource gaps ++ rest.flatMap Written.source) := by
  cases gaps with
  | nil =>
    -- Without a gap the word is the last one.
    obtain rfl : rest = [] := Classical.byContradiction fun more => apart more rfl
    intro c head
    cases head
  | cons gap gaps =>
    rw [gapSource, List.flatMap_cons, List.append_assoc]
    exact (h gap List.mem_cons_self).closed

/-- **Words with gaps between them are read as these words.** -/
theorem Written.Sequence.scans {written : List Written} (h : Written.Sequence pathOpen written) :
    Scans pathOpen (written.flatMap Written.source) (written.map Written.word) := by
  induction h with
  | nil => exact scans_nil
  | @cons pathOpen first rest valid apart behind ih =>
    rw [List.flatMap_cons, List.map_cons, Written.source, List.append_assoc]
    have closed := closed_behind valid.gaps apart
    exact (ih.gapsBefore valid.gaps).word (valid.word.readsAs valid.quote) closed

/-- **Reading inverts writing.** Words that can be written one behind the other, in quotes of either
kind and with any gaps before, between and behind them, are read as tokens with exactly these words,
and then the end of the source. -/
theorem ofSource_writtenSource {lead : List Gap} {written : List Written}
    (gaps : ∀ gap ∈ lead, gap.Valid) (valid : Written.Sequence false written) :
    ∃ stream, TokenStream.ofSource (writtenSource lead written) = .ok stream ∧
      stream.toList.map Token.word = written.map Written.word ++ [(.ending, "")] := by
  obtain ⟨tokens, ending, read, spelled⟩ := (valid.scans.gapsBefore gaps) .start
  refine ⟨⟨tokens, ending.span⟩, ?_, ?_⟩
  · rw [TokenStream.ofSource, writtenSource, String.toList_ofList, read]
    rfl
  · rw [TokenStream.toList, List.map_append, spelled]
    rfl

/-- A source with a word of every class. -/
def sampleWritten : List Written :=
  [⟨(.keyword, "import"), '"', [.blank ' ', .block "a < b".toList]⟩,
    ⟨(.path, "math:lib"), '"', [.line " why".toList]⟩,
    ⟨(.identifier, "x"), '"', [.blank '\t']⟩,
    ⟨(.symbol, "/"), '"', [.block "*".toList]⟩,
    ⟨(.number, "2"), '"', [.blank ' ']⟩,
    ⟨(.symbol, ".."), '"', [.blank ' ']⟩,
    ⟨(.imaginary, "1.5e-3"), '"', [.blank ' ']⟩,
    ⟨(.text, "it's \\ \"so\""), '\'', []⟩]

example : writtenSource [] sampleWritten =
    "import /*a < b*/<math:lib># why\nx\t//***/2 .. 1.5e-3j 'it\\'s \\\\ \"so\"'" := by decide

/-- Every word of the sample can be written where it stands. -/
theorem sampleWritten_sequence : Written.Sequence false sampleWritten := by
  have path : IsPath "math:lib".toList := ⟨by cbv, by decide, by decide⟩
  have numeral : IsNumeral "2".toList :=
    ⟨['2'], [], [], ⟨by decide, by decide⟩, .inl rfl, .inl rfl, rfl⟩
  have fraction : IsFraction ['.', '5'] := .inr ⟨['5'], ⟨by decide, by decide⟩, rfl⟩
  have exponent : IsExponent ['e', '-', '3'] :=
    .inr ⟨'e', by decide, ['-'], by decide, ['3'], ⟨by decide, by decide⟩, rfl⟩
  have imaginary : IsNumeral "1.5e-3".toList :=
    ⟨['1'], _, _, ⟨by decide, by decide⟩, fraction, exponent, rfl⟩
  refine .cons ⟨rfl, by decide, by decide⟩ (by decide) ?_
  refine .cons ⟨⟨rfl, path⟩, by decide, by decide⟩ (by decide) ?_
  refine .cons ⟨⟨⟨'x', [], by decide, by decide, rfl⟩, rfl⟩, by decide, by decide⟩ (by decide) ?_
  refine .cons ⟨⟨by decide, by decide⟩, by decide, by decide⟩ (by decide) ?_
  refine .cons ⟨numeral, by decide, by decide⟩ (by decide) ?_
  refine .cons ⟨⟨by decide, by decide⟩, by decide, by decide⟩ (by decide) ?_
  refine .cons ⟨imaginary, by decide, by decide⟩ (by decide) ?_
  exact .cons ⟨trivial, by decide, by decide⟩ (by decide) .nil

/-- The sample is read as its words. -/
theorem sampleWritten_read : ∃ stream,
    TokenStream.ofSource (writtenSource [] sampleWritten) = .ok stream ∧
      stream.toList.map Token.word = sampleWritten.map Written.word ++ [(.ending, "")] :=
  ofSource_writtenSource (by simp) sampleWritten_sequence

end ReactiveScript
