import ReactiveScript.Proofs.Place.Statement
import ReactiveScript.Proofs.Token.Cover

/-! # Every source is a program or has a syntax error in it

The tokens of a source and its ending stand inside the source, and so does what the lexer refuses.
With what the rules of the grammar yield this makes reading a source total: the main statement,
`readProgram_placed`, leaves no third answer beside a program all of whose places lie in the source
and a syntax error at such a place. -/

namespace ReactiveScript

open Lexer

/-! ## Places inside a text -/

/-- The characters of a line, counted from one, without its end. -/
def lineOf (chars : List Char) (line : Nat) : List Char := (chars.splitOn '\n').getD (line - 1) []

/-- **A place lies in a text**: on one of its lines, at one of the characters of the line or right
behind them. -/
structure Span.Within (chars : List Char) (span : Span) : Prop where
  /-- Lines are counted from one. -/
  line_pos : 1 ≤ span.line
  /-- There is a line more than line ends. -/
  line_le : span.line ≤ 1 + chars.count '\n'
  /-- The column is known, counted from one and at most one behind the line. -/
  column : ∃ column, span.column = some column ∧ 1 ≤ column ∧
    column ≤ 1 + (lineOf chars span.line).length

/-- There is a line more than line ends. -/
theorem length_splitOn (chars : List Char) :
    (chars.splitOn '\n').length = chars.count '\n' + 1 := by
  induction chars with
  | nil => rfl
  | cons c chars ih =>
    rw [List.splitOn_cons_eq_if_modifyHead]
    by_cases newline : c = '\n' <;> simp [newline, ih]

/-- The first line is what stands in front of the first line end. -/
theorem head?_splitOn (chars : List Char) :
    (chars.splitOn '\n').head? = some (chars.takeWhile (· ≠ '\n')) := by
  induction chars with
  | nil => rfl
  | cons c chars ih =>
    rw [List.splitOn_cons_eq_if_modifyHead]
    by_cases newline : c = '\n'
    · simp [newline]
    · simp [newline, ih]

/-- **The line that some characters end on** is what stands behind their last line end and goes on
up to the next one. -/
theorem exists_line (before rest : List Char) :
    ∃ line, ((before ++ rest).splitOn '\n')[before.count '\n']? = some line ∧
      line.length = (before.reverse.takeWhile (· ≠ '\n')).length +
        (rest.takeWhile (· ≠ '\n')).length := by
  induction before using List.reverseRecOn generalizing rest with
  | nil => exact ⟨_, (List.head?_eq_getElem? ..).symm.trans (head?_splitOn rest), by simp⟩
  | append_singleton before c ih =>
    rw [List.append_assoc, List.singleton_append]
    by_cases newline : c = '\n'
    · subst newline
      refine ⟨rest.takeWhile (· ≠ '\n'), ?_, by simp⟩
      rw [List.splitOn_append_cons_self, List.getElem?_append_right, length_splitOn]
      · simp [← List.head?_eq_getElem?, head?_splitOn]
      · simp [length_splitOn]
    · obtain ⟨line, found, length⟩ := ih (c :: rest)
      refine ⟨line, by simpa [newline] using found, ?_⟩
      simp [newline] at length ⊢
      omega

/-- **Every offset of a text has a place in it.** -/
theorem spanAt_within (chars : List Char) (offset : Nat) : (spanAt chars offset).Within chars := by
  obtain ⟨line, found, length⟩ := exists_line (chars.take offset) (chars.drop offset)
  rw [List.take_append_drop] at found
  refine ⟨Nat.le_add_right .., ?_, _, rfl, Nat.le_add_right .., ?_⟩
  · exact Nat.add_le_add_left ((List.take_sublist offset chars).count_le _) 1
  · have same : lineOf chars (spanAt chars offset).line = line := by
      simp [lineOf, spanAt, spanBehind, Span.at, List.getD, found]
    rw [same, length, ← Nat.add_assoc]
    exact Nat.le_add_right ..

/-! ## Tokens inside a text -/

/-- Tokens that cover a text stand in it. -/
theorem Covers.within {chars : List Char} {start : Nat} {tokens : List Token}
    {extents : List Extent} (h : Covers chars start tokens extents) :
    ∀ token ∈ tokens, token.span.Within chars := by
  induction h with
  | ending => exact nofun
  | token _ _ _ located _ ih =>
    exact List.forall_mem_cons.mpr ⟨located ▸ spanAt_within chars _, ih⟩

/-- **What the lexer refuses** stands in the text. -/
theorem scan_error {place : Place} {pathOpen : Bool} {rest : List Char} :
    ∀ {before : List Char} {fault : Fault},
      place = Place.start.after before → scan place pathOpen rest = .error fault →
        fault.kind = .syntaxError ∧ fault.span.Within (before ++ rest) := by
  induction place, pathOpen, rest using scan.induct with
  | case1 place pathOpen =>
    rintro before fault rfl h
    rw [scan] at h
    cases h
  | case2 place pathOpen first rest problem failed =>
    rintro before fault rfl h
    rw [scan, failed] at h
    cases h
    refine ⟨rfl, ?_⟩
    have here := spanAt_within (before ++ first :: rest) (before.length + problem.offset)
    rwa [spanAt, List.take_length_add_append, ← span_after_start, Place.after_append] at here
  | case3 place pathOpen first rest found read taken =>
    rename_i ih
    rintro before fault rfl h
    rw [scan, read] at h
    have later : scan ((Place.start.after before).after taken) (found.opensPath pathOpen)
        (rest.drop found.extra) = .error fault := by
      simp only [bind, Except.bind] at h
      split at h
      · rename_i problem failed
        cases h
        exact failed
      · cases h
    obtain ⟨kind, located⟩ := ih (Place.after_append ..).symm later
    refine ⟨kind, ?_⟩
    rwa [List.append_assoc, List.cons_append, List.take_append_drop] at located

/-- **A source is read as tokens that stand in it**, or refused at a place in it. -/
theorem ofSource_within (source : String) :
    (∃ stream, TokenStream.ofSource source = .ok stream ∧
        stream.Placed (Span.Within source.toList)) ∨
      ∃ fault, TokenStream.ofSource source = .error fault ∧ fault.kind = .syntaxError ∧
        fault.span.Within source.toList := by
  rw [TokenStream.ofSource]
  cases scanned : scan .start false source.toList with
  | ok found =>
    obtain ⟨tokens, ending⟩ := found
    obtain ⟨⟨extents, covered⟩, rfl⟩ := scan_covers (Place.after_nil _).symm scanned
    refine .inl ⟨_, rfl, covered.within, ?_⟩
    have here := spanAt_within source.toList source.toList.length
    rwa [spanAt, List.take_length, ← span_after_start] at here
  | error fault => exact .inr ⟨fault, rfl, scan_error (Place.after_nil _).symm scanned⟩

/-- **Reading a source is total, and its errors stand in the source.** Every source is a program, in
which every statement, expression and case has a place in the source, or it has a syntax error at
such a place. No rule is cut off: that would be a fault of another kind. -/
theorem readProgram_placed (source : String) :
    (∃ program, readProgram source = .ok program ∧
        ∀ statement ∈ program, statement.Placed (Span.Within source.toList)) ∨
      ∃ fault, readProgram source = .error fault ∧ fault.kind = .syntaxError ∧
        fault.span.Within source.toList := by
  obtain ⟨stream, read, placed⟩ | ⟨fault, refused, kind, located⟩ := ofSource_within source
  · have same : readProgram source = stream.program := by
      rw [readProgram, read]
      rfl
    rw [same]
    exact placed.program
  · exact .inr ⟨fault, by rw [readProgram, refused]; rfl, kind, located⟩

end ReactiveScript
