import ReactiveScript.Proofs.Grammar.Simple

/-! # Printed programs are read back

Every form of statement is read off the words that it is printed as, if the expressions in it are
read off theirs. `Stmt.Readable` says so of one statement with enough fuel; a form whose parts are
readable is readable, and so all statements are, by induction on the tree. The main statement is
`program_words`. -/

namespace ReactiveScript

open Parse

/-- **A statement is readable**: its first word starts a statement, and the statement is read off
its words, but for its places, before anything but an alternative. -/
structure Stmt.Readable (spell : Expr → List Word) (statement : Stmt) : Prop where
  /-- The first word. -/
  begins : Meets (statement.words spell) (fun _ => True) fun token => token.begins = true
  /-- All words, with enough fuel. -/
  takes : ∀ fuel, 4 * (statement.words spell).length ≤ fuel →
    Takes (statementWithin fuel) (statement.words spell) (fun token => token.is "else" = false)
      fun read => read.bare = statement.bare

variable {spell : Expr → List Word} {fuel : Nat} {body : List Stmt}

/-! ## Simple statements -/

/-- A simple statement is printed before a semicolon. -/
theorem Stmt.words_of_isSimple {statement : Stmt} (simple : statement.isSimple = true) :
    statement.words spell = statement.simpleWords spell ++ [.symbol ";"] := by
  cases statement with
  | expression | declaration | assignment | compound | element => rfl
  | _ => cases simple

/-- A semicolon may stand behind a simple statement. -/
theorem Token.ends_semicolon (span : Span) : (Token.mk .symbol ";" span).Ends :=
  ⟨rfl, rfl, rfl⟩

/-- **Simple statements are readable.** -/
theorem SpellsSimple.readable {statement : Stmt} (simple : statement.isSimple = true)
    (h : SpellsSimple (statement.simpleWords spell) statement) : statement.Readable spell := by
  constructor
  · rw [Stmt.words_of_isSimple simple]
    exact h.begins (.cons Token.ends_semicolon)
  · rw [Stmt.words_of_isSimple simple]
    intro fuel enough
    rw [List.length_append, List.length_singleton] at enough
    obtain ⟨fuel, rfl⟩ : ∃ n, fuel = n + 1 := ⟨fuel - 1, by omega⟩
    have taken : Takes (Parse.simple >>= fun statement => expect ";" "after statement" >>= fun _ =>
        pure statement) (statement.simpleWords spell ++ [.symbol ";"])
        (fun token => token.is "else" = false) fun read => read.bare = statement.bare :=
      .bind h.takes (.cons Token.ends_semicolon) fun read same => .expect_bind (.pure same)
    refine taken.of_run_eq fun tokens rest ending spelled _ => ?_
    obtain ⟨first, more, rfl, spelledFirst, spelledLast⟩ := List.map_eq_append_iff.mp spelled
    obtain ⟨⟨kind, lexeme, span⟩, rfl, word⟩ := List.map_eq_singleton_iff.mp spelledLast
    cases word
    rw [List.append_assoc, List.singleton_append]
    have heads := h.heads first (⟨.symbol, ";", span⟩ :: rest) ending spelledFirst
      (Token.ends_semicolon span)
    exact heads.run_statement fuel

/-! ## Bodies -/

/-- A readable statement takes at least one word. -/
theorem Stmt.Readable.length_pos {statement : Stmt} (h : statement.Readable spell) :
    1 ≤ (statement.words spell).length := by
  cases same : statement.words spell with
  | nil =>
    have begins := h.begins
    rw [same] at begins
    cases begins [] [] .unknown rfl trivial
  | cons word more => exact Nat.succ_le_succ (Nat.zero_le _)

/-- Where a readable statement stands, none of the words that go on behind one does. -/
theorem Stmt.Readable.other {statement : Stmt} (h : statement.Readable spell)
    {follow : Token → Prop} {others : List Word} {text : String}
    (mem : text ∈ [";", "\x7d", "case", "default", "break", "else"]) :
    Meets (statement.words spell ++ others) follow fun token => token.is text = false := by
  have begins : Meets (statement.words spell ++ others) follow fun token => token.begins = true :=
    .append h.begins
  exact begins.imp fun _ h => Token.is_of_begins h mem

/-- Where a readable statement stands, the source has not ended. -/
theorem Stmt.Readable.unended {statement : Stmt} (h : statement.Readable spell)
    {follow : Token → Prop} {others : List Word} :
    Meets (statement.words spell ++ others) follow
      fun token => decide (token.kind = .ending) = false := by
  have begins : Meets (statement.words spell ++ others) follow fun token => token.begins = true :=
    .append h.begins
  exact begins.imp fun _ h => Token.kind_of_begins h

/-- Where statements and something that is no alternative follow, no alternative does. -/
theorem Parse.Meets.statements {others : List Word} {follow : Token → Prop}
    (h : ∀ statement ∈ body, statement.Readable spell)
    (stops : Meets others follow fun token => token.is "else" = false) :
    Meets (Stmt.wordsOf spell body ++ others) follow fun token => token.is "else" = false := by
  cases body with
  | nil => exact stops
  | cons first rest =>
    rw [Stmt.wordsOf, List.append_assoc]
    exact (h first List.mem_cons_self).other (by decide)

/-- **Statements before the closing brace.** -/
theorem takes_statements (h : ∀ statement ∈ body, statement.Readable spell)
    (enough : 4 * (Stmt.wordsOf spell body).length + 1 ≤ fuel) :
    Takes (statementsWithin fuel) (Stmt.wordsOf spell body ++ [.symbol "\x7d"]) (fun _ => True)
      fun read => Stmt.bareAll read = Stmt.bareAll body := by
  induction body generalizing fuel with
  | nil =>
    obtain ⟨fuel, rfl⟩ : ∃ n, fuel = n + 1 := ⟨fuel - 1, by omega⟩
    rw [Stmt.wordsOf, List.nil_append, statementsWithin]
    refine .sees_bind (.cons fun _ => rfl) (.seesEnd_bind (.cons fun _ => rfl) ?_)
    exact .expect_bind (.pure rfl)
  | cons first rest ih =>
    have readable := h first List.mem_cons_self
    have others := fun statement mem => h statement (List.mem_cons_of_mem first mem)
    have positive := readable.length_pos
    rw [Stmt.wordsOf, List.length_append] at enough
    obtain ⟨fuel, rfl⟩ : ∃ n, fuel = n + 1 := ⟨fuel - 1, by omega⟩
    rw [Stmt.wordsOf, List.append_assoc, statementsWithin]
    refine .sees_bind (readable.other (by decide)) (.seesEnd_bind readable.unended ?_)
    refine .bind (readable.takes fuel (by omega))
      (.statements others (.cons fun _ => rfl)) fun read same => ?_
    refine .last (ih others (by omega)) (fun _ _ => trivial) fun reads sames => .pure ?_
    rw [Stmt.bareAll, Stmt.bareAll, same, sames]

/-- **Statements in braces.** -/
theorem takes_block (h : ∀ statement ∈ body, statement.Readable spell)
    (enough : 4 * (Stmt.wordsOf spell body).length + 2 ≤ fuel) :
    Takes (blockWithin fuel) (braced (Stmt.wordsOf spell body)) (fun _ => True)
      fun read => Stmt.bareAll read = Stmt.bareAll body := by
  obtain ⟨fuel, rfl⟩ : ∃ n, fuel = n + 1 := ⟨fuel - 1, by omega⟩
  rw [blockWithin, braced]
  exact .expect_bind (takes_statements h (by omega))

/-- **Statements before the break of a case.** -/
theorem takes_caseBody (h : ∀ statement ∈ body, statement.Readable spell)
    (enough : 4 * (Stmt.wordsOf spell body).length + 1 ≤ fuel) :
    Takes (caseBodyWithin fuel) (Stmt.wordsOf spell body ++ [.keyword "break", .symbol ";"])
      (fun _ => True) fun read => Stmt.bareAll read = Stmt.bareAll body := by
  induction body generalizing fuel with
  | nil =>
    obtain ⟨fuel, rfl⟩ : ∃ n, fuel = n + 1 := ⟨fuel - 1, by omega⟩
    rw [Stmt.wordsOf, List.nil_append, caseBodyWithin]
    refine .sees_bind (.cons fun _ => rfl) (.sees_bind (.cons fun _ => rfl) ?_)
    refine .sees_bind (.cons fun _ => rfl) (.seesEnd_bind (.cons fun _ => rfl) ?_)
    exact .accept_bind (fun _ => rfl) (.expect_bind (.pure rfl))
  | cons first rest ih =>
    have readable := h first List.mem_cons_self
    have others := fun statement mem => h statement (List.mem_cons_of_mem first mem)
    have positive := readable.length_pos
    rw [Stmt.wordsOf, List.length_append] at enough
    obtain ⟨fuel, rfl⟩ : ∃ n, fuel = n + 1 := ⟨fuel - 1, by omega⟩
    rw [Stmt.wordsOf, List.append_assoc, caseBodyWithin]
    refine .sees_bind (readable.other (by decide)) (.sees_bind (readable.other (by decide)) ?_)
    refine .sees_bind (readable.other (by decide)) (.seesEnd_bind readable.unended ?_)
    refine .accept_bind_other (readable.other (by decide)) ?_
    refine .bind (readable.takes fuel (by omega))
      (.statements others (.cons fun _ => rfl)) fun read same => ?_
    refine .last (ih others (by omega)) (fun _ _ => trivial) fun reads sames => .pure ?_
    rw [Stmt.bareAll, Stmt.bareAll, same, sames]

/-! ## Parts of statements -/

/-- A count is read off its decimal digits. -/
theorem Number.readNatural_repr (count : Nat) : readNatural count.repr.toList = some count := by
  rw [Nat.toList_repr]
  have digits : ∀ c ∈ Nat.toDigits 10 count, c.isDigit = true :=
    fun c mem => Nat.isDigit_of_mem_toDigits (by decide) (by decide) mem
  rw [readNatural, if_pos ⟨Nat.toDigits_ne_nil, List.all_eq_true.mpr digits⟩, naturalOf,
    ← Nat.ofDigitChars_eq_foldl, Nat.ofDigitChars_toDigits (by decide) (by decide)]

/-- The count between a loop's condition and its body. -/
theorem takes_preroll {count : Nat} (small : count < prerollBound) :
    Takes preroll (prerollWords count) (fun token => token.is ":" = false) (· = count) := by
  unfold preroll prerollWords
  split
  · rename_i zero
    exact .accept_bind_other (.nil fun _ h => h) (.pure zero.symm)
  · refine .accept_bind (fun _ => rfl) (.peek_bind fun place => ?_)
    have read : (some count).filter (· < prerollBound) = some count := by simp [small]
    simp only [if_true, Number.readNatural_repr, read]
    exact .advance_bind (.pure rfl)

/-- The name of a handler in parentheses. -/
theorem takes_handlerName (keyword : Token) (name : String) :
    Takes (handlerName keyword) [.symbol "(", .name name, .symbol ")"] (fun _ => True)
      (· = name) := by
  unfold handlerName
  exact .accept_bind (fun _ => rfl) (.identifier_bind (.expect_bind (.pure rfl)))

/-- The head of a loop over a container. -/
theorem takes_forEachHead_bind {β : Type} {type : Ty} (known : type.isKnown = true) {name : String}
    {next : Option (Ty × String) → Parse β} {words : List Word} {follow : Token → Prop}
    {wanted : β → Prop} (h : Takes (next (some (type, name))) words follow wanted) :
    Takes (forEachHead >>= next) (type.words ++ .name name :: .keyword "in" :: words) follow
      wanted := by
  have head : Takes forEachHead (type.words ++ [.name name, .keyword "in"]) (fun _ => True)
      (· = some (type, name)) := by
    unfold forEachHead
    refine .keep_bind fun start => .peek_bind_of (.type known) fun token typed => ?_
    rw [if_pos typed]
    refine .type_bind known (.cons fun _ => rfl) (.get_bind fun stream _ _ first second => ?_)
    rw [if_pos (by rw [first, second]; rfl), first]
    exact .advance_bind (.advance_bind (.pure rfl))
  have both : Takes (forEachHead >>= next) ((type.words ++ [.name name, .keyword "in"]) ++ words)
      follow wanted := head.bind .any fun _ same => same ▸ h
  rwa [List.append_assoc] at both

/-- At least one parameter. -/
theorem takes_paramsWithin {params : List Param} (some : params ≠ [])
    (typed : ∀ param ∈ params, param.type.isKnown = true)
    (enough : (separated (params.map Param.words)).length ≤ fuel) :
    Takes (paramsWithin fuel) (separated (params.map Param.words))
      (fun token => token.is "," = false) (· = params) := by
  induction params generalizing fuel with
  | nil => exact absurd rfl some
  | cons param params ih =>
    have known := typed param List.mem_cons_self
    cases params with
    | nil =>
      simp only [List.map_cons, List.map_nil, separated, Param.words, List.length_append,
        List.length_singleton] at enough ⊢
      obtain ⟨fuel, rfl⟩ : ∃ n, fuel = n + 1 := ⟨fuel - 1, by omega⟩
      rw [paramsWithin]
      refine .type_bind known (.cons fun _ => rfl) (.identifier_bind ?_)
      exact .accept_bind_other (.nil fun _ other => other) (.pure rfl)
    | cons next params =>
      rw [List.map_cons, List.map_cons, separated, Param.words, List.length_append,
        List.length_append, List.length_singleton, ← List.map_cons] at enough
      obtain ⟨fuel, rfl⟩ : ∃ n, fuel = n + 1 := ⟨fuel - 1, by omega⟩
      have others : Takes (paramsWithin fuel) _ _ _ :=
        ih (List.cons_ne_nil _ _) (fun param mem => typed param (List.mem_cons_of_mem _ mem))
          (by rw [List.length_cons] at enough; omega)
      rw [List.map_cons, List.map_cons, separated, Param.words, ← List.map_cons, List.append_assoc,
        List.singleton_append, paramsWithin]
      refine .type_bind known (.cons fun _ => rfl) (.identifier_bind ?_)
      refine .accept_bind (fun _ => rfl) ?_
      refine .last others (fun _ other => other) fun _ same => .pure ?_
      rw [same]

/-- The parameters of a function. -/
theorem takes_params_bind {β : Type} {params : List Param}
    (typed : ∀ param ∈ params, param.type.isKnown = true) {next : List Param → Parse β}
    {words : List Word} {follow : Token → Prop} {wanted : β → Prop}
    (h : Takes (next params) words follow wanted) :
    Takes (Parse.params >>= next)
      (parenthesizedWords (separated (params.map Param.words)) words) follow wanted := by
  unfold Parse.params parenthesizedWords
  rw [bind_assoc]
  refine .expect_bind ?_
  rw [bind_assoc]
  cases params with
  | nil =>
    refine .sees_bind (.cons fun _ => rfl) ?_
    simp only [if_true, bind_assoc, pure_bind]
    exact .expect_bind h
  | cons param params =>
    -- A parameter starts with its type, so the parentheses do not close at once.
    obtain ⟨more, split⟩ : ∃ more, separated ((param :: params).map Param.words) =
        param.type.words ++ more := by
      cases params with
      | nil => exact ⟨_, rfl⟩
      | cons next params => exact ⟨_, List.append_assoc ..⟩
    have unclosed {words : List Word} {follow : Token → Prop} :
        Meets (separated ((param :: params).map Param.words) ++ words) follow
          fun token => token.is ")" = false := by
      rw [split, List.append_assoc]
      refine (Meets.type (typed param List.mem_cons_self)).imp fun token starts => ?_
      refine Bool.eq_false_iff.mpr fun closes => ?_
      rw [Token.startsType_of_is closes (by decide) (by decide)] at starts
      cases starts
    refine .sees_bind unclosed ?_
    simp only [Bool.false_eq_true, if_false, bind_assoc, pure_bind]
    refine .sized_bind (fun fuel => paramsWithin fuel >>= fun found =>
      expect ")" "after parameters" >>= fun _ => next found) fun fuel enough => ?_
    rw [List.length_append] at enough
    refine .bind (takes_paramsWithin (List.cons_ne_nil _ _) typed (by omega)) (.cons fun _ => rfl)
      fun _ same => ?_
    exact .expect_bind (same ▸ h)

/-! ## Cases -/

/-- **A case is readable**: its label is read back and takes no step, and so are its statements. -/
structure CaseReadable (spell : Expr → List Word) (case : Case Stmt) : Prop where
  /-- The label is read back. -/
  label : ReadBack spell case.label
  /-- The label takes no step. -/
  stepless : case.label.isStepless = true
  /-- The statements are readable. -/
  body : ∀ statement ∈ case.body, statement.Readable spell

/-- The closing brace of a choice. -/
theorem takes_closing (found : Option (List Stmt)) (positive : 1 ≤ fuel) :
    Takes (casesWithin fuel found) [.symbol "\x7d"] (fun _ => True)
      fun read => read.1 = [] ∧ read.2 = found := by
  obtain ⟨fuel, rfl⟩ : ∃ n, fuel = n + 1 := ⟨fuel - 1, by omega⟩
  rw [casesWithin]
  refine .acceptAny_bind_other (.cons fun _ => rfl) ?_
  exact .accept_bind (fun _ => rfl) (.pure ⟨rfl, rfl⟩)

/-- The statements of a case, before what follows it. -/
theorem takes_caseBody_bind {β : Type} (h : ∀ statement ∈ body, statement.Readable spell)
    (enough : 4 * (Stmt.wordsOf spell body).length + 1 ≤ fuel) {next : List Stmt → Parse β}
    {words : List Word} {follow : Token → Prop} {wanted : β → Prop}
    (rest : ∀ read, Stmt.bareAll read = Stmt.bareAll body →
      Takes (next read) words follow wanted) :
    Takes (caseBodyWithin fuel >>= next)
      (Stmt.wordsOf spell body ++ .keyword "break" :: .symbol ";" :: words) follow wanted := by
  have both : Takes (caseBodyWithin fuel >>= next)
      ((Stmt.wordsOf spell body ++ [.keyword "break", .symbol ";"]) ++ words) follow wanted :=
    (takes_caseBody h enough).bind .any rest
  rwa [List.append_assoc] at both

/-- The fallback of a choice and its closing brace. -/
theorem takes_fallback (h : ∀ statement ∈ body, statement.Readable spell)
    (enough : 4 * (Stmt.wordsOf spell body).length + 3 ≤ fuel) :
    Takes (casesWithin fuel none) (.keyword "default" :: .symbol ":" ::
        (Stmt.wordsOf spell body ++ [.keyword "break", .symbol ";", .symbol "\x7d"]))
      (fun _ => True)
      fun read => read.1 = [] ∧ read.2.map Stmt.bareAll = some (Stmt.bareAll body) := by
  obtain ⟨fuel, rfl⟩ : ∃ n, fuel = n + 1 := ⟨fuel - 1, by omega⟩
  rw [casesWithin]
  refine .acceptAny_bind (fun _ => rfl) fun place => ?_
  change Takes (expect _ _ >>= _) _ _ _
  refine .expect_bind (takes_caseBody_bind h (by omega) fun read same => ?_)
  refine (takes_closing (some read) (by omega)).imp ?_
  rintro ⟨cases, found⟩ ⟨rfl, rfl⟩
  exact ⟨rfl, congrArg some same⟩

/-- **Cases before what closes the choice.** -/
theorem takes_cases {cases : List (Case Stmt)} {tail : List Word} {found : Option (List Stmt)}
    {bound : Nat} (h : ∀ case ∈ cases, CaseReadable spell case)
    (closing : ∀ fuel, bound ≤ fuel → Takes (casesWithin fuel none) tail (fun _ => True)
      fun read => read.1 = [] ∧ read.2.map Stmt.bareAll = found)
    (enough : 4 * (Stmt.caseWords spell cases).length + bound ≤ fuel) :
    Takes (casesWithin fuel none) (Stmt.caseWords spell cases ++ tail) (fun _ => True)
      fun read => Stmt.bareCases read.1 = Stmt.bareCases cases ∧
        read.2.map Stmt.bareAll = found := by
  induction cases generalizing fuel with
  | nil =>
    refine (closing fuel (by omega)).imp ?_
    rintro ⟨cases, fallback⟩ ⟨rfl, same⟩
    exact ⟨rfl, same⟩
  | cons case cases ih =>
    obtain ⟨span, label, body⟩ := case
    obtain ⟨read, stepless, (readable : ∀ statement ∈ body, statement.Readable spell)⟩ :=
      h ⟨span, label, body⟩ List.mem_cons_self
    have others := fun case mem => h case (List.mem_cons_of_mem _ mem)
    rw [Stmt.caseWords, List.length_cons, List.length_append, List.length_cons, List.length_append,
      List.length_cons, List.length_cons] at enough
    obtain ⟨fuel, rfl⟩ : ∃ n, fuel = n + 1 := ⟨fuel - 1, by omega⟩
    rw [Stmt.caseWords, List.cons_append, List.append_assoc, List.cons_append, List.append_assoc,
      List.cons_append, List.cons_append, casesWithin]
    refine .acceptAny_bind (fun _ => rfl) fun place => ?_
    change Takes (exprStepped false >>= _) _ _ _
    refine read.label_bind stepless (.cons fun _ => rfl) fun label' same => .expect_bind ?_
    refine takes_caseBody_bind readable (by omega) fun body' sameBody => ?_
    refine .last (ih others (by omega)) (fun _ _ => trivial) ?_
    rintro ⟨cases', fallback⟩ ⟨sames, sameFallback⟩
    refine .pure ⟨?_, sameFallback⟩
    dsimp only
    rw [Stmt.bareCases, Stmt.bareCases, same, sameBody, sames]

/-! ## Forms of statements -/

namespace Stmt.Readable

/-- A statement that starts with a keyword. -/
theorem of_keyword {statement : Stmt} {keyword : String} {rest : List Word}
    (split : statement.words spell = .keyword keyword :: rest)
    (begins : ∀ span, (Token.mk .keyword keyword span).begins = true)
    (h : ∀ fuel, 4 * rest.length + 3 ≤ fuel →
      Takes (statementWithin (fuel + 1)) (.keyword keyword :: rest)
        (fun token => token.is "else" = false) fun read => read.bare = statement.bare) :
    statement.Readable spell := by
  refine ⟨split ▸ .cons begins, fun fuel enough => ?_⟩
  rw [split, List.length_cons] at enough
  obtain ⟨fuel, rfl⟩ : ∃ n, fuel = n + 1 := ⟨fuel - 1, by omega⟩
  exact split ▸ h fuel (by omega)

/-- The end of a function without a value. -/
theorem leave (span : Span) : (Stmt.leave span none).Readable spell := by
  refine of_keyword rfl (fun _ => rfl) fun fuel _ => ?_
  rw [statementWithin]
  refine .peek_bind fun place => ?_
  change Takes (Parse.leave place) _ _ _
  exact .advance_bind (.accept_bind (fun _ => rfl) (.pure rfl))

/-- The end of a function with a value. -/
theorem leaveWith (span : Span) {value : Expr} (h : ReadBack spell value) :
    (Stmt.leave span (some value)).Readable spell := by
  refine of_keyword rfl (fun _ => rfl) fun fuel _ => ?_
  rw [statementWithin]
  refine .peek_bind fun place => ?_
  change Takes (Parse.leave place) _ _ _
  refine .advance_bind (.accept_bind_other ?_ ?_)
  · exact h.begins.imp fun _ begins => Token.is_of_begins begins (by decide)
  · refine h.bind (.cons fun _ => rfl) fun read same => .expect_bind (.pure ?_)
    rw [Stmt.bare, Stmt.bare, Option.map_some, Option.map_some, same]

/-- A fault that the program makes. -/
theorem raise (span : Span) {value : Expr} (h : ReadBack spell value) :
    (Stmt.raise span value).Readable spell := by
  refine of_keyword rfl (fun _ => rfl) fun fuel _ => ?_
  rw [statementWithin]
  refine .peek_bind fun place => ?_
  change Takes (Parse.raise place) _ _ _
  refine .advance_bind (h.bind (.cons fun _ => rfl) fun read same => .expect_bind (.pure ?_))
  rw [Stmt.bare, Stmt.bare, same]

/-- An import, with or without a name for it. -/
theorem load (span : Span) (path : String) (label : Option String) :
    (Stmt.load span path label).Readable spell := by
  cases label with
  | none =>
    refine of_keyword rfl (fun _ => rfl) fun fuel _ => ?_
    rw [statementWithin]
    refine .peek_bind fun place => ?_
    change Takes (Parse.load place) _ _ _
    refine .advance_bind (.peek_bind fun _ => .advance_bind ?_)
    refine .accept_bind_other (.cons fun _ => rfl) ?_
    simp only [Bool.false_eq_true, if_false, pure_bind]
    exact .expect_bind (.pure rfl)
  | some label =>
    refine of_keyword rfl (fun _ => rfl) fun fuel _ => ?_
    rw [statementWithin]
    refine .peek_bind fun place => ?_
    change Takes (Parse.load place) _ _ _
    refine .advance_bind (.peek_bind fun _ => .advance_bind ?_)
    refine .accept_bind (fun _ => rfl) ?_
    simp only [if_true, pure_bind]
    exact .identifier_bind (.expect_bind (.pure rfl))

/-- The declaration of a signal. -/
theorem signal (span : Span) (name : String) : (Stmt.signal span name).Readable spell := by
  refine of_keyword rfl (fun _ => rfl) fun fuel _ => ?_
  rw [statementWithin]
  refine .peek_bind fun place => ?_
  change Takes (signalStatement _) _ _ _
  exact .advance_bind (.identifier_bind (.expect_bind (.pure rfl)))

/-- The emission of a signal. -/
theorem emit (span : Span) (name : String) : (Stmt.emit span name).Readable spell := by
  refine of_keyword rfl (fun _ => rfl) fun fuel _ => ?_
  rw [statementWithin]
  refine .peek_bind fun place => ?_
  change Takes (signalStatement _) _ _ _
  exact .advance_bind (.identifier_bind (.expect_bind (.pure rfl)))

/-- A handler of a signal. -/
theorem when (span : Span) (name : String) (h : ∀ statement ∈ body, statement.Readable spell) :
    (Stmt.when span name body).Readable spell := by
  refine of_keyword rfl (fun _ => rfl) fun fuel enough => ?_
  rw [statementWithin]
  refine .peek_bind fun place => ?_
  change Takes (advance >>= _) _ _ _
  refine .advance_bind (.bind (takes_handlerName _ name) .any fun _ same => ?_)
  refine .last (takes_block h ?_) (fun _ _ => trivial) fun read bare => .pure ?_
  · simp only [length_parenthesizedWords, length_braced, List.length_singleton] at enough
    omega
  · subst same
    change Stmt.bare (.when _ _ _) = _
    rw [Stmt.bare, Stmt.bare, bare]

/-- A watch of a name. -/
theorem watch (span : Span) (name : String) (h : ∀ statement ∈ body, statement.Readable spell) :
    (Stmt.watch span name body).Readable spell := by
  refine of_keyword rfl (fun _ => rfl) fun fuel enough => ?_
  rw [statementWithin]
  refine .peek_bind fun place => ?_
  change Takes (advance >>= _) _ _ _
  refine .advance_bind (.bind (takes_handlerName _ name) .any fun _ same => ?_)
  refine .last (takes_block h ?_) (fun _ _ => trivial) fun read bare => .pure ?_
  · simp only [length_parenthesizedWords, length_braced, List.length_singleton] at enough
    omega
  · subst same
    change Stmt.bare (.watch _ _ _) = _
    rw [Stmt.bare, Stmt.bare, bare]

/-- A loop while a condition holds. -/
theorem whileLoop (span : Span) {condition : Expr} {count : Nat} (test : ReadBack spell condition)
    (small : count < prerollBound) (h : ∀ statement ∈ body, statement.Readable spell) :
    (Stmt.whileLoop span condition count body).Readable spell := by
  refine of_keyword rfl (fun _ => rfl) fun fuel enough => ?_
  simp only [length_parenthesizedWords, length_braced, List.length_append] at enough
  rw [statementWithin]
  refine .peek_bind fun place => ?_
  change Takes (advance >>= _) _ _ _
  refine .advance_bind (test.parenthesized_bind fun read same => ?_)
  refine .bind (takes_preroll small) (.cons fun _ => rfl) fun _ counted => ?_
  refine .last (takes_block h (by omega)) (fun _ _ => trivial) fun reads sames => .pure ?_
  rw [Stmt.bare, Stmt.bare, same, sames, counted]

/-- A loop until a condition holds. -/
theorem untilLoop (span : Span) {condition : Expr} {count : Nat} (test : ReadBack spell condition)
    (small : count < prerollBound) (h : ∀ statement ∈ body, statement.Readable spell) :
    (Stmt.untilLoop span condition count body).Readable spell := by
  refine of_keyword rfl (fun _ => rfl) fun fuel enough => ?_
  simp only [length_parenthesizedWords, length_braced, List.length_append] at enough
  rw [statementWithin]
  refine .peek_bind fun place => ?_
  change Takes (advance >>= _) _ _ _
  refine .advance_bind (test.parenthesized_bind fun read same => ?_)
  refine .bind (takes_preroll small) (.cons fun _ => rfl) fun _ counted => ?_
  refine .last (takes_block h (by omega)) (fun _ _ => trivial) fun reads sames => .pure ?_
  rw [Stmt.bare, Stmt.bare, same, sames, counted]

/-- A branch without an alternative. -/
theorem branch (span : Span) {condition : Expr} (test : ReadBack spell condition)
    (h : ∀ statement ∈ body, statement.Readable spell) :
    (Stmt.branch span condition body none).Readable spell := by
  refine of_keyword rfl (fun _ => rfl) fun fuel enough => ?_
  simp only [length_parenthesizedWords, length_braced] at enough
  obtain ⟨fuel, rfl⟩ : ∃ n, fuel = n + 1 := ⟨fuel - 1, by omega⟩
  rw [statementWithin]
  refine .peek_bind fun place => ?_
  change Takes (branchWithin (fuel + 1)) _ _ _
  rw [branchWithin]
  refine .next_bind fun place => test.parenthesized_bind fun read same => ?_
  refine .last (takes_block h (by omega)) (fun _ _ => trivial) fun reads sames => ?_
  refine .accept_bind_other (.nil fun _ other => other) (.pure ?_)
  rw [Stmt.bare, Stmt.bare, same, sames]

/-- A branch with an alternative. -/
theorem branchElse (span : Span) {condition : Expr} {elseBody : List Stmt}
    (test : ReadBack spell condition) (h : ∀ statement ∈ body, statement.Readable spell)
    (h' : ∀ statement ∈ elseBody, statement.Readable spell) :
    (Stmt.branch span condition body (some elseBody)).Readable spell := by
  refine of_keyword rfl (fun _ => rfl) fun fuel enough => ?_
  simp only [length_parenthesizedWords, length_braced, List.length_append, List.length_cons]
    at enough
  obtain ⟨fuel, rfl⟩ : ∃ n, fuel = n + 1 := ⟨fuel - 1, by omega⟩
  rw [statementWithin]
  refine .peek_bind fun place => ?_
  change Takes (branchWithin (fuel + 1)) _ _ _
  rw [branchWithin]
  refine .next_bind fun place => test.parenthesized_bind fun read same => ?_
  refine .bind (takes_block h (by omega)) .any fun reads sames => ?_
  -- An alternative is printed in braces, so no further branch is seen there.
  refine .accept_bind (fun _ => rfl) (.sees_bind (.cons fun _ => rfl) ?_)
  refine .last (takes_block h' (by omega)) (fun _ _ => trivial) fun others sames' => .pure ?_
  rw [Stmt.bare, Stmt.bare, same, sames, sames']

/-- A loop over a container. -/
theorem forEach (span : Span) {type : Ty} (known : type.isKnown = true) (name : String)
    {iterable : Expr} (container : ReadBack spell iterable)
    (h : ∀ statement ∈ body, statement.Readable spell) :
    (Stmt.forEach span type name iterable body).Readable spell := by
  refine of_keyword rfl (fun _ => rfl) fun fuel enough => ?_
  simp only [length_parenthesizedWords, length_braced] at enough
  rw [statementWithin, parenthesizedWords, List.append_assoc, List.cons_append, List.cons_append]
  refine .peek_bind fun place => ?_
  change Takes (advance >>= _) _ _ _
  refine .advance_bind (.expect_bind (takes_forEachHead_bind known ?_))
  refine container.bind (.cons fun _ => rfl) fun read same => .expect_bind ?_
  refine .last (takes_block h (by omega)) (fun _ _ => trivial) fun reads sames => .pure ?_
  rw [Stmt.bare, Stmt.bare, same, sames]

/-- A loop with clauses. -/
theorem forLoop (span : Span) {first step : Stmt} {condition : Expr}
    (before : SpellsSimple (first.simpleWords spell) first) (test : ReadBack spell condition)
    (between : SpellsSimple (step.simpleWords spell) step)
    (h : ∀ statement ∈ body, statement.Readable spell) :
    (Stmt.forLoop span first condition step body).Readable spell := by
  refine of_keyword rfl (fun _ => rfl) fun fuel enough => ?_
  simp only [length_parenthesizedWords, length_braced] at enough
  rw [statementWithin, parenthesizedWords, List.append_assoc, List.cons_append, List.append_assoc,
    List.cons_append]
  refine .peek_bind fun place => ?_
  change Takes (advance >>= _) _ _ _
  refine .advance_bind (.expect_bind ?_)
  refine before.forEachHead_bind (.cons Token.ends_semicolon) ?_
  refine .bind before.takes (.cons Token.ends_semicolon) fun read same => .expect_bind ?_
  refine test.bind (.cons fun _ => rfl) fun tested sameTest => .expect_bind ?_
  refine .bind between.takes (.cons fun _ => ⟨rfl, rfl, rfl⟩) fun read' same' => ?_
  refine .accept_bind_other (.cons fun _ => rfl) (.expect_bind ?_)
  refine .last (takes_block h (by omega)) (fun _ _ => trivial) fun reads sames => .pure ?_
  rw [Stmt.bare, Stmt.bare, same, sameTest, same', sames]

/-- A choice without a fallback. -/
theorem choice (span : Span) {subject : Expr} {cases : List (Case Stmt)}
    (value : ReadBack spell subject) (h : ∀ case ∈ cases, CaseReadable spell case) :
    (Stmt.choice span subject cases none).Readable spell := by
  refine of_keyword rfl (fun _ => rfl) fun fuel enough => ?_
  simp only [length_parenthesizedWords, length_braced] at enough
  have closing (fuel : Nat) (positive : 1 ≤ fuel) :
      Takes (casesWithin fuel none) [.symbol "\x7d"] (fun _ => True)
        fun read => read.1 = [] ∧ read.2.map Stmt.bareAll = none :=
    (takes_closing none positive).imp fun _ ⟨first, second⟩ => ⟨first, by rw [second]; rfl⟩
  rw [statementWithin]
  refine .peek_bind fun place => ?_
  change Takes (advance >>= _) _ _ _
  refine .advance_bind (value.parenthesized_bind fun read same => .expect_bind ?_)
  refine .last (takes_cases h closing (by omega)) (fun _ _ => trivial) ?_
  rintro ⟨found, fallback⟩ ⟨sames, none⟩
  obtain rfl : fallback = Option.none := Option.map_eq_none_iff.mp none
  refine .pure ?_
  rw [Stmt.bare, Stmt.bare, same, sames]

/-- A choice with a fallback. -/
theorem choiceElse (span : Span) {subject : Expr} {cases : List (Case Stmt)} {fallback : List Stmt}
    (value : ReadBack spell subject) (h : ∀ case ∈ cases, CaseReadable spell case)
    (h' : ∀ statement ∈ fallback, statement.Readable spell) :
    (Stmt.choice span subject cases (some fallback)).Readable spell := by
  refine of_keyword rfl (fun _ => rfl) fun fuel enough => ?_
  simp only [length_parenthesizedWords, length_braced, List.length_append, List.length_cons,
    List.length_nil] at enough
  rw [statementWithin]
  refine .peek_bind fun place => ?_
  change Takes (advance >>= _) _ _ _
  refine .advance_bind (value.parenthesized_bind fun read same => ?_)
  rw [braced, List.append_assoc, List.cons_append, List.cons_append, List.append_assoc]
  refine .expect_bind ?_
  refine .last (takes_cases h (fun fuel => takes_fallback h') (by omega)) (fun _ _ => trivial) ?_
  rintro ⟨found, other⟩ ⟨sames, sameOther⟩
  obtain ⟨other, rfl, sameBody⟩ := Option.map_eq_some_iff.mp sameOther
  refine .pure ?_
  rw [Stmt.bare, Stmt.bare, same, sames, sameBody]

/-- A function. -/
theorem function (span : Span) {returns : Ty} (known : returns.isKnown = true) (name : String)
    {params : List Param} (typed : ∀ param ∈ params, param.type.isKnown = true)
    (h : ∀ statement ∈ body, statement.Readable spell) :
    (Stmt.function span returns name params body).Readable spell := by
  have begins {words : List Word} {follow : Token → Prop} :
      Meets (returns.words ++ words) follow fun token => token.begins = true :=
    (Meets.type known).imp fun _ typed => (Token.ofToken_of_startsType typed).2
  refine ⟨begins, fun fuel enough => ?_⟩
  rw [Stmt.words] at enough ⊢
  simp only [List.length_append, List.length_cons, length_parenthesizedWords, length_braced]
    at enough
  obtain ⟨fuel, rfl⟩ : ∃ n, fuel = n + 1 := ⟨fuel - 1, by omega⟩
  rw [statementWithin]
  refine .peek_bind_of (.type known) fun token typedToken => ?_
  rw [(Token.ofToken_of_startsType typedToken).1]
  dsimp only
  rw [if_pos typedToken]
  refine .keep_bind fun start => .type_bind known (.cons fun _ => rfl) ?_
  refine .get_bind fun stream _ _ first second => ?_
  rw [if_pos (by rw [first, second]; rfl)]
  refine .identifier_bind (takes_params_bind typed ?_)
  refine .last (takes_block h (by omega)) (fun _ _ => trivial) fun reads sames => .pure ?_
  rw [Stmt.bare, Stmt.bare, sames]

end Stmt.Readable

/-! ## All statements -/

mutual

/-- **Every statement that can be printed is readable**, if the expressions in it are read back. -/
theorem Stmt.readable : ∀ statement : Stmt, statement.isPrintable = true →
    (∀ expression ∈ statement.expressions, ReadBack spell expression) → statement.Readable spell
  | .expression .., printable, h => (Stmt.spellsSimple rfl printable h).readable rfl
  | .declaration .., printable, h => (Stmt.spellsSimple rfl printable h).readable rfl
  | .assignment .., printable, h => (Stmt.spellsSimple rfl printable h).readable rfl
  | .compound .., printable, h => (Stmt.spellsSimple rfl printable h).readable rfl
  | .element .., printable, h => (Stmt.spellsSimple rfl printable h).readable rfl
  | .function span returns name params body, printable, h => by
    rw [Stmt.isPrintable, Bool.and_eq_true, Bool.and_eq_true, List.all_eq_true] at printable
    exact .function span printable.1.1 name printable.1.2 (Stmt.allReadable body printable.2 h)
  | .leave span none, _, _ => .leave span
  | .leave span (some value), _, h => .leaveWith span (h value List.mem_cons_self)
  | .raise span value, _, h => .raise span (h value List.mem_cons_self)
  | .load span path label, _, _ => .load span path label
  | .branch span condition thenBody none, printable, h =>
    .branch span (h condition List.mem_cons_self)
      (Stmt.allReadable thenBody printable fun expression mem =>
        h expression (List.mem_cons_of_mem _ mem))
  | .branch span condition thenBody (some elseBody), printable, h => by
    rw [Stmt.isPrintable, Bool.and_eq_true] at printable
    rw [Stmt.expressions, List.forall_mem_cons, List.forall_mem_append] at h
    exact .branchElse span h.1 (Stmt.allReadable thenBody printable.1 h.2.1)
      (Stmt.allReadable elseBody printable.2 h.2.2)
  | .whileLoop span condition preroll body, printable, h => by
    rw [Stmt.isPrintable, Bool.and_eq_true, decide_eq_true_eq] at printable
    rw [Stmt.expressions, List.forall_mem_cons] at h
    exact .whileLoop span h.1 printable.1 (Stmt.allReadable body printable.2 h.2)
  | .untilLoop span condition preroll body, printable, h => by
    rw [Stmt.isPrintable, Bool.and_eq_true, decide_eq_true_eq] at printable
    rw [Stmt.expressions, List.forall_mem_cons] at h
    exact .untilLoop span h.1 printable.1 (Stmt.allReadable body printable.2 h.2)
  | .forLoop span first condition step body, printable, h => by
    simp only [Stmt.isPrintable, Bool.and_eq_true] at printable
    rw [Stmt.expressions, List.forall_mem_append, List.forall_mem_cons, List.forall_mem_append] at h
    obtain ⟨⟨⟨⟨simple, simple'⟩, printableFirst⟩, printableStep⟩, printableBody⟩ := printable
    exact .forLoop span (Stmt.spellsSimple simple printableFirst h.1) h.2.1
      (Stmt.spellsSimple simple' printableStep h.2.2.1)
      (Stmt.allReadable body printableBody h.2.2.2)
  | .forEach span type name iterable body, printable, h => by
    rw [Stmt.isPrintable, Bool.and_eq_true] at printable
    rw [Stmt.expressions, List.forall_mem_cons] at h
    exact .forEach span printable.1 name h.1 (Stmt.allReadable body printable.2 h.2)
  | .choice span subject cases none, printable, h => by
    rw [Stmt.expressions, List.forall_mem_cons] at h
    exact .choice span h.1 (Stmt.casesReadable cases printable h.2)
  | .choice span subject cases (some fallback), printable, h => by
    rw [Stmt.isPrintable, Bool.and_eq_true] at printable
    rw [Stmt.expressions, List.forall_mem_cons, List.forall_mem_append] at h
    exact .choiceElse span h.1 (Stmt.casesReadable cases printable.1 h.2.1)
      (Stmt.allReadable fallback printable.2 h.2.2)
  | .signal span name, _, _ => .signal span name
  | .emit span name, _, _ => .emit span name
  | .when span name body, printable, h => .when span name (Stmt.allReadable body printable h)
  | .watch span name body, printable, h => .watch span name (Stmt.allReadable body printable h)

/-- So are all of some statements. -/
theorem Stmt.allReadable : ∀ statements : List Stmt, Stmt.arePrintable statements = true →
    (∀ expression ∈ Stmt.expressionsOf statements, ReadBack spell expression) →
    ∀ statement ∈ statements, statement.Readable spell
  | [], _, _ => List.forall_mem_nil _
  | first :: rest, printable, h => by
    rw [Stmt.arePrintable, Bool.and_eq_true] at printable
    rw [Stmt.expressionsOf, List.forall_mem_append] at h
    exact List.forall_mem_cons.mpr
      ⟨Stmt.readable first printable.1 h.1, Stmt.allReadable rest printable.2 h.2⟩

/-- So are the cases of a choice. -/
theorem Stmt.casesReadable : ∀ cases : List (Case Stmt), Stmt.casesPrintable cases = true →
    (∀ expression ∈ Stmt.caseExpressions cases, ReadBack spell expression) →
    ∀ case ∈ cases, CaseReadable spell case
  | [], _, _ => List.forall_mem_nil _
  | ⟨span, label, body⟩ :: rest, printable, h => by
    rw [Stmt.casesPrintable, Bool.and_eq_true, Bool.and_eq_true] at printable
    rw [Stmt.caseExpressions, List.forall_mem_cons, List.forall_mem_append] at h
    exact List.forall_mem_cons.mpr
      ⟨⟨h.1, printable.1.1, Stmt.allReadable body printable.1.2 h.2.1⟩,
        Stmt.casesReadable rest printable.2 h.2.2⟩

end

/-! ## Programs -/

/-- Every readable statement pays for itself. -/
theorem length_le_length_wordsOf {statements : List Stmt}
    (h : ∀ statement ∈ statements, statement.Readable spell) :
    statements.length ≤ (Stmt.wordsOf spell statements).length := by
  induction statements with
  | nil => exact Nat.zero_le _
  | cons first rest ih =>
    have positive := (h first List.mem_cons_self).length_pos
    have others := ih fun statement mem => h statement (List.mem_cons_of_mem _ mem)
    rw [Stmt.wordsOf, List.length_append, List.length_cons]
    omega

/-- **Statements before the end of the source.** -/
theorem takes_program {statements : List Stmt}
    (h : ∀ statement ∈ statements, statement.Readable spell) (enough : statements.length < fuel) :
    Takes (programWithin fuel) (Stmt.wordsOf spell statements) (fun token => token.kind = .ending)
      fun read => Stmt.bareAll read = Stmt.bareAll statements := by
  induction statements generalizing fuel with
  | nil =>
    obtain ⟨fuel, rfl⟩ : ∃ n, fuel = n + 1 := ⟨fuel - 1, by omega⟩
    rw [Stmt.wordsOf, programWithin]
    exact .seesEnd_bind (.nil fun _ ended => decide_eq_true ended) (.pure rfl)
  | cons first rest ih =>
    have readable := h first List.mem_cons_self
    have others := fun statement mem => h statement (List.mem_cons_of_mem first mem)
    rw [List.length_cons] at enough
    obtain ⟨fuel, rfl⟩ : ∃ n, fuel = n + 1 := ⟨fuel - 1, by omega⟩
    have stops : Meets (Stmt.wordsOf spell rest) (fun token => token.kind = .ending)
        fun token => token.is "else" = false := by
      rw [← List.append_nil (Stmt.wordsOf spell rest)]
      refine .statements others (.nil fun token ended => ?_)
      simp [Token.is, ended]
    rw [Stmt.wordsOf, programWithin]
    refine .seesEnd_bind readable.unended ?_
    refine .sized_bind (fun size => statementWithin (statementLayers * size) >>= fun statement =>
      programWithin fuel >>= fun statements => pure (statement :: statements)) fun size fits => ?_
    rw [List.length_append] at fits
    refine .bind (readable.takes _ (by unfold statementLayers; omega)) stops fun read same => ?_
    refine .last (ih others (by omega)) (fun _ ended => ended) fun reads sames => .pure ?_
    rw [Stmt.bareAll, Stmt.bareAll, same, sames]

/-- Tokens with the words of readable statements are read as the statements, but for the places in
them. -/
theorem exists_program_of_readable {statements : List Stmt}
    (readable : ∀ statement ∈ statements, statement.Readable spell) {tokens : List Token}
    (ending : Span) (spelled : tokens.map Token.word = Stmt.wordsOf spell statements) :
    ∃ read, TokenStream.program ⟨tokens, ending⟩ = .ok read ∧
      Stmt.bareAll read = Stmt.bareAll statements := by
  have enough : statements.length < tokens.length + 1 := by
    have fits := length_le_length_wordsOf readable
    rw [← spelled, List.length_map] at fits
    omega
  obtain ⟨read, same, ran⟩ := takes_program readable enough tokens [] ending spelled rfl
  rw [List.append_nil] at ran
  refine ⟨read, ?_, same⟩
  unfold TokenStream.program StateT.run'
  change (Functor.map Prod.fst ((programWithin (tokens.length + 1)).run ⟨tokens, ending⟩)) = _
  rw [ran]
  rfl

/-- **The parser inverts the printer of programs.** If every expression in a program is spelled so
that it is read back, then tokens with the words of the program, at any places, are read as the
program, but for the places in it. -/
theorem program_words (spell : Expr → List Word) (statements : List Stmt)
    (printable : Stmt.arePrintable statements = true)
    (h : ∀ expression ∈ Stmt.expressionsOf statements, ReadBack spell expression)
    (tokens : List Token) (ending : Span)
    (spelled : tokens.map Token.word = Stmt.wordsOf spell statements) :
    ∃ read, TokenStream.program ⟨tokens, ending⟩ = .ok read ∧
      Stmt.bareAll read = Stmt.bareAll statements := by
  have readable := Stmt.allReadable statements printable h
  exact exists_program_of_readable readable ending spelled

/-- The printer of expressions spells those that it can print so that they are read back. -/
theorem Expr.readBack_words {expression : Expr} (printable : expression.isPrintable true = true) :
    ReadBack Expr.words expression := by
  intro tokens rest ending spelled stops
  obtain ⟨read, same, reads⟩ := (Expr.means true expression printable).either tokens spelled
  refine ⟨read, same, ?_⟩
  rw [run_expr]
  refine reads.run_eq rest ending _ ?_ (Token.stops_of_continuesExpr stops)
  rw [List.length_append]
  unfold layers
  omega

/-- A program in which a type starts a function, a declaration, a cast and the heads of two kinds of
loop:
`signal s; list f(dict<int, ?> d, int n) { for (int -> n; n < 3; n += 1) { d[n] = f(d, 0); }
switch (n) { case 1 .. 2: int -> n; break; default: until (true) : 2 { } break; }
return [n]; } for (int k in f(x, 1)) { if (k) { emit s; } else { int k; } }
when (s) { import "m" as m; }`. -/
def sampleProgram : List Stmt :=
  let name (text : String) : Expr := .var .unknown text
  let number (n : Int64) : Expr := .literal .unknown (.int n)
  let cast : Stmt := .expression .unknown (.cast .unknown .int (name "n"))
  [.signal .unknown "s",
    .function .unknown .anyList "f" [⟨.dict .int .any, "d"⟩, ⟨.int, "n"⟩]
      [.forLoop .unknown cast (.comparison .unknown .less (name "n") (number 3))
          (.compound .unknown "n" .add (number 1))
          [.element .unknown (name "d") (name "n") (.call .unknown "f" [name "d", number 0])],
        .choice .unknown (name "n")
          [⟨.unknown, .range .unknown (number 1) (number 2) none false, [cast]⟩]
          (some [.untilLoop .unknown (.literal .unknown (.boolean true)) 2 []]),
        .leave .unknown (some (.list .unknown [name "n"]))],
    .forEach .unknown .int "k" (.call .unknown "f" [name "x", number 1])
      [.branch .unknown (name "k") [.emit .unknown "s"]
        (some [.declaration .unknown .int "k" none])],
    .when .unknown "s" [.load .unknown "m" (some "m")]]

/-- The sample is read back off its words. -/
theorem sampleProgram_words :
    Stmt.arePrintable sampleProgram = true ∧
      (∀ expression ∈ Stmt.expressionsOf sampleProgram, ReadBack Expr.words expression) ∧
      ∃ read, TokenStream.program
          ⟨unplaced (Stmt.wordsOf Expr.words sampleProgram), .unknown⟩ = .ok read ∧
        Stmt.bareAll read = Stmt.bareAll sampleProgram := by
  have printable : Stmt.arePrintable sampleProgram = true := by decide
  have each : ∀ expression ∈ Stmt.expressionsOf sampleProgram,
      expression.isPrintable true = true := by decide
  have back : ∀ expression ∈ Stmt.expressionsOf sampleProgram, ReadBack Expr.words expression :=
    fun expression mem => Expr.readBack_words (each expression mem)
  refine ⟨printable, back, program_words Expr.words sampleProgram printable back _ _ ?_⟩
  rw [unplaced, List.map_map]
  exact List.map_id _

end ReactiveScript
