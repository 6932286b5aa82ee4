import ReactiveScript.Proofs.Grammar.Taking

/-! # Declarations, assignments and expressions are read back

A statement that starts with a type may be a declaration, a function or a cast, and a name may start
an assignment, an expression or the head of a loop over a container. `TokenStream.Heads` says what
the rules see when they look ahead at one of the simple statements, so that they decide for none of
the others. -/

namespace ReactiveScript

open Parse

/-- The token may stand behind a simple statement. -/
structure Token.Ends (token : Token) : Prop where
  /-- It goes on with no expression. -/
  stops : token.continuesExpr = false
  /-- It assigns nothing. -/
  assigns : assignmentSymbols.any token.is = false
  /-- It is not the word behind the variable of a loop. -/
  loops : token.is "in" = false

/-- It calls nothing. -/
theorem Token.Ends.uncalled {token : Token} (h : token.Ends) : token.is "(" = false :=
  Bool.eq_false_iff.mpr (List.any_eq_false.mp h.stops "(" List.mem_cons_self)

/-- It gives no value to a name. -/
theorem Token.Ends.unassigned {token : Token} (h : token.Ends) : token.is "=" = false :=
  Bool.eq_false_iff.mpr (List.any_eq_false.mp h.assigns "=" List.mem_cons_self)

/-- Whether a token may be the first of a statement: it ends no statement, no body and no source,
and does not go on with a branch or a choice. -/
def Token.begins (token : Token) : Bool :=
  token.kind ≠ .ending && !([";", "\x7d", "case", "default", "break", "else"].any token.is)

/-- **What is seen ahead of a simple statement.** No keyword of another statement; behind a type
neither the name of a function nor that of a loop variable; and behind a name no loop. -/
structure TokenStream.Heads (stream : TokenStream) : Prop where
  /-- The first token opens no other statement. -/
  other : Opening.ofToken stream.peek = .other
  /-- The first token opens a statement. -/
  begins : stream.peek.begins = true
  /-- What follows a type. -/
  typed : stream.peek.startsType = true → ∃ declared rest,
    Parse.type.run stream = .ok (declared, rest) ∧
      (rest.peek.kind = .identifier → rest.second.is "(" = false ∧ rest.second.is "in" = false)
  /-- What follows a name. -/
  named : stream.peek.kind = .identifier → stream.second.is "in" = false

/-! ## First tokens -/

/-- What starts a type starts no other statement than those without a keyword. -/
theorem Token.ofToken_of_startsType {token : Token} (h : token.startsType = true) :
    Opening.ofToken token = .other ∧ token.begins = true := by
  obtain ⟨kind, lexeme, span⟩ := token
  unfold startsType at h
  split at h
  · rename_i kind
    obtain rfl : _ = TokenKind.keyword := kind
    simp only [isTypeKeyword, typeKeywords, List.contains_eq_mem, decide_eq_true_eq, List.mem_cons,
      List.not_mem_nil, or_false] at h
    rcases h with rfl | rfl | rfl | rfl | rfl | rfl | rfl | rfl <;> exact ⟨rfl, rfl⟩
  · rename_i kind
    obtain rfl : _ = TokenKind.symbol := kind
    obtain rfl : lexeme = "?" := of_decide_eq_true h
    exact ⟨rfl, rfl⟩
  · cases h

/-- What starts an expression starts no other statement than those without a keyword. -/
theorem Token.ofToken_of_startsExpr {token : Token} (h : token.startsExpr = true) :
    Opening.ofToken token = .other ∧ token.begins = true := by
  simp only [startsExpr, Bool.or_eq_true, decide_eq_true_eq] at h
  rcases h with (plain | word) | typed
  · obtain ⟨kind, lexeme, span⟩ := token
    simp only [List.mem_cons, List.not_mem_nil, or_false] at plain
    rcases plain with rfl | rfl | rfl | rfl <;> exact ⟨rfl, rfl⟩
  · obtain ⟨text, mem, is⟩ := List.any_eq_true.mp word
    obtain ⟨kind, lexeme, span⟩ := token
    simp only [Token.is, Bool.and_eq_true, Bool.or_eq_true, decide_eq_true_eq] at is
    obtain ⟨rfl | rfl, rfl⟩ := is
    all_goals
      simp only [List.mem_cons, List.not_mem_nil, or_false] at mem
      rcases mem with rfl | rfl | rfl | rfl | rfl | rfl | rfl <;> exact ⟨rfl, rfl⟩
  · exact ofToken_of_startsType typed

/-- The first word of an expression may start a statement. -/
theorem ReadBack.begins {spell : Expr → List Word} {expression : Expr}
    (h : ReadBack spell expression) {words : List Word} {follow : Token → Prop} :
    Meets (spell expression ++ words) follow fun token => token.begins = true := by
  obtain ⟨word, more, split, starts⟩ := h.starts
  rw [split, List.cons_append]
  exact .cons fun span => (Token.ofToken_of_startsExpr (starts span)).2

/-- A token that starts a statement ends no source. -/
theorem Token.kind_of_begins {token : Token} (h : token.begins = true) :
    decide (token.kind = .ending) = false := by
  rw [begins, Bool.and_eq_true, decide_eq_true_eq] at h
  exact decide_eq_false h.1

/-- A token that starts a statement is none of the words that go on behind one. -/
theorem Token.is_of_begins {token : Token} {text : String} (h : token.begins = true)
    (mem : text ∈ [";", "\x7d", "case", "default", "break", "else"]) : token.is text = false := by
  rw [begins, Bool.and_eq_true, Bool.not_eq_true'] at h
  exact Bool.eq_false_iff.mpr (List.any_eq_false.mp h.2 text mem)

/-! ## Looking ahead -/

/-- A rule that looks at the whole stream. -/
theorem Parse.run_get_bind {β : Type} (next : TokenStream → Parse β) (stream : TokenStream) :
    (get >>= next).run stream = (next stream).run stream := rfl

/-- A rule that goes back to a stream. -/
theorem Parse.run_set_bind {β : Type} (next : PUnit → Parse β) (earlier stream : TokenStream) :
    (set earlier >>= next).run stream = (next ⟨⟩).run earlier := rfl

namespace TokenStream

variable {stream : TokenStream}

/-- A statement is read as a simple one. -/
theorem Heads.run_statement (h : stream.Heads) (fuel : Nat) :
    (statementWithin (fuel + 1)).run stream =
      (simple >>= fun statement => expect ";" "after statement" >>= fun _ =>
        pure statement).run stream := by
  rw [statementWithin, run_peek_bind, h.other]
  dsimp only
  split
  · rename_i typed
    obtain ⟨declared, rest, ran, seen⟩ := h.typed typed
    have undecided : ¬(rest.peek.kind = .identifier && rest.second.is "(") = true := by
      rw [Bool.and_eq_true, decide_eq_true_eq]
      rintro ⟨named, called⟩
      rw [(seen named).1] at called
      cases called
    rw [run_get_bind, run_bind_of ran, run_get_bind, if_neg undecided, run_set_bind]
  · rfl

/-- No loop over a container is seen. -/
theorem Heads.run_forEachHead (h : stream.Heads) : forEachHead.run stream = .ok (none, stream) := by
  have undecided {after : TokenStream} (seen : after.peek.kind = .identifier →
      after.second.is "in" = false) :
      ¬(after.peek.kind = .identifier && after.second.is "in") = true := by
    rw [Bool.and_eq_true, decide_eq_true_eq]
    rintro ⟨named, loops⟩
    rw [seen named] at loops
    cases loops
  unfold forEachHead
  rw [run_get_bind, run_peek_bind]
  split
  · rename_i typed
    obtain ⟨declared, rest, ran, seen⟩ := h.typed typed
    rw [run_bind_of ran, run_get_bind, if_neg (undecided fun named => (seen named).2),
      run_set_bind]
    rfl
  · rw [pure_bind, run_get_bind, if_neg (undecided h.named), run_set_bind]
    rfl

/-- Where an expression opens a stream, no declaration is seen. -/
theorem Opens.run_simple (h : stream.Opens) :
    simple.run stream = (assignmentOrExpression stream.peek.span).run stream := by
  unfold simple
  rw [run_peek_bind]
  split
  · rename_i typed
    obtain ⟨target, rest, ran, arrow⟩ := h.cast typed
    have unnamed : ¬rest.peek.kind = .identifier := by
      intro named
      simp [Token.is, named] at arrow
    rw [run_get_bind, run_bind_of ran, run_peek_bind, if_neg unnamed, run_set_bind]
  · rfl

end TokenStream

/-- **An expression at the start of a simple statement** is seen as one: behind a type stands an
arrow, and a name before a loop would have been read alone. -/
theorem Heads.of_expr {stream : TokenStream} {read : Expr} {rest : List Token}
    (ran : expr.run stream = .ok (read, ⟨rest, stream.ending⟩))
    (loops : (TokenStream.peek ⟨rest, stream.ending⟩).is "in" = false) :
    stream.Heads ∧ stream.Opens := by
  have opens : stream.Opens := by
    rw [run_expr] at ran
    exact opens_of_run ran
  have first := Token.ofToken_of_startsExpr opens.starts
  refine ⟨⟨first.1, first.2, fun typed => ?_, fun named => ?_⟩, opens⟩
  · obtain ⟨target, after, typedRun, arrow⟩ := opens.cast typed
    refine ⟨target, after, typedRun, fun named => ?_⟩
    simp [Token.is, named] at arrow
  · obtain ⟨_ | ⟨name, _ | ⟨following, more⟩⟩, ending⟩ := stream
    · rfl
    · rfl
    · refine Bool.eq_false_iff.mpr fun (found : following.is "in" = true) => ?_
      have stops : following.continuesExpr = false := by
        obtain ⟨kind, lexeme, span⟩ := following
        simp only [Token.is, Bool.and_eq_true, Bool.or_eq_true, decide_eq_true_eq] at found
        obtain ⟨rfl | rfl, rfl⟩ := found <;> rfl
      have alone : expr.run ⟨name :: following :: more, ending⟩ =
          .ok (.var name.span name.lexeme, ⟨following :: more, ending⟩) :=
        run_expr_name named stops
      rw [alone] at ran
      cases ran
      rw [TokenStream.peek_cons, found] at loops
      cases loops

/-! ## Reading -/

/-- **Some words spell a simple statement**: it is seen ahead of them, and it is read off them, but
for its places. -/
structure SpellsSimple (words : List Word) (statement : Stmt) : Prop where
  /-- What is seen ahead. -/
  heads : ∀ (tokens rest : List Token) (ending : Span), tokens.map Token.word = words →
    (TokenStream.peek ⟨rest, ending⟩).Ends → TokenStream.Heads ⟨tokens ++ rest, ending⟩
  /-- What is read. -/
  takes : Takes simple words Token.Ends fun read => read.bare = statement.bare

variable {spell : Expr → List Word}

/-- A name is read alone before something that does not go on with it. -/
theorem takes_name (name : String) :
    Takes expr [.name name] (fun token => token.continuesExpr = false)
      fun read => ∃ span, read = .var span name := by
  intro tokens rest ending spelled stops
  obtain ⟨⟨kind, lexeme, span⟩, rfl, word⟩ := List.map_eq_singleton_iff.mp spelled
  cases word
  exact ⟨.var span _, ⟨span, rfl⟩, run_expr_name rfl stops⟩

/-- What starts with an expression and is read as an assignment or an expression. -/
theorem SpellsSimple.of_expr {words others : List Word} {statement : Stmt} {good : Expr → Prop}
    (lead : Takes expr words (fun token => token.continuesExpr = false) good)
    (stops : Meets others Token.Ends fun token => token.continuesExpr = false)
    (loops : Meets others Token.Ends fun token => token.is "in" = false)
    (h : ∀ span, Takes (assignmentOrExpression span) (words ++ others) Token.Ends
      fun read => read.bare = statement.bare) : SpellsSimple (words ++ others) statement := by
  have seen (tokens rest : List Token) (ending : Span)
      (spelled : tokens.map Token.word = words ++ others)
      (ends : (TokenStream.peek ⟨rest, ending⟩).Ends) :
      TokenStream.Heads ⟨tokens ++ rest, ending⟩ ∧ TokenStream.Opens ⟨tokens ++ rest, ending⟩ := by
    obtain ⟨first, more, rfl, spelled, spelled'⟩ := List.map_eq_append_iff.mp spelled
    obtain ⟨read, _, ran⟩ :=
      lead first (more ++ rest) ending spelled (stops more rest ending spelled' ends)
    rw [← List.append_assoc] at ran
    exact Heads.of_expr ran (loops more rest ending spelled' ends)
  refine ⟨fun tokens rest ending spelled ends => (seen tokens rest ending spelled ends).1, ?_⟩
  intro tokens rest ending spelled ends
  rw [(seen tokens rest ending spelled ends).2.run_simple]
  exact h _ tokens rest ending spelled ends

/-- A statement that is an expression. -/
theorem SpellsSimple.expression (span : Span) {value : Expr} (h : ReadBack spell value) :
    SpellsSimple (spell value) (.expression span value) := by
  rw [← List.append_nil (spell value)]
  refine .of_expr h (.nil fun _ ends => ends.stops) (.nil fun _ ends => ends.loops) fun span => ?_
  unfold assignmentOrExpression
  refine h.bind (.nil fun _ ends => ends.stops) fun read same => ?_
  refine .acceptAny_bind_other (.nil fun _ ends => ends.assigns) (.pure ?_)
  rw [Stmt.bare, Stmt.bare, same]

/-- An assignment to what an expression denotes. -/
theorem SpellsSimple.assign {lead : List Word} {symbol : String} {target : Expr → Prop}
    {value : Expr} {statement : Stmt}
    (first : Takes expr lead (fun token => token.continuesExpr = false) target)
    (assigns : ∀ span, assignmentSymbols.any (Token.mk .symbol symbol span).is = true)
    (stops : ∀ span, (Token.mk .symbol symbol span).continuesExpr = false)
    (loops : ∀ span, (Token.mk .symbol symbol span).is "in" = false) (h : ReadBack spell value)
    (built : ∀ span op read read', target read → read'.bare = value.bare →
      ∃ result, assignmentTo span read ⟨.symbol, symbol, op⟩ read' = .ok result ∧
        result.bare = statement.bare) :
    SpellsSimple (lead ++ .symbol symbol :: spell value) statement := by
  refine .of_expr first (.cons stops) (.cons loops) fun span => ?_
  unfold assignmentOrExpression
  refine .bind first (.cons stops) fun read denoted => .acceptAny_bind assigns fun op => ?_
  refine .last h (fun _ ends => ends.stops) fun read' same => ?_
  obtain ⟨result, ran, bare⟩ := built span op read read' denoted same
  exact .lift ran bare

/-- An assignment to a name. -/
theorem SpellsSimple.assignment (span : Span) (name : String) {value : Expr}
    (h : ReadBack spell value) :
    SpellsSimple (.name name :: .symbol "=" :: spell value) (.assignment span name value) := by
  refine .assign (takes_name name) (fun _ => rfl) (fun _ => rfl) (fun _ => rfl) h ?_
  rintro span op _ read' ⟨place, rfl⟩ same
  exact ⟨.assignment span name read', rfl, congrArg (Stmt.assignment .unknown name) same⟩

/-- The symbol of a combining assignment gives the operator back. -/
theorem BinaryOp.ofSymbol_combining (op : BinaryOp) :
    BinaryOp.ofSymbol (op.symbol ++ "=") = .ok op := by
  cases op <;> cbv

/-- A combining assignment to a name. -/
theorem SpellsSimple.compound (span : Span) (name : String) (op : BinaryOp) {value : Expr}
    (h : ReadBack spell value) :
    SpellsSimple (.name name :: .symbol (op.symbol ++ "=") :: spell value)
      (.compound span name op value) := by
  refine .assign (takes_name name) ?_ ?_ ?_ h ?_
  · cases op <;> exact fun _ => rfl
  · cases op <;> exact fun _ => rfl
  · cases op <;> exact fun _ => rfl
  rintro span place _ read' ⟨place', rfl⟩ same
  refine ⟨.compound span name op read', ?_, ?_⟩
  · have combines : op.symbol ++ "=" ≠ "=" := by cases op <;> decide
    rw [assignmentTo, if_neg combines, op.ofSymbol_combining]
    rfl
  · exact congrArg (Stmt.compound .unknown name op) same

/-- What is read back for an index is one. -/
theorem Expr.exists_of_bare_eq_index {read target position : Expr}
    (h : read.bare = .index .unknown target position) :
    ∃ span target' position', read = .index span target' position' ∧ target'.bare = target ∧
      position'.bare = position := by
  cases read with
  | index span target' position' =>
    rw [Expr.bare] at h
    cases h
    exact ⟨span, target', position', rfl, rfl, rfl⟩
  | range span first last step inclusive => cases step <;> cases h
  | _ => cases h

/-- An assignment to an element. -/
theorem SpellsSimple.element (span : Span) {target position value : Expr}
    (place : ReadBack spell (.index .unknown target position)) (h : ReadBack spell value) :
    SpellsSimple (spell (.index .unknown target position) ++ .symbol "=" :: spell value)
      (.element span target position value) := by
  refine .assign place (fun _ => rfl) (fun _ => rfl) (fun _ => rfl) h ?_
  intro span op read read' denoted same
  rw [Expr.bare] at denoted
  obtain ⟨at_, target', position', rfl, sameTarget, samePosition⟩ :=
    Expr.exists_of_bare_eq_index denoted
  refine ⟨.element span target' position' read', rfl, ?_⟩
  rw [Stmt.bare, Stmt.bare, sameTarget, samePosition, same]

/-- A declaration, with or without a value. -/
theorem SpellsSimple.declaration (span : Span) {type : Ty} (known : type.isKnown = true)
    (name : String) {value : Option Expr} (h : ∀ expression ∈ value, ReadBack spell expression) :
    SpellsSimple (type.words ++ .name name :: initialWords spell value)
      (.declaration span type name value) := by
  constructor
  · intro tokens rest ending spelled ends
    have typed := Meets.type known tokens rest ending spelled ends
    obtain ⟨first, more, rfl, spelledType, spelled⟩ := List.map_eq_append_iff.mp spelled
    obtain ⟨⟨kind, lexeme, place⟩, tail, rfl, word, spelledTail⟩ := List.map_eq_cons_iff.mp spelled
    have named : kind = .identifier := congrArg Prod.fst word
    obtain ⟨_, rfl, ran⟩ := takes_type known first (⟨kind, lexeme, place⟩ :: (tail ++ rest))
      ending spelledType (by rw [TokenStream.peek_cons, named]; rfl)
    -- Behind the name stands an equals sign or what ends the statement.
    have second : Meets (initialWords spell value) Token.Ends
        fun token => token.is "(" = false ∧ token.is "in" = false := by
      cases value with
      | none => exact .nil fun _ ends => ⟨ends.uncalled, ends.loops⟩
      | some value => exact .cons fun _ => ⟨rfl, rfl⟩
    rw [List.append_assoc, List.cons_append] at typed ⊢
    have first := Token.ofToken_of_startsType typed
    refine ⟨first.1, first.2, fun _ => ⟨_, _, ran, fun _ => ?_⟩, fun name => ?_⟩
    · exact second tail rest ending spelledTail ends
    · simp [Token.startsType, name] at typed
  · unfold simple
    refine .peek_bind_of (.type known) fun token typed => ?_
    rw [if_pos typed]
    refine .keep_bind fun start => .type_bind known (.cons fun _ => rfl) ?_
    refine .peek_bind fun place => ?_
    rw [if_pos (show (Word.name name).1 = .identifier from rfl)]
    refine .advance_bind ?_
    cases value with
    | none =>
      exact .accept_bind_other (.nil fun _ ends => ends.unassigned) (.pure rfl)
    | some value =>
      refine .accept_bind (fun _ => rfl) ?_
      rw [if_pos rfl]
      refine .last (h value rfl) (fun _ ends => ends.stops) fun read same => .pure ?_
      rw [Stmt.bare, Stmt.bare, Option.map_some, Option.map_some, same]
      rfl

/-- **Every simple statement is read back** off its words. -/
theorem Stmt.spellsSimple {statement : Stmt} (simple : statement.isSimple = true)
    (printable : statement.isPrintable = true)
    (h : ∀ expression ∈ statement.expressions, ReadBack spell expression) :
    SpellsSimple (statement.simpleWords spell) statement := by
  cases statement with
  | expression span value => exact .expression span (h value List.mem_cons_self)
  | declaration span type name value =>
    exact .declaration span printable name fun expression mem =>
      h expression (Option.mem_toList.mpr mem)
  | assignment span name value => exact .assignment span name (h value List.mem_cons_self)
  | compound span name op value => exact .compound span name op (h value List.mem_cons_self)
  | element span target position value =>
    exact .element span (h _ List.mem_cons_self)
      (h value (List.mem_cons_of_mem _ List.mem_cons_self))
  | _ => cases simple

/-- The words of a simple statement start one. -/
theorem SpellsSimple.begins {words rest : List Word} {statement : Stmt}
    (h : SpellsSimple words statement) {follow : Token → Prop}
    (ends : Meets rest follow Token.Ends) :
    Meets (words ++ rest) follow fun token => token.begins = true := by
  intro tokens behind ending spelled admitted
  obtain ⟨first, more, rfl, spelled, spelled'⟩ := List.map_eq_append_iff.mp spelled
  rw [List.append_assoc]
  have stops := ends more behind ending spelled' admitted
  exact (h.heads first (more ++ behind) ending spelled stops).begins

/-- **Before a simple statement** no loop over a container is seen. -/
theorem SpellsSimple.forEachHead_bind {β : Type} {words rest : List Word} {statement : Stmt}
    (h : SpellsSimple words statement) {follow : Token → Prop} {wanted : β → Prop}
    {next : Option (Ty × String) → Parse β} (ends : Meets rest follow Token.Ends)
    (behind : Takes (next none) (words ++ rest) follow wanted) :
    Takes (forEachHead >>= next) (words ++ rest) follow wanted := by
  refine behind.of_run_eq fun tokens others ending spelled admitted => ?_
  obtain ⟨first, more, rfl, spelled, spelled'⟩ := List.map_eq_append_iff.mp spelled
  rw [List.append_assoc]
  have stops := ends more others ending spelled' admitted
  exact run_bind_of (h.heads first (more ++ others) ending spelled stops).run_forEachHead

end ReactiveScript
