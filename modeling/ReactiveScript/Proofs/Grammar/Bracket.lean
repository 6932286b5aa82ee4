import ReactiveScript.Proofs.Grammar.Label

/-! # Brackets

An expression may be put in brackets: in parentheses, as the only item of a list, as the only
argument of a call, or as the position of an index. What is read then is the expression in its place
(`Parse.Encloses`), and where ranges may take a step it is read for every expression that can be
read without the brackets. In a key of a dictionary and in a label of a case ranges take no step,
and the brackets do not change that: an expression in which a range takes one is refused there
(`Parse.bracketed_reads`). -/

namespace ReactiveScript

namespace Parse

variable {stepped : Bool} {level : Level} {fuel : Nat} {inner tokens rest : List Token}
variable {ending : Span} {expression whole : Expr}

/-! ## One reading -/

/-- **Tokens are read in one way.** Where two expressions are read off the start of a stream and
none of them goes on, they are the same. -/
theorem Reads.unique {first second rest' : List Token} {left right : Expr}
    (h : Reads stepped level first left) (h' : Reads stepped level second right)
    (same : first ++ rest = second ++ rest')
    (stops : (TokenStream.peek ⟨rest, ending⟩).Stops stepped level)
    (stops' : (TokenStream.peek ⟨rest', ending⟩).Stops stepped level) : left = right := by
  have ran := h.run_eq rest ending (layers * (first.length + second.length) + 1)
    (by unfold layers; omega) stops
  have ran' := h'.run_eq rest' ending (layers * (first.length + second.length) + 1)
    (by unfold layers; omega) stops'
  rw [same, ran'] at ran
  cases ran
  rfl

/-- **A step is not passed over.** An expression that goes on no further is read off tokens in which
a range takes a step; where ranges may take none, no rule comes to a place where it might end. -/
theorem isStepless_of_run {after : TokenStream} {value : Expr}
    (reads : Reads true level tokens expression)
    (stops : (TokenStream.peek ⟨rest, ending⟩).Stops true level)
    (ran : (exprWithin false fuel level).run ⟨tokens ++ rest, ending⟩ = .ok (value, after))
    (stops' : after.peek.Stops true level) : expression.isStepless = true := by
  obtain ⟨taken, same, alike⟩ := (exprConsumes fuel).expr _ _ _ _ _ ran
  have stepless : value.isStepless = true := alike.stepless rfl
  obtain ⟨ahead, ending'⟩ := after
  injection same with same ends
  subst ends
  -- What has been read without steps could have been read with them as well.
  rw [reads.unique (alike.reads true (.inr stepless)) same stops stops']
  exact stepless

/-! ## Where expressions end -/

/-- A token that ends every expression: a bracket that closes, or a comma. -/
def Ends (token : Token) : Prop := ∃ text ∈ [")", "]", ","], token.is text = true

/-- Nothing goes on behind such a token. -/
theorem Ends.stops {token : Token} (h : Ends token) (stepped : Bool) (level : Level) :
    token.Stops stepped level := by
  obtain ⟨text, mem, is⟩ := h
  have : ∀ text ∈ [")", "]", ","], text ∉ level.continuing stepped := by
    cases level <;> cases stepped <;> decide
  exact Token.stops_of_is is (this text mem)

/-- An expression that a list or a call goes on behind has ended. -/
theorem ends_of_run_separated {α : Type} {text context : String} {next : Parse α}
    {finish : Unit → Parse α} {stream after : TokenStream} {value : α}
    (closes : text = ")" ∨ text = "]")
    (ran : (accept "," >>= fun more =>
      if more then next else expect text context >>= finish).run stream = .ok (value, after)) :
    Ends stream.peek := by
  cases comma : stream.peek.is "," with
  | true => exact ⟨",", by simp, comma⟩
  | false =>
    rw [run_bind_of (run_accept_other comma), if_neg Bool.false_ne_true] at ran
    obtain ⟨_, _, ran, _⟩ := exists_of_run_bind ran
    exact ⟨text, by rcases closes with rfl | rfl <;> simp, is_of_run_expect ran⟩

/-! ## Layers around what is indexed -/

/-- **What starts with no operator and no type starts with something indexed.** Down to there every
layer begins with the next tighter one. -/
theorem exists_run_indexed {token : Token} {value : Expr} {after : TokenStream}
    (starts : token.Starts .indexed) (loose : level.rank ≤ Level.indexed.rank)
    (ran : (exprWithin stepped fuel level).run ⟨token :: rest, ending⟩ = .ok (value, after)) :
    ∃ fuel' value' after',
      (exprWithin stepped fuel' .indexed).run ⟨token :: rest, ending⟩ = .ok (value', after') := by
  induction fuel generalizing level value after with
  | zero => cases ran
  | succ fuel ih =>
    have chain (isChain : level.isChain = true) (tight : level.tighter.rank ≤ Level.indexed.rank) :
        ∃ fuel' value' after',
          (exprWithin stepped fuel' .indexed).run ⟨token :: rest, ending⟩ =
            .ok (value', after') := by
      rw [exprWithin_chain stepped fuel isChain] at ran
      obtain ⟨_, _, first, _⟩ := exists_of_run_bind ran
      exact ih tight first
    cases level with
    | range =>
      rw [exprWithin] at ran
      obtain ⟨_, _, first, _⟩ := exists_of_run_bind ran
      exact ih (by decide) first
    | unary =>
      obtain ⟨plain, plain', untyped⟩ := starts.operand (Nat.le_refl _)
      rw [exprWithin, run_bind_of (run_acceptAny_other (by simp [plain, plain'])),
        run_peek_bind, TokenStream.peek_cons, untyped] at ran
      exact ih (by decide) ran
    | indexed => exact ⟨_, _, _, ran⟩
    | primary => exact absurd loose (by decide)
    | either | both | equality | order | sum | product => exact chain rfl (by decide)

/-- What is indexed has a primary before its indices. -/
theorem exists_run_primary {stream after : TokenStream} {value : Expr}
    (ran : (exprWithin stepped fuel .indexed).run stream = .ok (value, after)) :
    ∃ fuel' target between, (primaryWithin stepped (fuel' + 1)).run stream =
        .ok (target, between) ∧
      (indicesWithin stepped (fuel' + 2) target).run between = .ok (value, after) := by
  cases fuel with
  | zero => cases ran
  | succ fuel =>
    rw [exprWithin] at ran
    obtain ⟨target, between, first, indices⟩ := exists_of_run_bind ran
    -- What is indexed takes two more calls until its first token is looked at.
    cases fuel with
    | zero => cases first
    | succ fuel =>
      rw [exprWithin] at first
      cases fuel with
      | zero => cases first
      | succ fuel => exact ⟨fuel, target, between, first, indices⟩

/-! ## Expressions in brackets -/

/-- **An expression in brackets**, and what is read of it. -/
inductive Encloses (inner : List Token) (expression : Expr) : List Token → Expr → Prop
  /-- Parentheses. -/
  | group {opening closing : Token} : opening.is "(" = true → closing.is ")" = true →
    Encloses inner expression (opening :: (inner ++ [closing])) expression
  /-- A list of one item. -/
  | list {opening closing : Token} : opening.is "[" = true → closing.is "]" = true →
    Encloses inner expression (opening :: (inner ++ [closing])) (.list opening.span [expression])
  /-- A call with one argument. -/
  | call {name opening closing : Token} : name.kind = .identifier → opening.is "(" = true →
    closing.is ")" = true →
    Encloses inner expression (name :: opening :: (inner ++ [closing]))
      (.call name.span name.lexeme [expression])
  /-- An index behind a name. -/
  | index {name opening closing : Token} : name.kind = .identifier → opening.is "[" = true →
    closing.is "]" = true →
    Encloses inner expression (name :: opening :: (inner ++ [closing]))
      (.index opening.span (.var name.span name.lexeme) expression)

namespace Encloses

/-- The brackets are read where the expression is. -/
theorem reads (h : Encloses inner expression tokens whole)
    (h' : Reads stepped .either inner expression) : Reads stepped .indexed tokens whole := by
  cases h with
  | group opens closes => exact (h'.group opens closes).indexed
  | list opens closes => exact (Reads.list opens (.last h') closes).indexed
  | call kind opens closes => exact (Reads.call kind opens (.inr (.last h')) closes).indexed
  | @index name opening closing kind opens closes =>
    have := (Reads.var kind).indexed.index h' opens closes
    exact this

variable {value : Expr} {after : TokenStream} {opening closing : Token}

/-- An expression is read on its way to the end of the brackets around it. -/
def Within (stepped : Bool) (inner : List Token) (closing : Token) (rest : List Token)
    (ending : Span) : Prop :=
  ∃ fuel value after, Ends (TokenStream.peek after) ∧
    (exprWithin stepped fuel .either).run ⟨inner ++ closing :: rest, ending⟩ = .ok (value, after)

/-- In parentheses. -/
theorem within_group (opens : opening.is "(" = true)
    (ran : (primaryWithin stepped (fuel + 1)).run ⟨opening :: (inner ++ closing :: rest), ending⟩ =
      .ok (value, after)) : Within stepped inner closing rest ending := by
  rw [run_primaryWithin_group opens] at ran
  obtain ⟨value, after, read, ran⟩ := exists_of_run_bind ran
  obtain ⟨_, _, closes, _⟩ := exists_of_run_bind ran
  exact ⟨fuel, value, after, ⟨")", by simp, is_of_run_expect closes⟩, read⟩

/-- As the first item of a list. -/
theorem within_list (opens : opening.is "[" = true)
    (unclosed : (TokenStream.peek ⟨inner ++ closing :: rest, ending⟩).is "]" = false)
    (ran : (primaryWithin stepped (fuel + 1)).run ⟨opening :: (inner ++ closing :: rest), ending⟩ =
      .ok (value, after)) : Within stepped inner closing rest ending := by
  rw [run_primaryWithin_list opens] at ran
  obtain ⟨items, after, ran, _⟩ := exists_of_run_bind ran
  cases fuel with
  | zero => cases ran
  | succ fuel =>
    rw [itemsWithin, run_bind_of (run_accept_other unclosed), if_neg Bool.false_ne_true] at ran
    obtain ⟨item, after, read, ran⟩ := exists_of_run_bind ran
    exact ⟨fuel, item, after, ends_of_run_separated (.inr rfl) ran, read⟩

/-- As the first argument of a call. -/
theorem within_call {name : Token} (kind : name.kind = .identifier) (opens : opening.is "(" = true)
    (unclosed : (TokenStream.peek ⟨inner ++ closing :: rest, ending⟩).is ")" = false)
    (ran : (primaryWithin stepped (fuel + 1)).run
      ⟨name :: opening :: (inner ++ closing :: rest), ending⟩ = .ok (value, after)) :
    Within stepped inner closing rest ending := by
  rw [primaryWithin, run_peek_bind, TokenStream.peek_cons, kind] at ran
  dsimp only at ran
  rw [run_advance_bind, run_bind_of (run_accept opens), if_pos rfl] at ran
  obtain ⟨arguments, after, ran, _⟩ := exists_of_run_bind ran
  cases fuel with
  | zero => cases ran
  | succ fuel =>
    rw [argumentsWithin, run_bind_of (run_accept_other unclosed), if_neg Bool.false_ne_true] at ran
    cases fuel with
    | zero => cases ran
    | succ fuel =>
      rw [moreArgumentsWithin] at ran
      obtain ⟨argument, after, read, ran⟩ := exists_of_run_bind ran
      exact ⟨fuel, argument, after, ends_of_run_separated (.inl rfl) ran, read⟩

/-- As the position of an index. -/
theorem within_index {target : Expr} (opens : opening.is "[" = true)
    (ran : (indicesWithin stepped (fuel + 1) target).run
      ⟨opening :: (inner ++ closing :: rest), ending⟩ = .ok (value, after)) :
    Within stepped inner closing rest ending := by
  have isOpening : ["["].any opening.is = true := by simp [opens]
  rw [indicesWithin, run_bind_of (run_acceptAny isOpening)] at ran
  obtain ⟨position, after, read, ran⟩ := exists_of_run_bind ran
  obtain ⟨_, _, closes, _⟩ := exists_of_run_bind ran
  exact ⟨fuel, position, after, ⟨"]", by simp, is_of_run_expect closes⟩, read⟩

/-- **The expression in the brackets is read** where the brackets are. -/
theorem within (h : Encloses inner expression tokens whole)
    (starts : ∃ first more, inner = first :: more ∧ first.Starts .either)
    (ran : (exprWithin stepped fuel .indexed).run ⟨tokens ++ rest, ending⟩ = .ok (value, after)) :
    ∃ closing, Ends closing ∧ Within stepped inner closing rest ending := by
  obtain ⟨fuel, target, between, ran, indices⟩ := exists_run_primary ran
  obtain ⟨first, more, rfl, starts⟩ := starts
  cases h with
  | @group opening closing opens closes =>
    rw [List.cons_append, List.append_assoc, List.singleton_append] at ran
    exact ⟨closing, ⟨_, by simp, closes⟩, within_group opens ran⟩
  | @list opening closing opens closes =>
    rw [List.cons_append, List.append_assoc, List.singleton_append] at ran
    exact ⟨closing, ⟨_, by simp, closes⟩, within_list opens starts.list ran⟩
  | @call name opening closing kind opens closes =>
    rw [List.cons_append, List.cons_append, List.append_assoc, List.singleton_append] at ran
    exact ⟨closing, ⟨_, by simp, closes⟩, within_call kind opens starts.group ran⟩
  | @index name opening closing kind opens closes =>
    -- The name is what is indexed, because no argument follows it.
    have uncalled : (TokenStream.peek
        ⟨opening :: (first :: more ++ closing :: rest), ending⟩).is "(" = false := by
      simp [Token.is_of_is opens]
    rw [List.cons_append, List.cons_append, List.append_assoc, List.singleton_append,
      primaryWithin, run_peek_bind, TokenStream.peek_cons, kind] at ran
    dsimp only at ran
    rw [run_advance_bind, run_bind_of (run_accept_other uncalled)] at ran
    cases ran
    exact ⟨closing, ⟨_, by simp, closes⟩, within_index opens indices⟩

/-- The first token of what is in brackets starts something indexed. -/
theorem starts (h : Encloses inner expression tokens whole) :
    ∃ first more, tokens = first :: more ∧ first.Starts .indexed := by
  cases h with
  | group opens _ => exact ⟨_, _, rfl, starts_of_bracket opens (by simp)⟩
  | list opens _ => exact ⟨_, _, rfl, starts_of_bracket opens (by simp)⟩
  | call kind _ _ =>
    exact ⟨_, _, rfl, Token.starts_of_kind (by simp [kind]) (by simp [kind])⟩
  | index kind _ _ =>
    exact ⟨_, _, rfl, Token.starts_of_kind (by simp [kind]) (by simp [kind])⟩

/-- **Where ranges take no step, brackets are read only around expressions without one.** -/
theorem isStepless (h : Encloses inner expression tokens whole)
    (reads : Reads true .either inner expression) (loose : level.rank ≤ Level.indexed.rank)
    (ran : (exprWithin false fuel level).run ⟨tokens ++ rest, ending⟩ = .ok (value, after)) :
    expression.isStepless = true := by
  obtain ⟨first, more, rfl, starts⟩ := h.starts
  obtain ⟨fuel, value, after, ran⟩ := exists_run_indexed starts loose ran
  obtain ⟨closing, ends, fuel, value, after, ends', ran⟩ := h.within reads.starts ran
  have stops : (TokenStream.peek ⟨closing :: rest, ending⟩).Stops true .either :=
    ends.stops true .either
  exact isStepless_of_run reads stops ran (ends'.stops true .either)

end Encloses

/-! ## Where brackets are read -/

/-- **A rule reads tokens just if something holds.** It then comes to what follows them; otherwise
it refuses them with a syntax error. -/
structure ReadsIf (condition : Prop) (rule : Parse Expr) (tokens : List Token) (expression : Expr)
    (following : TokenStream) : Prop where
  /-- The rule reads the tokens. -/
  reads : condition → rule.run ⟨tokens ++ following.ahead, following.ending⟩ =
    .ok (expression, following)
  /-- The rule refuses the tokens. -/
  refuses : ¬condition → ∃ fault, rule.run ⟨tokens ++ following.ahead, following.ending⟩ =
    .error fault ∧ fault.kind = .syntaxError

/-- A rule that gives a value or a syntax error reads tokens just if it can give a value. -/
theorem ReadsIf.of_yields {condition : Prop} {rule : Parse Expr} {following : TokenStream}
    {good : Expr → Prop} {limit : Nat}
    (yields : Yields (fun _ => True) good limit rule ⟨tokens ++ following.ahead, following.ending⟩)
    (reads : condition → rule.run ⟨tokens ++ following.ahead, following.ending⟩ =
      .ok (expression, following))
    (only : ∀ value after, rule.run ⟨tokens ++ following.ahead, following.ending⟩ =
      .ok (value, after) → condition) : ReadsIf condition rule tokens expression following := by
  refine ⟨reads, fun not => ?_⟩
  cases yields with
  | value ran _ _ _ => exact absurd (only _ _ ran) not
  | fault ran kind _ => exact ⟨_, ran, kind⟩

/-- Where places do not matter, every stream stands at its places. -/
theorem placed_anywhere (stream : TokenStream) : stream.Placed fun _ => True :=
  ⟨fun _ _ => trivial, trivial⟩

/-- **Expressions in brackets are read wherever their layer is asked for**, unless ranges take no
step there and one in the brackets does. -/
theorem Encloses.readsIf (h : Encloses inner expression tokens whole)
    (alike : ReadsAlike true .either inner expression) {following : TokenStream}
    (loose : level.rank ≤ Level.indexed.rank) (stops : following.peek.Stops stepped level)
    (enough : 16 * (tokens ++ following.ahead).length + 11 ≤ fuel + level.rank) :
    ReadsIf (stepped = true ∨ expression.isStepless = true) (exprWithin stepped fuel level) tokens
      whole following := by
  refine .of_yields ((exprRules _ fuel).expr (placed_anywhere _) enough) (fun may => ?_) ?_
  · refine ((h.reads (alike.reads stepped may)).at loose).run_eq following.ahead following.ending
      fuel ?_ stops
    rw [List.length_append] at enough
    unfold layers
    omega
  · intro value after ran
    cases stepped with
    | true => exact .inl rfl
    | false => exact .inr (h.isStepless (alike.reads true (.inl rfl)) loose ran)

/-- **As an expression by itself**, with the fuel that the tokens are given. -/
theorem Encloses.readsIf_stepped (h : Encloses inner expression tokens whole)
    (alike : ReadsAlike true .either inner expression) {following : TokenStream}
    (stops : following.peek.Stops stepped .either) :
    ReadsIf (stepped = true ∨ expression.isStepless = true) (exprStepped stepped) tokens whole
      following := by
  have within : ReadsIf (stepped = true ∨ expression.isStepless = true)
      (exprWithin stepped (layers * ((tokens ++ following.ahead).length + 1)) .either) tokens whole
      following := by
    refine h.readsIf alike (by decide) stops ?_
    unfold layers Level.rank
    omega
  refine ⟨fun may => ?_, fun not => ?_⟩
  · rw [run_exprStepped]
    exact within.reads may
  · rw [run_exprStepped]
    exact within.refuses not

/-- **As the key of a dictionary** with one entry. -/
theorem Encloses.readsIf_key (h : Encloses inner expression tokens whole)
    (alike : ReadsAlike true .either inner expression) {following : TokenStream}
    {brace colon closing : Token} {valued : List Token} {value : Expr}
    (opens : brace.is "\x7b" = true) (is : colon.is ":" = true)
    (reads : Reads true .either valued value) (closes : closing.is "\x7d" = true)
    (stops : following.peek.Stops true .either) :
    ReadsIf (expression.isStepless = true) expr
      (brace :: (tokens ++ colon :: (valued ++ [closing]))) (.dict brace.span [(whole, value)])
      following := by
  refine .of_yields (.expr (placed_anywhere _)) (fun stepless => ?_) fun result after ran => ?_
  · have key : Reads false .either tokens whole :=
      (h.reads (alike.reads false (.inr stepless))).at (by decide)
    have dict : Reads true .primary (brace :: (tokens ++ colon :: (valued ++ [closing])))
        (.dict brace.span [(whole, value)]) := by
      have entries := Series.last (ReadsEntry.intro key is reads)
      simpa using Reads.dict opens entries closes
    exact (dict.at (by decide)).run_exprStepped following.ahead following.ending stops
  · -- The entries are read behind the brace, and the key before all else.
    have unclosed : (TokenStream.peek
        ⟨tokens ++ colon :: (valued ++ closing :: following.ahead), following.ending⟩).is "\x7d" =
          false := by
      obtain ⟨first, more, rfl, starts⟩ := h.starts
      exact starts.dict
    have first : brace.Starts .indexed := starts_of_bracket opens (by simp)
    rw [run_expr, List.cons_append] at ran
    obtain ⟨fuel, value, after, ran⟩ := exists_run_indexed first (by decide) ran
    obtain ⟨fuel, value, after, ran, _⟩ := exists_run_primary ran
    rw [run_primaryWithin_dict opens, List.append_assoc, List.cons_append, List.append_assoc,
      List.singleton_append] at ran
    obtain ⟨entries, after, ran, _⟩ := exists_of_run_bind ran
    cases fuel with
    | zero => cases ran
    | succ fuel =>
      rw [entriesWithin, run_bind_of (run_accept_other unclosed), if_neg Bool.false_ne_true] at ran
      obtain ⟨key, after, ran, _⟩ := exists_of_run_bind ran
      exact h.isStepless (alike.reads true (.inl rfl)) (by decide) ran

/-- **Where brackets are read.** Take any tokens that are read to their end as an expression in an
ordinary statement, and put them in parentheses, make them the only item of a list, the only
argument of a call or an index. In an ordinary statement these are read as the expression in its
place, as part of whatever expression they stand in. In a label of a case and in a key of a
dictionary they are read so just if no range in the expression takes a step; otherwise they are
refused with a syntax error, though the brackets would tell the colon of the step from the one that
ends the label or the key. -/
theorem bracketed_reads (ran : expr.run ⟨inner, ending⟩ = .ok (expression, ⟨[], ending⟩))
    (h : Encloses inner expression tokens whole) :
    (∀ (stepped : Bool) (level : Level) (fuel : Nat) (following : TokenStream),
      level.rank ≤ Level.indexed.rank → following.peek.Stops stepped level →
      16 * (tokens ++ following.ahead).length + 11 ≤ fuel + level.rank →
      ReadsIf (stepped = true ∨ expression.isStepless = true) (exprWithin stepped fuel level) tokens
        whole following) ∧
    (∀ following : TokenStream, following.peek.Stops true .either →
      expr.run ⟨tokens ++ following.ahead, following.ending⟩ = .ok (whole, following)) ∧
    (∀ following : TokenStream, following.peek.is ":" = true →
      ReadsIf (expression.isStepless = true) (exprStepped false) tokens whole following) ∧
    ∀ (following : TokenStream) (brace colon closing : Token) (valued : List Token) (value : Expr)
      (ending' : Span), brace.is "\x7b" = true → colon.is ":" = true → closing.is "\x7d" = true →
      expr.run ⟨valued, ending'⟩ = .ok (value, ⟨[], ending'⟩) →
      following.peek.Stops true .either →
      ReadsIf (expression.isStepless = true) expr
        (brace :: (tokens ++ colon :: (valued ++ [closing]))) (.dict brace.span [(whole, value)])
        following := by
  have alike := readsAlike_of_run ran
  refine ⟨?_, ?_, ?_, ?_⟩
  · intro stepped level fuel following loose stops enough
    exact h.readsIf alike loose stops enough
  · intro following stops
    exact (h.readsIf_stepped alike stops).reads (.inl rfl)
  · intro following colon
    have stops : following.peek.Stops false .either := Token.stops_of_is colon (by decide)
    simpa using h.readsIf_stepped alike stops
  · intro following brace colon closing valued value ending' opens is closes ran' stops
    have reads := (readsAlike_of_run ran').reads true (.inl rfl)
    exact h.readsIf_key alike opens is reads closes stops

/-- A symbol at no known place. -/
def unplacedSymbol (text : String) : Token := ⟨.symbol, text, .unknown⟩

/-- The tokens of `1..3`. -/
def rangeTokens : List Token := unplaced [(.number, "1"), .symbol "..", (.number, "3")]

/-- The range from 1 to 3 with a step or without one. -/
def sampleRange (step : Option Expr) : Expr :=
  .range .unknown (.literal .unknown (.int 1)) (.literal .unknown (.int 3)) step false

/-- The range in parentheses is read as a label. -/
theorem bracketed_range :
    expr.run ⟨rangeTokens, .unknown⟩ = .ok (sampleRange none, ⟨[], .unknown⟩) ∧
      Encloses rangeTokens (sampleRange none)
        (unplacedSymbol "(" :: (rangeTokens ++ [unplacedSymbol ")"])) (sampleRange none) ∧
      (exprStepped false).run ⟨unplacedSymbol "(" :: (rangeTokens ++ [unplacedSymbol ")"]) ++
          [unplacedSymbol ":"], .unknown⟩ =
        .ok (sampleRange none, ⟨[unplacedSymbol ":"], .unknown⟩) := by
  have ran : expr.run ⟨rangeTokens, .unknown⟩ = .ok (sampleRange none, ⟨[], .unknown⟩) := rfl
  have encloses : Encloses rangeTokens (sampleRange none)
      (unplacedSymbol "(" :: (rangeTokens ++ [unplacedSymbol ")"])) (sampleRange none) :=
    .group rfl rfl
  obtain ⟨_, _, label, _⟩ := bracketed_reads ran encloses
  exact ⟨ran, encloses, (label ⟨[unplacedSymbol ":"], .unknown⟩ rfl).reads rfl⟩

/-- The tokens of `1..3:2`. -/
def steppedTokens : List Token := rangeTokens ++ unplacedSymbol ":" :: unplaced [(.number, "2")]

/-- **A step in brackets is refused** in the key of `{(1..3:2): 1}` and in the label of
`case (1..3:2):`, where the colon of the step is taken for the one behind the key or the label. The
range and the range in brackets are read by themselves. -/
theorem bracketed_step_refused :
    expr.run ⟨steppedTokens, .unknown⟩ =
        .ok (sampleRange (some (.literal .unknown (.int 2))), ⟨[], .unknown⟩) ∧
      expr.run ⟨unplacedSymbol "(" :: (steppedTokens ++ [unplacedSymbol ")"]), .unknown⟩ =
        .ok (sampleRange (some (.literal .unknown (.int 2))), ⟨[], .unknown⟩) ∧
      expr.run ⟨unplacedSymbol "\x7b" :: unplacedSymbol "(" :: (steppedTokens ++
          unplaced [.symbol ")", .symbol ":", (.number, "1"), .symbol "\x7d"]), .unknown⟩ =
        .error (.malformed "expected ')' to close group, found :" .unknown) ∧
      (casesWithin 4 none).run ⟨unplaced [.keyword "case", .symbol "("] ++ (steppedTokens ++
          unplaced [.symbol ")", .symbol ":", .symbol "\x7d"]), .unknown⟩ =
        .error (.malformed "expected ')' to close group, found :" .unknown) :=
  ⟨rfl, rfl, rfl, rfl⟩

end Parse

end ReactiveScript
