import ReactiveScript.Proofs.Grammar.Printer

/-! # What the rules of the grammar read

`Parse.Reads` says that an expression of a layer is read off some tokens whatever follows them, as
long as the next token does not belong to the expression. For the layers that join operands from the
left the rule has not come to its end there: it goes on with what it has read as its first operand
(`Parse.goOn`). Every call of a rule costs fuel, and the statement counts how much is left. -/

namespace ReactiveScript

namespace Level

/-- Whether a layer joins its operands from the left. -/
def isChain : Level → Bool
  | .range | .unary | .indexed | .primary => false
  | _ => true

/-- The layer that has to have ended before a layer can go on. -/
def inner : Level → Level
  | .range => .range
  | .unary => .unary
  | level => level.tighter

/-- The symbols that go on with an expression of a layer; a step goes on with a range where ranges
may take one. -/
def continuing (stepped : Bool) : Level → List String
  | .primary => ["("]
  | .indexed => ["(", "["]
  | .unary => ["(", "["]
  | .product => ["(", "[", "*", "/", "%"]
  | .sum => ["(", "[", "*", "/", "%", "+", "-"]
  | .range => sums ++ steps
  | .order => sums ++ steps ++ ["<", "<=", ">", ">="]
  | .equality => sums ++ steps ++ ["<", "<=", ">", ">=", "==", "!="]
  | .both => sums ++ steps ++ ["<", "<=", ">", ">=", "==", "!=", "&"]
  | .either => sums ++ steps ++ ["<", "<=", ">", ">=", "==", "!=", "&", "|", "^"]
where
  /-- What goes on with a sum or starts a range of sums. -/
  sums : List String := ["(", "[", "*", "/", "%", "+", "-", "..", "..."]
  /-- What goes on with a range. -/
  steps : List String := if stepped then [":"] else []

/-- A chain is one layer looser than its operands. -/
theorem rank_tighter {level : Level} (h : level ≠ .primary) :
    level.tighter.rank = level.rank + 1 := by
  cases level <;> first | rfl | exact absurd rfl h

/-- Layers of the same rank are the same. -/
theorem rank_injective {first second : Level} (h : first.rank = second.rank) :
    first = second := by
  cases first <;> cases second <;> first | rfl | cases h

end Level

namespace Token

/-- The token does not go on with an expression of a layer. -/
def Stops (stepped : Bool) (level : Level) (token : Token) : Prop :=
  ∀ text ∈ level.continuing stepped, token.is text = false

/-- A token that does not go on with a layer does not go on with a tighter one. -/
theorem Stops.tighter {stepped : Bool} {level : Level} {token : Token}
    (h : token.Stops stepped level) : token.Stops stepped level.tighter := by
  have subset : ∀ text ∈ level.tighter.continuing stepped, text ∈ level.continuing stepped := by
    cases level <;> cases stepped <;> decide
  exact fun text mem => h text (subset text mem)

/-- A token that does not go on with a layer does not join operands of it. -/
theorem Stops.join? {stepped : Bool} {level : Level} {token : Token}
    (h : token.Stops stepped level) : level.join? token = none := by
  unfold Level.join?
  split
  · rename_i symbol
    have other {text : String} (mem : text ∈ level.continuing stepped) : token.lexeme ≠ text := by
      intro same
      have := h text mem
      simp [is, symbol, same] at this
    -- Every symbol that joins operands of a layer goes on with the layer.
    unfold Level.joinSymbol?
    split <;> first
      | rfl
      | exact absurd (by assumption) (other (by cases stepped <;> decide))
  · rfl

/-- What stands there as a symbol or keyword has its letters. -/
theorem kind_of_is {token : Token} {text : String} (h : token.is text = true) :
    (token.kind = .symbol ∨ token.kind = .keyword) ∧ token.lexeme = text := by
  simpa only [is, Bool.and_eq_true, Bool.or_eq_true, decide_eq_true_eq] using h

/-- A symbol or keyword that stands there is no other one. -/
theorem is_of_is {token : Token} {symbol : String} (h : token.is symbol = true) (text : String) :
    token.is text = decide (symbol = text) := by
  simp only [is, Bool.and_eq_true, decide_eq_true_eq] at h
  simp [is, h.1, h.2]

/-- A token with the word of a symbol is that symbol. -/
theorem is_symbol {token : Token} {symbol : String} (h : token.word = .symbol symbol) :
    token.is symbol = true := by
  obtain ⟨kind, lexeme, span⟩ := token
  cases h
  simp [is]

/-- A symbol that is none of those that go on with a layer. -/
theorem stops_of_is {stepped : Bool} {level : Level} {token : Token} {symbol : String}
    (h : token.is symbol = true) (none : symbol ∉ level.continuing stepped) :
    token.Stops stepped level := by
  intro text mem
  rw [is_of_is h]
  exact decide_eq_false fun same => none (same ▸ mem)

/-- A symbol that is none of those that go on with a layer. -/
theorem stops_of_word {stepped : Bool} {level : Level} {token : Token} {symbol : String}
    (h : token.word = .symbol symbol) (none : symbol ∉ level.continuing stepped) :
    token.Stops stepped level :=
  stops_of_is (is_symbol h) none

/-- The only symbol that starts a type is the question mark; all other types start with a word. -/
theorem startsType_of_is {token : Token} {text : String} (h : token.is text = true)
    (other : isTypeKeyword text = false) (mark : text ≠ "?") : token.startsType = false := by
  obtain ⟨kind, lexeme, span⟩ := token
  simp only [Token.is, Bool.and_eq_true, decide_eq_true_eq] at h
  obtain ⟨_, rfl⟩ := h
  unfold Token.startsType
  split
  · exact other
  · exact decide_eq_false mark
  · rfl

/-- The token may be the first of an expression of a layer: it closes no bracket, and from the layer
of indexing on it is no operator before an operand and starts no type. -/
structure Starts (level : Level) (token : Token) : Prop where
  /-- It closes no group and no call. -/
  group : token.is ")" = false
  /-- It closes no list. -/
  list : token.is "]" = false
  /-- It closes no dictionary. -/
  dict : token.is "\x7d" = false
  /-- It comes before no operand. -/
  operand : Level.indexed.rank ≤ level.rank →
    token.is "!" = false ∧ token.is "-" = false ∧ token.startsType = false

/-- What starts an expression of a layer starts one of the next looser layer. -/
theorem Starts.looser {level : Level} {token : Token} (h : token.Starts level.tighter) :
    token.Starts level := by
  refine ⟨h.group, h.list, h.dict, fun tight => h.operand ?_⟩
  cases level <;> first
    | exact Nat.le_refl _
    | exact Nat.le_succ _
    | exact absurd tight (by decide)

/-- A number, text or name starts an expression of every layer. -/
theorem starts_of_kind {level : Level} {token : Token} (symbol : token.kind ≠ .symbol)
    (keyword : token.kind ≠ .keyword) : token.Starts level := by
  have other (text : String) : token.is text = false := by simp [is, symbol, keyword]
  refine ⟨other _, other _, other _, fun _ => ⟨other _, other _, ?_⟩⟩
  unfold startsType
  split <;> first
    | exact absurd (by assumption) symbol
    | exact absurd (by assumption) keyword
    | rfl

/-- What starts a type may start an operand, and is no operator before one. -/
theorem starts_of_startsType {token : Token} (h : token.startsType = true) :
    token.Starts .unary ∧ ["!", "-"].any token.is = false := by
  have other (text : String) (word : isTypeKeyword text = false) (mark : text ≠ "?") :
      token.is text = false := by
    cases is : token.is text with
    | false => rfl
    | true =>
      rw [startsType_of_is is word mark] at h
      cases h
  refine ⟨⟨?_, ?_, ?_, fun tight => absurd tight (by decide)⟩, ?_⟩
  · exact other ")" (by decide) (by decide)
  · exact other "]" (by decide) (by decide)
  · exact other "\x7d" (by decide) (by decide)
  · simp [other "!" (by decide) (by decide), other "-" (by decide) (by decide)]

end Token

namespace Parse

/-! ## Single steps -/

variable {α β : Type} {stepped : Bool} {level : Level} {fuel : Nat} {rest : List Token}
variable {token : Token} {ending : Span}

/-- A rule after another one starts where that has ended. -/
theorem run_bind_of {rule : Parse α} {next : α → Parse β} {stream after : TokenStream} {value : α}
    (h : rule.run stream = .ok (value, after)) :
    (rule >>= next).run stream = (next value).run after := by
  rw [StateT.run_bind, h]
  rfl

/-- A rule that looks at the next token. -/
theorem run_peek_bind (next : Token → Parse β) (stream : TokenStream) :
    (peek >>= next).run stream = (next stream.peek).run stream := rfl

/-- A rule that passes over the next token. -/
theorem run_advance_bind (next : Unit → Parse β) (token : Token) (rest : List Token)
    (ending : Span) :
    (advance >>= next).run ⟨token :: rest, ending⟩ = (next ()).run ⟨rest, ending⟩ := rfl

/-- A symbol that stands there is taken. -/
theorem run_accept {text : String} (h : token.is text = true) :
    (accept text).run ⟨token :: rest, ending⟩ = .ok (true, ⟨rest, ending⟩) := by
  unfold accept sees
  simp only [bind_assoc, pure_bind]
  rw [run_peek_bind, TokenStream.peek_cons, if_pos h]
  rfl

/-- A symbol that does not stand there is not taken. -/
theorem run_accept_other {text : String} {stream : TokenStream} (h : stream.peek.is text = false) :
    (accept text).run stream = .ok (false, stream) := by
  unfold accept sees
  simp only [bind_assoc, pure_bind]
  rw [run_peek_bind, h]
  rfl

/-- One of some symbols that stands there is taken. -/
theorem run_acceptAny {texts : List String} (h : texts.any token.is = true) :
    (acceptAny texts).run ⟨token :: rest, ending⟩ = .ok (some token, ⟨rest, ending⟩) := by
  unfold acceptAny
  rw [run_peek_bind, TokenStream.peek_cons, if_pos h]
  rfl

/-- Symbols that do not stand there are not taken. -/
theorem run_acceptAny_other {texts : List String} {stream : TokenStream}
    (h : ∀ text ∈ texts, stream.peek.is text = false) :
    (acceptAny texts).run stream = .ok (none, stream) := by
  unfold acceptAny
  rw [run_peek_bind, if_neg]
  · rfl
  · simpa using h

/-- A demanded symbol that stands there is taken. -/
theorem run_expect {text context : String} (h : token.is text = true) :
    (expect text context).run ⟨token :: rest, ending⟩ = .ok ((), ⟨rest, ending⟩) := by
  unfold expect sees
  simp only [bind_assoc, pure_bind]
  rw [run_peek_bind, TokenStream.peek_cons, if_pos h]
  rfl

/-! ## Reading a layer -/

/-- How a layer goes on after an expression that it has read. -/
def goOn (stepped : Bool) (fuel : Nat) : Level → Expr → Parse Expr
  | .range, left => return left
  | .unary, left => return left
  | .primary, left => return left
  | .indexed, left => indicesWithin stepped fuel left
  | level, left => chainWithin stepped fuel level left

/-- **An expression of a layer is read off tokens.** Whatever follows them, if only it does not go
on with what the layer is made of, the rule of the layer comes to what follows and goes on there; of
its fuel so much is left as was spared beyond sixteen for each token. -/
structure Reads (stepped : Bool) (level : Level) (tokens : List Token) (expression : Expr) :
    Prop where
  /-- The first token may start an expression of the layer. -/
  starts : ∃ first more, tokens = first :: more ∧ first.Starts level
  /-- The rule comes to the end of the tokens. -/
  run : ∀ (rest : List Token) (ending : Span) (fuel spare : Nat), 1 ≤ spare →
    layers * tokens.length + spare ≤ fuel + level.rank →
    (TokenStream.peek ⟨rest, ending⟩).Stops stepped level.inner →
    ∃ left, spare ≤ left ∧
      (exprWithin stepped fuel level).run ⟨tokens ++ rest, ending⟩ =
        (goOn stepped left level expression).run ⟨rest, ending⟩

/-- A layer ends where the next token does not go on with it. -/
theorem run_goOn {expression : Expr} {stream : TokenStream} (positive : 1 ≤ fuel)
    (h : stream.peek.Stops stepped level) :
    (goOn stepped fuel level expression).run stream = .ok (expression, stream) := by
  obtain ⟨fuel, rfl⟩ : ∃ n, fuel = n + 1 := ⟨fuel - 1, by omega⟩
  have chain : (chainWithin stepped (fuel + 1) level expression).run stream =
      .ok (expression, stream) := by
    rw [chainWithin, run_peek_bind, h.join?]
    rfl
  cases level with
  | indexed =>
    rw [goOn, indicesWithin, run_bind_of (run_acceptAny_other fun text mem => h text ?_)]
    · rfl
    · rw [List.mem_singleton.mp mem]
      exact List.mem_cons_of_mem _ List.mem_cons_self
  | range => rfl
  | unary => rfl
  | primary => rfl
  | _ => exact chain

/-- An expression that is read is read to its end where the next token does not go on with it. -/
theorem Reads.run_eq {tokens : List Token} {expression : Expr}
    (h : Reads stepped level tokens expression) (rest : List Token) (ending : Span) (fuel : Nat)
    (enough : layers * tokens.length + 1 ≤ fuel + level.rank)
    (stops : (TokenStream.peek ⟨rest, ending⟩).Stops stepped level) :
    (exprWithin stepped fuel level).run ⟨tokens ++ rest, ending⟩ =
      .ok (expression, ⟨rest, ending⟩) := by
  have inside : (TokenStream.peek ⟨rest, ending⟩).Stops stepped level.inner := by
    unfold Level.inner
    split
    · exact stops
    · exact stops
    · exact stops.tighter
  obtain ⟨left, spared, same⟩ := h.run rest ending fuel 1 (Nat.le_refl 1) enough inside
  rw [same, run_goOn spared stops]

/-- At least one token is read. -/
theorem Reads.length_pos {tokens : List Token} {expression : Expr}
    (h : Reads stepped level tokens expression) : 1 ≤ tokens.length := by
  obtain ⟨first, more, rfl, _⟩ := h.starts
  exact Nat.succ_le_succ (Nat.zero_le _)

/-! ## From one layer to the next looser one -/

variable {tokens : List Token} {expression : Expr}

/-- There is fuel for at least one call of a rule. -/
theorem exists_fuel {spare : Nat} (nonempty : 1 ≤ tokens.length) (positive : 1 ≤ spare)
    (h : layers * tokens.length + spare ≤ fuel + level.rank) :
    ∃ less, fuel = less + 1 ∧ layers * tokens.length + 1 ≤ less + (level.rank + 1) ∧
      spare ≤ less := by
  -- There are ten layers, and every token pays for more calls than that.
  have : level.rank ≤ 9 := by cases level <;> decide
  unfold layers at h ⊢
  exact ⟨fuel - 1, by omega, by omega, by omega⟩

/-- The rule of a chain. -/
theorem exprWithin_chain (stepped : Bool) (fuel : Nat) (chain : level.isChain = true) :
    exprWithin stepped (fuel + 1) level = (do
      let left ← exprWithin stepped fuel level.tighter
      chainWithin stepped fuel level left) := by
  rw [exprWithin]
  all_goals
    intro same
    rw [same] at chain
    cases chain

/-- A chain goes on by its rule. -/
theorem goOn_chain (stepped : Bool) (fuel : Nat) (chain : level.isChain = true) (left : Expr) :
    goOn stepped fuel level left = chainWithin stepped fuel level left := by
  cases level <;> first
    | rfl
    | cases chain

/-- What is read as a layer starts like the next looser one. -/
theorem Reads.starts_looser (h : Reads stepped level.tighter tokens expression) :
    ∃ first more, tokens = first :: more ∧ first.Starts level := by
  obtain ⟨first, more, same, starts⟩ := h.starts
  exact ⟨first, more, same, starts.looser⟩

/-- An operand alone is a chain. -/
theorem Reads.chain (chain : level.isChain = true)
    (h : Reads stepped level.tighter tokens expression) :
    Reads stepped level tokens expression := by
  refine ⟨h.starts_looser, fun rest ending fuel spare positive enough stops => ?_⟩
  obtain ⟨fuel, rfl, enough, left⟩ := exists_fuel h.length_pos positive enough
  have tighter : level.tighter.rank = level.rank + 1 := by
    refine Level.rank_tighter fun same => ?_
    rw [same] at chain
    cases chain
  have inside : (TokenStream.peek ⟨rest, ending⟩).Stops stepped level.tighter := by
    cases level <;> first
      | exact stops
      | cases chain
  refine ⟨fuel, left, ?_⟩
  rw [exprWithin_chain stepped fuel chain, goOn_chain stepped fuel chain]
  exact run_bind_of (h.run_eq rest ending fuel (tighter ▸ enough) inside)

/-- A sum alone is a range. -/
theorem Reads.range (h : Reads stepped .sum tokens expression) :
    Reads stepped .range tokens expression := by
  refine ⟨Reads.starts_looser h, fun rest ending fuel spare positive enough stops => ?_⟩
  obtain ⟨fuel, rfl, enough, left⟩ := exists_fuel h.length_pos positive enough
  refine ⟨fuel, left, ?_⟩
  rw [exprWithin, run_bind_of (h.run_eq rest ending fuel enough stops.tighter),
    run_bind_of (run_acceptAny_other fun text mem => stops text ?_)]
  · rfl
  · have subset : ∀ text ∈ ["..", "..."], text ∈ Level.range.continuing stepped := by
      cases stepped <;> decide
    exact subset text mem

/-- Something indexed is an operand: it starts with no operator and no type. -/
theorem Reads.unary (h : Reads stepped .indexed tokens expression) :
    Reads stepped .unary tokens expression := by
  refine ⟨Reads.starts_looser h, fun rest ending fuel spare positive enough stops => ?_⟩
  obtain ⟨fuel, rfl, enough, left⟩ := exists_fuel h.length_pos positive enough
  refine ⟨fuel, left, ?_⟩
  obtain ⟨token, more, rfl, starts⟩ := h.starts
  obtain ⟨plain, plain', untyped⟩ := starts.operand (Nat.le_refl _)
  have operators : ∀ text ∈ ["!", "-"], token.is text = false :=
    List.forall_mem_cons.mpr ⟨plain, List.forall_mem_singleton.mpr plain'⟩
  rw [exprWithin, run_bind_of (run_acceptAny_other operators), run_peek_bind]
  simp only [List.cons_append, TokenStream.peek_cons, untyped, Bool.false_eq_true, if_false]
  exact h.run_eq rest ending fuel enough stops.tighter

/-- A primary alone is something indexed. -/
theorem Reads.indexed (h : Reads stepped .primary tokens expression) :
    Reads stepped .indexed tokens expression := by
  refine ⟨Reads.starts_looser h, fun rest ending fuel spare positive enough stops => ?_⟩
  obtain ⟨fuel, rfl, enough, left⟩ := exists_fuel h.length_pos positive enough
  refine ⟨fuel, left, ?_⟩
  rw [exprWithin]
  exact run_bind_of (h.run_eq rest ending fuel enough stops)

/-- What is read as a layer is read as the next looser one. -/
theorem Reads.looser (h : Reads stepped level.tighter tokens expression) :
    Reads stepped level tokens expression := by
  cases level with
  | range => exact h.range
  | unary => exact h.unary
  | indexed => exact h.indexed
  | primary => exact h
  | _ => exact h.chain rfl

/-- What is read as a layer is read as every looser one. -/
theorem Reads.at {position : Level} (h : Reads stepped level tokens expression)
    (loose : position.rank ≤ level.rank) : Reads stepped position tokens expression := by
  obtain ⟨steps, same⟩ : ∃ steps, level.rank = position.rank + steps :=
    ⟨level.rank - position.rank, by omega⟩
  induction steps generalizing position with
  | zero => rwa [Level.rank_injective same] at h
  | succ steps ih =>
    have inner : position ≠ .primary := by
      rintro rfl
      have : level.rank ≤ Level.primary.rank := by cases level <;> decide
      omega
    have tighter := Level.rank_tighter inner
    exact (ih (by omega) (by omega)).looser

/-! ## Operators -/

variable {left right : List Token} {first second : Expr}

/-- **Two operands of a chain.** The rule comes to the operator with the first operand as what it
has read, takes the operator and the second operand, and goes on with both joined. -/
theorem Reads.join {join : Expr → Expr → Expr} (chain : level.isChain = true)
    (h : Reads stepped level left first) (h' : Reads stepped level.tighter right second)
    (joins : level.join? token = some join) (stops : token.Stops stepped level.tighter) :
    Reads stepped level (left ++ token :: right) (join first second) := by
  refine ⟨?_, fun rest ending fuel spare positive enough follow => ?_⟩
  · obtain ⟨opening, more, rfl, starts⟩ := h.starts
    exact ⟨opening, more ++ token :: right, rfl, starts⟩
  · have inner : level.inner = level.tighter := by
      cases level <;> first
        | rfl
        | cases chain
    rw [inner] at follow
    rw [List.length_append, List.length_cons] at enough
    obtain ⟨spared, bound, same⟩ := h.run (token :: (right ++ rest)) ending fuel
      (layers * (right.length + 1) + spare) (by omega) (by unfold layers at *; omega)
      (by rwa [inner, TokenStream.peek_cons])
    obtain ⟨spared, rfl⟩ : ∃ n, spared = n + 1 := ⟨spared - 1, by unfold layers at bound; omega⟩
    refine ⟨spared, by unfold layers at bound; omega, ?_⟩
    rw [List.append_assoc, List.cons_append, same, goOn_chain stepped _ chain, chainWithin,
      run_peek_bind, TokenStream.peek_cons, joins, goOn_chain stepped _ chain]
    dsimp only
    rw [run_advance_bind]
    exact run_bind_of (h'.run_eq rest ending spared (by unfold layers at *; omega) follow)

/-- A range without a step. -/
theorem Reads.rangePlain (h : Reads stepped .sum left first) (h' : Reads stepped .sum right second)
    (is : ["..", "..."].any token.is = true) (stops : token.Stops stepped .sum) :
    Reads stepped .range (left ++ token :: right)
      (.range token.span first second none (token.lexeme = "...")) := by
  refine ⟨?_, fun rest ending fuel spare positive enough follow => ?_⟩
  · obtain ⟨opening, more, rfl, starts⟩ := h.starts
    exact ⟨opening, more ++ token :: right, rfl, Token.Starts.looser starts⟩
  · rw [List.length_append, List.length_cons] at enough
    change _ ≤ fuel + 4 at enough
    have bounds := h.length_pos
    obtain ⟨fuel, rfl⟩ : ∃ n, fuel = n + 2 := ⟨fuel - 2, by unfold layers at enough; omega⟩
    have stepless : (stepWithin stepped (fuel + 1)).run ⟨rest, ending⟩ =
        .ok (none, ⟨rest, ending⟩) := by
      rw [stepWithin]
      cases stepped with
      | false => rfl
      | true =>
        -- A colon would be a step, and so would go on with the range.
        rw [if_pos rfl]
        exact run_bind_of (run_accept_other (follow ":" (by decide)))
    refine ⟨fuel + 1, by unfold layers at enough; omega, ?_⟩
    rw [List.append_assoc, List.cons_append, exprWithin,
      run_bind_of (h.run_eq (token :: (right ++ rest)) ending
        (fuel + 1) (by change _ ≤ fuel + 1 + 5; unfold layers at *; omega) stops),
      run_bind_of (run_acceptAny is)]
    dsimp only
    rw [run_bind_of (h'.run_eq rest ending (fuel + 1)
      (by change _ ≤ fuel + 1 + 5; unfold layers at *; omega) follow.tighter),
      run_bind_of stepless]
    rfl

/-- A range with a step, where ranges may take one. -/
theorem Reads.rangeStepped {step : List Token} {third : Expr} {colon : Token}
    (h : Reads true .sum left first) (h' : Reads true .sum right second)
    (h'' : Reads true .sum step third) (is : ["..", "..."].any token.is = true)
    (stops : token.Stops true .sum) (isColon : colon.is ":" = true)
    (stops' : colon.Stops true .sum) :
    Reads true .range (left ++ token :: (right ++ colon :: step))
      (.range token.span first second (some third) (token.lexeme = "...")) := by
  refine ⟨?_, fun rest ending fuel spare positive enough follow => ?_⟩
  · obtain ⟨opening, more, rfl, starts⟩ := h.starts
    exact ⟨opening, more ++ token :: (right ++ colon :: step), rfl, Token.Starts.looser starts⟩
  · rw [List.length_append, List.length_cons, List.length_append, List.length_cons] at enough
    change _ ≤ fuel + 4 at enough
    have bounds := h.length_pos
    obtain ⟨fuel, rfl⟩ : ∃ n, fuel = n + 2 := ⟨fuel - 2, by unfold layers at enough; omega⟩
    have step : (stepWithin true (fuel + 1)).run ⟨colon :: (step ++ rest), ending⟩ =
        .ok (some third, ⟨rest, ending⟩) := by
      rw [stepWithin, if_pos rfl, run_bind_of (run_accept isColon), if_pos rfl,
        run_bind_of (h''.run_eq rest ending fuel
          (by change _ ≤ fuel + 5; unfold layers at *; omega) follow.tighter)]
      rfl
    refine ⟨fuel + 1, by unfold layers at enough; omega, ?_⟩
    rw [List.append_assoc, List.cons_append, List.append_assoc, List.cons_append, exprWithin,
      run_bind_of (h.run_eq (token :: (right ++ colon :: (_ ++ rest))) ending
        (fuel + 1) (by change _ ≤ fuel + 1 + 5; unfold layers at *; omega) stops),
      run_bind_of (run_acceptAny is)]
    dsimp only
    rw [run_bind_of (h'.run_eq (colon :: (_ ++ rest)) ending (fuel + 1)
      (by change _ ≤ fuel + 1 + 5; unfold layers at *; omega) stops'),
      run_bind_of step]
    rfl

/-- An operator before an operand. -/
theorem Reads.operator (h : Reads stepped .unary tokens expression)
    (is : ["!", "-"].any token.is = true) (starts : token.Starts .unary) :
    Reads stepped .unary (token :: tokens)
      (.unary token.span (if token.lexeme = "!" then .not else .negate) expression) := by
  refine ⟨⟨token, tokens, rfl, starts⟩, fun rest ending fuel spare positive enough follow => ?_⟩
  rw [List.length_cons] at enough
  change _ ≤ fuel + 7 at enough
  obtain ⟨fuel, rfl⟩ : ∃ n, fuel = n + 1 := ⟨fuel - 1, by unfold layers at enough; omega⟩
  refine ⟨fuel, by unfold layers at enough; omega, ?_⟩
  rw [exprWithin, List.cons_append, run_bind_of (run_acceptAny is)]
  dsimp only
  rw [run_bind_of (h.run_eq rest ending fuel (by change _ ≤ fuel + 7; unfold layers at *; omega)
    follow)]
  rfl

/-! ## Types -/

/-- **A type is read off tokens.** Behind a type without parameters no bracket may open. -/
structure ReadsType (tokens : List Token) (target : Ty) : Prop where
  /-- The first token starts a type. -/
  starts : ∃ first more, tokens = first :: more ∧ first.startsType = true
  /-- The rule comes to the end of the tokens. -/
  run : ∀ (rest : List Token) (ending : Span) (fuel : Nat), tokens.length ≤ fuel →
    (TokenStream.peek ⟨rest, ending⟩).is "<" = false →
    (typeWithin fuel).run ⟨tokens ++ rest, ending⟩ = .ok (target, ⟨rest, ending⟩)

namespace ReadsType

/-- A word that names a type by itself. -/
theorem word (starts : token.startsType = true) (list : token.lexeme ≠ "list")
    (dict : token.lexeme ≠ "dict") : ReadsType [token] (Ty.ofWord token.lexeme) := by
  refine ⟨⟨_, _, rfl, starts⟩, fun rest ending fuel enough _ => ?_⟩
  obtain ⟨fuel, rfl⟩ : ∃ n, fuel = n + 1 := ⟨fuel - 1, (Nat.sub_add_cancel enough).symm⟩
  rw [List.singleton_append, typeWithin, run_peek_bind, TokenStream.peek_cons, starts]
  simp only [Bool.not_true, Bool.false_eq_true, if_false, if_neg list, if_neg dict]
  rfl

/-- The type of a list after its first word. -/
theorem run_list (starts : token.startsType = true) (list : token.lexeme = "list") :
    (typeWithin (fuel + 1)).run ⟨token :: rest, ending⟩ =
      (accept "<" >>= fun opened =>
        if opened then do
          let element ← typeWithin fuel
          expect ">" "to close list type"
          return .list element
        else return .anyList).run ⟨rest, ending⟩ := by
  rw [typeWithin, run_peek_bind, TokenStream.peek_cons, starts]
  simp only [Bool.not_true, Bool.false_eq_true, if_false, if_pos list]
  rfl

/-- The type of a dictionary after its first word. -/
theorem run_dict (starts : token.startsType = true) (dict : token.lexeme = "dict") :
    (typeWithin (fuel + 1)).run ⟨token :: rest, ending⟩ =
      (accept "<" >>= fun opened =>
        if opened then do
          let key ← typeWithin fuel
          expect "," "between dict key and value types"
          let value ← typeWithin fuel
          expect ">" "to close dict type"
          return .dict key value
        else return .anyDict).run ⟨rest, ending⟩ := by
  rw [typeWithin, run_peek_bind, TokenStream.peek_cons, starts]
  simp only [Bool.not_true, Bool.false_eq_true, if_false, dict, if_true]
  rfl

/-- A list of anything. -/
theorem anyList (starts : token.startsType = true) (list : token.lexeme = "list") :
    ReadsType [token] .anyList := by
  refine ⟨⟨_, _, rfl, starts⟩, fun rest ending fuel enough follow => ?_⟩
  obtain ⟨fuel, rfl⟩ : ∃ n, fuel = n + 1 := ⟨fuel - 1, (Nat.sub_add_cancel enough).symm⟩
  rw [List.singleton_append, run_list starts list, run_bind_of (run_accept_other follow)]
  rfl

/-- A dictionary of anything. -/
theorem anyDict (starts : token.startsType = true) (dict : token.lexeme = "dict") :
    ReadsType [token] .anyDict := by
  refine ⟨⟨_, _, rfl, starts⟩, fun rest ending fuel enough follow => ?_⟩
  obtain ⟨fuel, rfl⟩ : ∃ n, fuel = n + 1 := ⟨fuel - 1, (Nat.sub_add_cancel enough).symm⟩
  rw [List.singleton_append, run_dict starts dict, run_bind_of (run_accept_other follow)]
  rfl

/-- A symbol other than an opening bracket stops a type. -/
theorem unopened {symbol : String} (h : token.is symbol = true) (other : symbol ≠ "<")
    (rest : List Token) (ending : Span) :
    (TokenStream.peek ⟨token :: rest, ending⟩).is "<" = false := by
  rw [TokenStream.peek_cons, Token.is_of_is h]
  exact decide_eq_false other

/-- A list of items of a type. -/
theorem list {bracket closing : Token} {inner : List Token} {element : Ty}
    (starts : token.startsType = true) (list : token.lexeme = "list")
    (opens : bracket.is "<" = true) (h : ReadsType inner element)
    (closes : closing.is ">" = true) :
    ReadsType (token :: bracket :: (inner ++ [closing])) (.list element) := by
  refine ⟨⟨_, _, rfl, starts⟩, fun rest ending fuel enough _ => ?_⟩
  simp only [List.length_cons, List.length_append, List.length_nil] at enough
  obtain ⟨fuel, rfl⟩ : ∃ n, fuel = n + 1 := ⟨fuel - 1, by omega⟩
  have stops := unopened closes (by decide) rest ending
  rw [List.cons_append, List.cons_append, List.append_assoc, List.singleton_append,
    run_list starts list, run_bind_of (run_accept opens), if_pos rfl,
    run_bind_of (h.run _ ending fuel (by omega) stops), run_bind_of (run_expect closes)]
  rfl

/-- A dictionary of keys and values of types. -/
theorem dict {bracket comma closing : Token} {first second : List Token} {key value : Ty}
    (starts : token.startsType = true) (dict : token.lexeme = "dict")
    (opens : bracket.is "<" = true) (h : ReadsType first key) (between : comma.is "," = true)
    (h' : ReadsType second value) (closes : closing.is ">" = true) :
    ReadsType (token :: bracket :: (first ++ comma :: (second ++ [closing])))
      (.dict key value) := by
  refine ⟨⟨_, _, rfl, starts⟩, fun rest ending fuel enough _ => ?_⟩
  simp only [List.length_cons, List.length_append, List.length_nil] at enough
  obtain ⟨fuel, rfl⟩ : ∃ n, fuel = n + 1 := ⟨fuel - 1, by omega⟩
  have stops := unopened between (by decide) (second ++ closing :: rest) ending
  have stops' := unopened closes (by decide) rest ending
  rw [List.cons_append, List.cons_append, List.append_assoc, List.cons_append, List.append_assoc,
    List.singleton_append, run_dict starts dict, run_bind_of (run_accept opens), if_pos rfl,
    run_bind_of (h.run _ ending fuel (by omega) stops), run_bind_of (run_expect between),
    run_bind_of (h'.run _ ending fuel (by omega) stops'), run_bind_of (run_expect closes)]
  rfl

/-- **A type is read off its words.** -/
theorem of_words {target : Ty} (known : target.isKnown = true) {tokens : List Token}
    (spelled : tokens.map Token.word = target.words) : ReadsType tokens target := by
  have keyword {token : Token} {name : String} (h : token.word = (.keyword, name))
      (named : isTypeKeyword name = true) : token.startsType = true ∧ token.lexeme = name := by
    obtain ⟨kind, lexeme, span⟩ := token
    cases h
    exact ⟨named, rfl⟩
  induction target generalizing tokens with
  | unknown name => cases known
  | list element ih =>
    rw [Ty.words] at spelled
    split at spelled
    · rename_i any
      rw [Ty.isAny, decide_eq_true_iff] at any
      obtain ⟨token, rfl, word⟩ := List.map_eq_singleton_iff.mp spelled
      obtain ⟨starts, lexeme⟩ := keyword word rfl
      rw [any]
      exact .anyList starts lexeme
    · obtain ⟨token, more, rfl, word, spelled⟩ := List.map_eq_cons_iff.mp spelled
      obtain ⟨bracket, more, rfl, opens, spelled⟩ := List.map_eq_cons_iff.mp spelled
      obtain ⟨inner, more, rfl, inside, spelled⟩ := List.map_eq_append_iff.mp spelled
      obtain ⟨closing, rfl, closes⟩ := List.map_eq_singleton_iff.mp spelled
      obtain ⟨starts, lexeme⟩ := keyword word rfl
      exact .list starts lexeme (Token.is_symbol opens) (ih known inside) (Token.is_symbol closes)
  | dict key value ihKey ihValue =>
    rw [Ty.isKnown, Bool.and_eq_true] at known
    rw [Ty.words] at spelled
    split at spelled
    · rename_i any
      rw [Ty.isAny, Ty.isAny, Bool.and_eq_true, decide_eq_true_iff, decide_eq_true_iff] at any
      obtain ⟨token, rfl, word⟩ := List.map_eq_singleton_iff.mp spelled
      obtain ⟨starts, lexeme⟩ := keyword word rfl
      rw [any.1, any.2]
      exact .anyDict starts lexeme
    · obtain ⟨token, more, rfl, word, spelled⟩ := List.map_eq_cons_iff.mp spelled
      obtain ⟨bracket, more, rfl, opens, spelled⟩ := List.map_eq_cons_iff.mp spelled
      obtain ⟨first, more, rfl, keyed, spelled⟩ := List.map_eq_append_iff.mp spelled
      obtain ⟨comma, more, rfl, between, spelled⟩ := List.map_eq_cons_iff.mp spelled
      obtain ⟨second, more, rfl, valued, spelled⟩ := List.map_eq_append_iff.mp spelled
      obtain ⟨closing, rfl, closes⟩ := List.map_eq_singleton_iff.mp spelled
      obtain ⟨starts, lexeme⟩ := keyword word rfl
      exact .dict starts lexeme (Token.is_symbol opens) (ihKey known.1 keyed)
        (Token.is_symbol between) (ihValue known.2 valued) (Token.is_symbol closes)
  | _ =>
    obtain ⟨⟨kind, lexeme, span⟩, rfl, spelled⟩ := List.map_eq_singleton_iff.mp spelled
    cases spelled
    exact .word rfl (by simp) (by simp)

end ReadsType

/-- A cast: a type, an arrow and an operand. -/
theorem Reads.cast {typed : List Token} {arrow : Token} {target : Ty}
    (h : Reads stepped .unary tokens expression) (h' : ReadsType (token :: typed) target)
    (points : arrow.is "->" = true) :
    Reads stepped .unary (token :: (typed ++ arrow :: tokens))
      (.cast token.span target expression) := by
  have typeStarts : token.startsType = true := by
    obtain ⟨_, _, same, starts⟩ := h'.starts
    cases same
    exact starts
  obtain ⟨starts, plain⟩ := Token.starts_of_startsType typeStarts
  refine ⟨⟨token, _, rfl, starts⟩, fun rest ending fuel spare positive enough follow => ?_⟩
  -- The arrow opens no bracket, so the type ends before it.
  have typed_run : type.run ⟨token :: (typed ++ arrow :: (tokens ++ rest)), ending⟩ =
      .ok (target, ⟨arrow :: (tokens ++ rest), ending⟩) := by
    change (typeWithin (_ + 1)).run _ = _
    rw [← List.cons_append]
    refine h'.run _ ending _ ?_ (ReadsType.unopened points (by decide) _ _)
    simp only [List.length_append, List.length_cons]
    omega
  simp only [List.length_cons, List.length_append] at enough
  change _ ≤ fuel + 7 at enough
  obtain ⟨fuel, rfl⟩ : ∃ n, fuel = n + 1 := ⟨fuel - 1, by unfold layers at enough; omega⟩
  refine ⟨fuel, by unfold layers at enough; omega, ?_⟩
  rw [exprWithin, List.cons_append, List.append_assoc, List.cons_append,
    run_bind_of (run_acceptAny_other (by simpa using plain))]
  dsimp only
  rw [run_peek_bind, TokenStream.peek_cons, if_pos typeStarts, run_bind_of typed_run,
    run_bind_of (run_expect points),
    run_bind_of (h.run_eq rest ending fuel (by change _ ≤ fuel + 7; unfold layers at *; omega)
      follow)]
  rfl

/-- An index behind something indexed. -/
theorem Reads.index {bracket closing : Token} (h : Reads stepped .indexed left first)
    (h' : Reads stepped .either right second) (opens : bracket.is "[" = true)
    (closes : closing.is "]" = true) :
    Reads stepped .indexed (left ++ bracket :: (right ++ [closing]))
      (.index bracket.span first second) := by
  refine ⟨?_, fun rest ending fuel spare positive enough follow => ?_⟩
  · obtain ⟨opening, more, rfl, starts⟩ := h.starts
    exact ⟨opening, more ++ bracket :: (right ++ [closing]), rfl, starts⟩
  · have inside : closing.Stops stepped .either :=
      Token.stops_of_is closes (by cases stepped <;> decide)
    have isOpening : ["["].any bracket.is = true := by simp [opens]
    simp only [List.length_append, List.length_cons, List.length_nil] at enough
    -- What is indexed spares the fuel for the position and the two brackets.
    obtain ⟨spared, bound, same⟩ := h.run (bracket :: (right ++ closing :: rest)) ending fuel
      (layers * (right.length + 2) + spare) (by omega) (by unfold layers at *; omega)
      (Token.stops_of_is opens (by cases stepped <;> decide))
    obtain ⟨spared, rfl⟩ : ∃ n, spared = n + 1 := ⟨spared - 1, by unfold layers at bound; omega⟩
    refine ⟨spared, by unfold layers at bound; omega, ?_⟩
    rw [List.append_assoc, List.cons_append, List.append_assoc, List.singleton_append, same, goOn,
      indicesWithin, run_bind_of (run_acceptAny isOpening)]
    dsimp only
    rw [run_bind_of (h'.run_eq (closing :: rest) ending spared
      (by change _ ≤ spared + 0; unfold layers at *; omega) inside),
      run_bind_of (run_expect closes)]
    rfl

end Parse

end ReactiveScript
