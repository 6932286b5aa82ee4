import ReactiveScript.Proofs.Grammar.RoundTrip

/-! # How an expression opens

Statements are told apart by their first tokens before any expression is read. `TokenStream.Opens`
says what these tokens can be where an expression is read successfully: a type at the start is the
type of a cast, with an arrow behind it, so that no declaration is seen there. -/

namespace ReactiveScript

/-- Whether a token may start an expression. -/
def Token.startsExpr (token : Token) : Bool :=
  token.kind ∈ [.number, .imaginary, .text, .identifier] ||
    ["true", "false", "(", "[", "\x7b", "!", "-"].any token.is || token.startsType

/-- **An expression opens a stream**: its first token may start one, and if that starts a type then
the whole type is there and an arrow follows it. -/
structure TokenStream.Opens (stream : TokenStream) : Prop where
  /-- The first token. -/
  starts : stream.peek.startsExpr = true
  /-- What follows a type. -/
  cast : stream.peek.startsType = true →
    ∃ target rest, Parse.type.run stream = .ok (target, rest) ∧ rest.peek.is "->" = true

/-- One of the symbols and keywords that start an expression starts it. -/
theorem Token.startsExpr_of_is {token : Token} {text : String} (h : token.is text = true)
    (mem : text ∈ ["true", "false", "(", "[", "\x7b", "!", "-"]) : token.startsExpr = true := by
  have any : ["true", "false", "(", "[", "\x7b", "!", "-"].any token.is = true :=
    List.any_eq_true.mpr ⟨text, mem, h⟩
  simp [Token.startsExpr, any]

namespace Parse

variable {α β : Type} {stepped : Bool} {level : Level} {fuel : Nat}

/-- Where one rule after another succeeds, both do. -/
theorem exists_of_run_bind {rule : Parse α} {next : α → Parse β} {stream after : TokenStream}
    {result : β} (h : (rule >>= next).run stream = .ok (result, after)) :
    ∃ value between, rule.run stream = .ok (value, between) ∧
      (next value).run between = .ok (result, after) := by
  rw [StateT.run_bind] at h
  cases same : rule.run stream with
  | error fault =>
    rw [same] at h
    cases h
  | ok pair =>
    rw [same] at h
    exact ⟨pair.1, pair.2, rfl, h⟩

/-- A demanded symbol that was taken stands there. -/
theorem is_of_run_expect {text context : String} {stream after : TokenStream} {result : Unit}
    (h : (expect text context).run stream = .ok (result, after)) : stream.peek.is text = true := by
  unfold expect sees at h
  simp only [bind_assoc, pure_bind] at h
  rw [run_peek_bind] at h
  split at h
  · assumption
  · cases h

/-- What holds no operators starts an expression, and with no type. -/
theorem opens_of_primary {stream after : TokenStream} {value : Expr}
    (h : (primaryWithin stepped fuel).run stream = .ok (value, after)) :
    stream.peek.startsExpr = true ∧ stream.peek.startsType = false := by
  cases fuel with
  | zero => cases h
  | succ fuel =>
    rw [primaryWithin, run_peek_bind] at h
    generalize stream.peek = token at h ⊢
    have word (text : String) (found : token.is text = true)
        (mem : text ∈ ["true", "false", "(", "[", "\x7b", "!", "-"])
        (other : isTypeKeyword text = false ∧ text ≠ "?") :
        token.startsExpr = true ∧ token.startsType = false :=
      ⟨Token.startsExpr_of_is found mem, Token.startsType_of_is found other.1 other.2⟩
    split at h
    case h_1 kind => simp [Token.startsExpr, Token.startsType, kind]
    case h_2 kind => simp [Token.startsExpr, Token.startsType, kind]
    case h_3 kind => simp [Token.startsExpr, Token.startsType, kind]
    case h_4 kind => simp [Token.startsExpr, Token.startsType, kind]
    case h_5 =>
      split at h
      · exact word "true" (by assumption) (by decide) (by decide)
      split at h
      · exact word "false" (by assumption) (by decide) (by decide)
      split at h
      · exact word "(" (by assumption) (by decide) (by decide)
      split at h
      · exact word "[" (by assumption) (by decide) (by decide)
      split at h
      · exact word "\x7b" (by assumption) (by decide) (by decide)
      · cases h

/-- An operator before an operand opens an expression, and so does a cast. -/
theorem opens_of_unary {stream after : TokenStream} {value : Expr}
    (ih : ∀ {stream after : TokenStream} {value : Expr},
      (exprWithin stepped fuel .indexed).run stream = .ok (value, after) → stream.Opens)
    (h : (exprWithin stepped (fuel + 1) .unary).run stream = .ok (value, after)) :
    stream.Opens := by
  rw [exprWithin, acceptAny, bind_assoc, run_peek_bind] at h
  split at h
  · rename_i found
    obtain ⟨text, mem, is⟩ := List.any_eq_true.mp found
    refine ⟨Token.startsExpr_of_is is ?_, fun typed => ?_⟩
    · exact List.mem_append_right ["true", "false", "(", "[", "\x7b"] mem
    have untyped : ∀ text ∈ ["!", "-"], isTypeKeyword text = false ∧ text ≠ "?" := by decide
    rw [Token.startsType_of_is is (untyped text mem).1 (untyped text mem).2] at typed
    cases typed
  · rw [pure_bind] at h
    dsimp only at h
    rw [run_peek_bind] at h
    split at h
    · rename_i typed
      obtain ⟨target, rest, read, h⟩ := exists_of_run_bind h
      obtain ⟨_, _, arrow, _⟩ := exists_of_run_bind h
      exact ⟨by simp [Token.startsExpr, typed],
        fun _ => ⟨target, rest, read, is_of_run_expect arrow⟩⟩
    · exact ih h

/-- **Where an expression is read, one opens the stream.** -/
theorem opens_of_run {stream after : TokenStream} {value : Expr}
    (h : (exprWithin stepped fuel level).run stream = .ok (value, after)) : stream.Opens := by
  induction fuel generalizing level stream after value with
  | zero => cases h
  | succ fuel ih =>
    -- All other layers start with an expression of a tighter one.
    have chain (isChain : level.isChain = true) : stream.Opens := by
      rw [exprWithin_chain stepped fuel isChain] at h
      obtain ⟨_, _, first, _⟩ := exists_of_run_bind h
      exact ih first
    cases level with
    | range =>
      rw [exprWithin] at h
      obtain ⟨_, _, first, _⟩ := exists_of_run_bind h
      exact ih first
    | unary => exact opens_of_unary ih h
    | indexed =>
      rw [exprWithin] at h
      obtain ⟨_, _, first, _⟩ := exists_of_run_bind h
      exact ih first
    | primary =>
      rw [exprWithin] at h
      obtain ⟨starts, untyped⟩ := opens_of_primary h
      exact ⟨starts, fun typed => absurd typed (by simp [untyped])⟩
    | either | both | equality | order | sum | product => exact chain rfl

/-- **A name** is an expression by itself where nothing goes on with it. -/
theorem run_expr_name {name : Token} {rest : List Token} {ending : Span}
    (kind : name.kind = .identifier)
    (stops : (TokenStream.peek ⟨rest, ending⟩).continuesExpr = false) :
    expr.run ⟨name :: rest, ending⟩ = .ok (.var name.span name.lexeme, ⟨rest, ending⟩) := by
  have reads : Reads true .either [name] (.var name.span name.lexeme) :=
    (Reads.var kind).at (Nat.zero_le _)
  exact reads.run_exprStepped rest ending (Token.stops_of_continuesExpr stops)

end Parse

end ReactiveScript
