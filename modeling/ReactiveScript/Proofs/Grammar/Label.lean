import ReactiveScript.Proofs.Grammar.Inversion

/-! # Labels

The label of a case is an expression before a colon, and ranges take no step in it. An expression
that is read where ranges may take a step, and in which none has taken one, is read just so as a
label: its tokens are read alike in both ways (`Parse.exprConsumes`), and nothing goes on with a
label where the colon stands. -/

namespace ReactiveScript

mutual

/-- Whether a range takes a step does not depend on places. -/
theorem Expr.isStepless_bare : ∀ expression : Expr,
    expression.bare.isStepless = expression.isStepless
  | .literal .. => rfl
  | .var .. => rfl
  | .binary _ _ left right => by
    rw [bare, isStepless, isStepless, left.isStepless_bare, right.isStepless_bare]
  | .logical _ _ left right => by
    rw [bare, isStepless, isStepless, left.isStepless_bare, right.isStepless_bare]
  | .comparison _ _ left right => by
    rw [bare, isStepless, isStepless, left.isStepless_bare, right.isStepless_bare]
  | .unary _ _ operand => by rw [bare, isStepless, isStepless, operand.isStepless_bare]
  | .cast _ _ operand => by rw [bare, isStepless, isStepless, operand.isStepless_bare]
  | .call _ _ arguments => by rw [bare, isStepless, isStepless, areStepless_bareAll arguments]
  | .range _ first last none _ => by
    rw [bare, isStepless, isStepless, first.isStepless_bare, last.isStepless_bare]
  | .range _ _ _ (some _) _ => by rw [bare, isStepless, isStepless]
  | .list _ items => by rw [bare, isStepless, isStepless, areStepless_bareAll items]
  | .dict _ entries => by rw [bare, isStepless, isStepless, entriesStepless_bareEntries entries]
  | .index _ target position => by
    rw [bare, isStepless, isStepless, target.isStepless_bare, position.isStepless_bare]

/-- Nor does it in some expressions. -/
theorem Expr.areStepless_bareAll : ∀ expressions : List Expr,
    areStepless (bareAll expressions) = areStepless expressions
  | [] => rfl
  | first :: rest => by
    rw [bareAll, areStepless, areStepless, first.isStepless_bare, areStepless_bareAll rest]

/-- Nor does it in the entries of a dictionary. -/
theorem Expr.entriesStepless_bareEntries : ∀ entries : List (Expr × Expr),
    entriesStepless (bareEntries entries) = entriesStepless entries
  | [] => rfl
  | (key, value) :: rest => by
    rw [bareEntries, entriesStepless, entriesStepless, key.isStepless_bare, value.isStepless_bare,
      entriesStepless_bareEntries rest]

end

namespace Parse

/-- What is read to its end as an expression consumes all tokens. -/
theorem readsAlike_of_run {tokens : List Token} {ending : Span} {expression : Expr}
    (ran : expr.run ⟨tokens, ending⟩ = .ok (expression, ⟨[], ending⟩)) :
    ReadsAlike true .either tokens expression := by
  rw [run_expr] at ran
  obtain ⟨taken, same, alike⟩ := (exprConsumes _).expr _ _ _ _ _ ran
  rw [List.append_nil] at same
  cases same
  exact alike

/-- **A label is read like an expression.** Tokens that are read to their end as an expression
without a step are read as the same expression where a colon follows them and ranges take none. -/
theorem run_exprStepped_label {tokens rest : List Token} {ending ending' : Span} {label : Expr}
    (ran : expr.run ⟨tokens, ending⟩ = .ok (label, ⟨[], ending⟩))
    (stepless : label.isStepless = true)
    (colon : (TokenStream.peek ⟨rest, ending'⟩).word = .symbol ":") :
    (exprStepped false).run ⟨tokens ++ rest, ending'⟩ = .ok (label, ⟨rest, ending'⟩) := by
  have reads : Reads false .either tokens label :=
    (readsAlike_of_run ran).reads false (.inr stepless)
  have stops : (TokenStream.peek ⟨rest, ending'⟩).Stops false .either :=
    Token.stops_of_word colon (by decide)
  exact reads.run_exprStepped rest ending' stops

end Parse

end ReactiveScript
