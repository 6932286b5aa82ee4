import ReactiveScript.Proofs.Place.Rule

/-! # Where expressions stand

Every rule for expressions is given a bound on how deep the calls of the rules may go. Between two
tokens the rules call each other at most `Parse.layers` times, so a bound of that many calls for
every token that is left, and a few for the layers that are still to be passed, is never used up.
`Parse.ExprRules` says so of all rules at one bound, with the places of what they give, and
`Parse.exprRules` proves it by induction on the bound, one rule at a time. -/

namespace ReactiveScript

variable {places : Span → Prop}

/-- Operands at some places are joined by a token at one of them. -/
theorem Level.placed_join {level : Level} {token : Token} {join : Expr → Expr → Expr}
    (h : level.join? token = some join) (here : places token.span) {left right : Expr}
    (first : left.Placed places) (second : right.Placed places) :
    (join left right).Placed places := by
  unfold join? joinSymbol? at h
  repeat' split at h
  all_goals cases h
  all_goals first
    | exact .logical here _ first second
    | exact .comparison here _ first second
    | exact .binary here _ first second

/-- A token that joins operands is not the ending. -/
theorem Level.kind_ne_ending_of_join? {level : Level} {token : Token} {join : Expr → Expr → Expr}
    (h : level.join? token = some join) : token.kind ≠ .ending := by
  intro ending
  simp [join?, ending] at h

/-- A number that cannot be read is refused where it stands. -/
theorem numberLiteral_error {token : Token} {fault : Fault}
    (h : numberLiteral token = .error fault) :
    fault.kind = .syntaxError ∧ fault.span = token.span := by
  simp only [numberLiteral] at h
  repeat' split at h
  all_goals cases h
  all_goals exact ⟨rfl, rfl⟩

/-- An imaginary number that cannot be read is refused where it stands. -/
theorem imaginaryLiteral_error {token : Token} {fault : Fault}
    (h : imaginaryLiteral token = .error fault) :
    fault.kind = .syntaxError ∧ fault.span = token.span := by
  unfold imaginaryLiteral at h
  split at h
  all_goals cases h
  exact ⟨rfl, rfl⟩

namespace Parse

variable {stream : TokenStream} {fuel : Nat} {stepped : Bool}

/-- All of some expressions stand at some places. -/
abbrev AllPlaced (places : Span → Prop) (expressions : List Expr) : Prop :=
  ∀ expression ∈ expressions, expression.Placed places

/-- An expression that may be left out stands at some places. -/
abbrev OptionPlaced (places : Span → Prop) (expression : Option Expr) : Prop :=
  ∀ value ∈ expression, value.Placed places

/-- All entries of a dictionary stand at some places. -/
abbrev EntriesPlaced (places : Span → Prop) (entries : List (Expr × Expr)) : Prop :=
  (∀ entry ∈ entries, entry.1.Placed places) ∧ ∀ entry ∈ entries, entry.2.Placed places

/-- **What the rules for expressions yield** at one bound, where the bound is wide enough for the
tokens that are left. -/
structure ExprRules (places : Span → Prop) (fuel : Nat) : Prop where
  /-- An expression of a layer takes a token. -/
  expr {stepped : Bool} {level : Level} {stream : TokenStream} (placed : stream.Placed places)
    (bounded : 16 * stream.left + 11 ≤ fuel + level.rank) :
    Yields places (Expr.Placed places) stream.left (exprWithin stepped fuel level) stream
  /-- A step may be there or not. -/
  step {stepped : Bool} {stream : TokenStream} (placed : stream.Placed places)
    (bounded : 16 * stream.left < fuel) :
    Yields places (OptionPlaced places) (stream.left + 1) (stepWithin stepped fuel) stream
  /-- Further operands may be there or not. -/
  chain {stepped : Bool} {level : Level} {left : Expr} {stream : TokenStream}
    (placed : stream.Placed places) (first : left.Placed places)
    (bounded : 16 * stream.left < fuel) :
    Yields places (Expr.Placed places) (stream.left + 1) (chainWithin stepped fuel level left)
      stream
  /-- Indices may be there or not. -/
  indices {stepped : Bool} {target : Expr} {stream : TokenStream} (placed : stream.Placed places)
    (container : target.Placed places) (bounded : 16 * stream.left < fuel) :
    Yields places (Expr.Placed places) (stream.left + 1) (indicesWithin stepped fuel target) stream
  /-- What holds no operators takes a token. -/
  primary {stepped : Bool} {stream : TokenStream} (placed : stream.Placed places)
    (bounded : 16 * stream.left < fuel) :
    Yields places (Expr.Placed places) stream.left (primaryWithin stepped fuel) stream
  /-- Arguments take a token, the closing bracket. -/
  arguments {stepped : Bool} {stream : TokenStream} (placed : stream.Placed places)
    (bounded : 16 * stream.left + 13 ≤ fuel) :
    Yields places (AllPlaced places) stream.left (argumentsWithin stepped fuel) stream
  /-- So do the arguments of which one has to follow. -/
  moreArguments {stepped : Bool} {stream : TokenStream} (placed : stream.Placed places)
    (bounded : 16 * stream.left + 12 ≤ fuel) :
    Yields places (AllPlaced places) stream.left (moreArgumentsWithin stepped fuel) stream
  /-- So do the items of a list. -/
  items {stepped : Bool} {stream : TokenStream} (placed : stream.Placed places)
    (bounded : 16 * stream.left + 12 ≤ fuel) :
    Yields places (AllPlaced places) stream.left (itemsWithin stepped fuel) stream
  /-- So do the entries of a dictionary. -/
  entries {stepped : Bool} {stream : TokenStream} (placed : stream.Placed places)
    (bounded : 16 * stream.left + 12 ≤ fuel) :
    Yields places (EntriesPlaced places) stream.left (entriesWithin stepped fuel) stream

namespace ExprRules

/-! ## One call more -/

/-- A range. -/
theorem range_succ (h : ExprRules places fuel) (placed : stream.Placed places)
    (bounded : 16 * stream.left + 7 ≤ fuel + 1) :
    Yields places (Expr.Placed places) stream.left (exprWithin stepped (fuel + 1) .range)
      stream := by
  rw [exprWithin]
  refine .bind (h.expr placed ?_) fun first rest lower placed fewer => ?_
  · simp only [Level.rank]
    omega
  refine .acceptAny_bind placed (fun op rest' _ here placed fewer' => ?_) ?_
  · refine .bind (h.expr placed ?_) fun last rest upper placed fewer => ?_
    · simp only [Level.rank]
      omega
    refine .bind (h.step placed (by omega)) fun step rest inner placed fewer => ?_
    exact .pure (.range here lower upper inner _) placed (by omega)
  · exact .pure lower placed fewer

/-- Operators before an operand, and casts. -/
theorem unary_succ (h : ExprRules places fuel) (placed : stream.Placed places)
    (bounded : 16 * stream.left + 4 ≤ fuel + 1) :
    Yields places (Expr.Placed places) stream.left (exprWithin stepped (fuel + 1) .unary)
      stream := by
  rw [exprWithin]
  refine .acceptAny_bind placed (fun op rest _ here placed fewer => ?_) (.peek_bind ?_)
  · refine .bind (h.expr placed ?_) fun operand rest inner placed fewer => ?_
    · simp only [Level.rank]
      omega
    exact .pure (.unary here _ inner) placed (by omega)
  have here := placed.peek
  split
  · refine .bind (.type placed) fun target rest _ placed fewer => ?_
    refine .bind (.expect placed _ _) fun _ rest _ placed fewer => ?_
    refine .bind (h.expr placed ?_) fun operand rest inner placed fewer => ?_
    · simp only [Level.rank]
      omega
    exact .pure (.cast here target inner) placed (by omega)
  · refine h.expr placed ?_
    simp only [Level.rank]
    omega

/-- **An expression of a layer.** -/
theorem expr_succ (h : ExprRules places fuel) {level : Level} (placed : stream.Placed places)
    (bounded : 16 * stream.left + 11 ≤ fuel + 1 + level.rank) :
    Yields places (Expr.Placed places) stream.left (exprWithin stepped (fuel + 1) level)
      stream := by
  -- A chain is read as its first operand and what may follow it.
  have chain (isChain : level.isChain = true) : Yields places (Expr.Placed places) stream.left
      (exprWithin stepped (fuel + 1) level) stream := by
    have tighter : level.tighter.rank = level.rank + 1 :=
      Level.rank_tighter (by rintro rfl; cases isChain)
    have loose : level.rank ≤ 6 := by cases level <;> first | decide | cases isChain
    rw [exprWithin_chain stepped fuel isChain]
    refine .bind (h.expr placed (by omega)) fun left rest first placed fewer => ?_
    exact (h.chain placed first (by omega)).imp (fun _ holds => holds) (by omega)
  cases level with
  | range => exact h.range_succ placed (by simp only [Level.rank] at bounded; omega)
  | unary => exact h.unary_succ placed (by simp only [Level.rank] at bounded; omega)
  | indexed =>
    simp only [Level.rank] at bounded
    rw [exprWithin]
    refine .bind (h.expr placed ?_) fun target rest container placed fewer => ?_
    · simp only [Level.rank]
      omega
    exact (h.indices placed container (by omega)).imp (fun _ holds => holds) (by omega)
  | primary =>
    simp only [Level.rank] at bounded
    rw [exprWithin]
    exact h.primary placed (by omega)
  | either | both | equality | order | sum | product => exact chain rfl

/-- **The step of a range.** -/
theorem step_succ (h : ExprRules places fuel) (placed : stream.Placed places)
    (bounded : 16 * stream.left < fuel + 1) :
    Yields places (OptionPlaced places) (stream.left + 1) (stepWithin stepped (fuel + 1))
      stream := by
  have none : Yields places (OptionPlaced places) (stream.left + 1) (pure none) stream :=
    .pure nofun placed (Nat.lt_succ_self _)
  rw [stepWithin]
  split
  · refine .accept_bind placed (fun rest placed fewer => ?_) none
    rw [if_pos rfl]
    refine .bind (h.expr placed ?_) fun step rest inner placed fewer => ?_
    · simp only [Level.rank]
      omega
    exact .pure (by simpa [OptionPlaced] using inner) placed (by omega)
  · exact none

/-- **Further operands of a chain.** -/
theorem chain_succ (h : ExprRules places fuel) {level : Level} {left : Expr}
    (placed : stream.Placed places) (first : left.Placed places)
    (bounded : 16 * stream.left < fuel + 1) :
    Yields places (Expr.Placed places) (stream.left + 1) (chainWithin stepped (fuel + 1) level left)
      stream := by
  rw [chainWithin]
  refine .peek_bind ?_
  split
  · exact .pure first placed (Nat.lt_succ_self _)
  rename_i join joins
  have shorter := TokenStream.left_advance_lt (Level.kind_ne_ending_of_join? joins)
  refine .advance_bind (.bind (h.expr placed.advance (by omega)) ?_)
  intro right rest second placed' fewer
  have joined := Level.placed_join joins placed.peek first second
  exact (h.chain placed' joined (by omega)).imp (fun _ holds => holds) (by omega)

/-- **The indices of an expression.** -/
theorem indices_succ (h : ExprRules places fuel) {target : Expr} (placed : stream.Placed places)
    (container : target.Placed places) (bounded : 16 * stream.left < fuel + 1) :
    Yields places (Expr.Placed places) (stream.left + 1) (indicesWithin stepped (fuel + 1) target)
      stream := by
  rw [indicesWithin]
  refine .acceptAny_bind placed (fun bracket rest _ here placed fewer => ?_)
    (.pure container placed (Nat.lt_succ_self _))
  refine .bind (h.expr placed (by omega)) fun position rest inner placed fewer => ?_
  refine .bind (.expect placed _ _) fun _ rest _ placed fewer => ?_
  exact (h.indices placed (.index here container inner) (by omega)).imp (fun _ holds => holds)
    (by omega)

/-- **What holds no operators.** -/
theorem primary_succ (h : ExprRules places fuel) (placed : stream.Placed places)
    (bounded : 16 * stream.left < fuel + 1) :
    Yields places (Expr.Placed places) stream.left (primaryWithin stepped (fuel + 1)) stream := by
  have here := placed.peek
  have behind := placed.advance
  have known (text : String) (is : stream.peek.is text = true) :
      stream.advance.left < stream.left :=
    TokenStream.left_advance_lt (Token.kind_ne_ending_of_is is)
  rw [primaryWithin]
  refine .peek_bind ?_
  split
  · rename_i kind
    have shorter : stream.advance.left < stream.left :=
      TokenStream.left_advance_lt (by simp [kind])
    refine .advance_bind (.lift_bind (fun value _ => ?_) fun fault failed => ?_)
    · exact .pure (.literal here value) behind shorter
    · obtain ⟨syntaxError, same⟩ := numberLiteral_error failed
      exact ⟨syntaxError, same ▸ here⟩
  · rename_i kind
    have shorter : stream.advance.left < stream.left :=
      TokenStream.left_advance_lt (by simp [kind])
    refine .advance_bind (.lift_bind (fun value _ => ?_) fun fault failed => ?_)
    · exact .pure (.literal here value) behind shorter
    · obtain ⟨syntaxError, same⟩ := imaginaryLiteral_error failed
      exact ⟨syntaxError, same ▸ here⟩
  · rename_i kind
    have shorter : stream.advance.left < stream.left :=
      TokenStream.left_advance_lt (by simp [kind])
    exact .advance_bind (.pure (.literal here _) behind shorter)
  · rename_i kind
    have shorter : stream.advance.left < stream.left :=
      TokenStream.left_advance_lt (by simp [kind])
    refine .advance_bind (.accept_bind behind (fun rest placed fewer => ?_) ?_)
    · rw [if_pos rfl]
      refine .bind (h.arguments placed (by omega)) fun arguments rest inner placed fewer => ?_
      exact .pure (.call here _ inner) placed (by omega)
    · exact .pure (.var here _) behind shorter
  split
  · rename_i is
    exact .advance_bind (.pure (.literal here _) behind (known _ is))
  split
  · rename_i is
    exact .advance_bind (.pure (.literal here _) behind (known _ is))
  split
  · rename_i is
    have shorter := known _ is
    refine .advance_bind (.bind (h.expr behind (by omega)) fun inner rest holds placed fewer => ?_)
    refine .bind (.expect placed _ _) fun _ rest _ placed fewer => ?_
    exact .pure holds placed (by omega)
  split
  · rename_i is
    have shorter := known _ is
    refine .advance_bind (.bind (h.items behind (by omega)) fun items rest inner placed fewer => ?_)
    exact .pure (.list here inner) placed (by omega)
  split
  · rename_i is
    have shorter := known _ is
    refine .advance_bind (.bind (h.entries behind (by omega))
      fun entries rest inner placed fewer => ?_)
    exact .pure (.dict here inner.1 inner.2) placed (by omega)
  · exact .refuse placed _

/-- **The arguments of a call.** -/
theorem arguments_succ (h : ExprRules places fuel) (placed : stream.Placed places)
    (bounded : 16 * stream.left + 13 ≤ fuel + 1) :
    Yields places (AllPlaced places) stream.left (argumentsWithin stepped (fuel + 1)) stream := by
  rw [argumentsWithin]
  refine .accept_bind placed (fun rest placed fewer => ?_) ?_
  · exact .pure nofun placed fewer
  · exact h.moreArguments placed (by omega)

/-- **The arguments of a call** of which one has to follow. -/
theorem moreArguments_succ (h : ExprRules places fuel) (placed : stream.Placed places)
    (bounded : 16 * stream.left + 12 ≤ fuel + 1) :
    Yields places (AllPlaced places) stream.left (moreArgumentsWithin stepped (fuel + 1))
      stream := by
  rw [moreArgumentsWithin]
  refine .bind (h.expr placed (by omega)) fun argument rest first placed fewer => ?_
  refine .accept_bind placed (fun rest placed fewer => ?_) ?_
  · rw [if_pos rfl]
    refine .bind (h.moreArguments placed (by omega)) fun arguments rest others placed fewer => ?_
    exact .pure (List.forall_mem_cons.mpr ⟨first, others⟩) placed (by omega)
  · refine .bind (.expect placed _ _) fun _ rest _ placed fewer => ?_
    exact .pure (List.forall_mem_singleton.mpr first) placed (by omega)

/-- **The items of a list.** -/
theorem items_succ (h : ExprRules places fuel) (placed : stream.Placed places)
    (bounded : 16 * stream.left + 12 ≤ fuel + 1) :
    Yields places (AllPlaced places) stream.left (itemsWithin stepped (fuel + 1)) stream := by
  rw [itemsWithin]
  refine .accept_bind placed (fun rest placed fewer => .pure nofun placed fewer) ?_
  refine .bind (h.expr placed (by omega)) fun item rest first placed fewer => ?_
  refine .accept_bind placed (fun rest placed fewer => ?_) ?_
  · rw [if_pos rfl]
    refine .bind (h.items placed (by omega)) fun items rest others placed fewer => ?_
    exact .pure (List.forall_mem_cons.mpr ⟨first, others⟩) placed (by omega)
  · refine .bind (.expect placed _ _) fun _ rest _ placed fewer => ?_
    exact .pure (List.forall_mem_singleton.mpr first) placed (by omega)

/-- **The entries of a dictionary.** -/
theorem entries_succ (h : ExprRules places fuel) (placed : stream.Placed places)
    (bounded : 16 * stream.left + 12 ≤ fuel + 1) :
    Yields places (EntriesPlaced places) stream.left (entriesWithin stepped (fuel + 1)) stream := by
  rw [entriesWithin]
  refine .accept_bind placed (fun rest placed fewer => .pure ⟨nofun, nofun⟩ placed fewer) ?_
  refine .bind (h.expr placed (by omega)) fun key rest first placed fewer => ?_
  refine .bind (.expect placed _ _) fun _ rest _ placed fewer => ?_
  refine .bind (h.expr placed (by omega)) fun value rest second placed fewer => ?_
  refine .accept_bind placed (fun rest placed fewer => ?_) ?_
  · rw [if_pos rfl]
    refine .bind (h.entries placed (by omega)) fun entries rest others placed fewer => ?_
    exact .pure ⟨List.forall_mem_cons.mpr ⟨first, others.1⟩,
      List.forall_mem_cons.mpr ⟨second, others.2⟩⟩ placed (by omega)
  · refine .bind (.expect placed _ _) fun _ rest _ placed fewer => ?_
    exact .pure ⟨List.forall_mem_singleton.mpr first, List.forall_mem_singleton.mpr second⟩ placed
      (by omega)

end ExprRules

/-! ## Any number of calls -/

/-- **The rules for expressions yield what they should at every bound** that is wide enough. -/
theorem exprRules (places : Span → Prop) (fuel : Nat) : ExprRules places fuel := by
  induction fuel with
  | zero =>
    -- No stream is so short that no call is needed.
    constructor
    case expr =>
      intro stepped level stream placed bounded
      cases level <;> simp only [Level.rank] at bounded <;> omega
    all_goals
      intros
      omega
  | succ fuel ih =>
    exact {
      expr := ih.expr_succ
      step := ih.step_succ
      chain := ih.chain_succ
      indices := ih.indices_succ
      primary := ih.primary_succ
      arguments := ih.arguments_succ
      moreArguments := ih.moreArguments_succ
      items := ih.items_succ
      entries := ih.entries_succ }

/-- **An expression** takes a token, and stands at the places of the stream. -/
theorem Yields.exprStepped (stepped : Bool) (placed : stream.Placed places) :
    Yields places (Expr.Placed places) stream.left (exprStepped stepped) stream := by
  refine .get_bind ((exprRules places _).expr placed ?_)
  simp only [layers, TokenStream.left, Level.rank]
  omega

/-- As `exprStepped`, where ranges may take a step. -/
theorem Yields.expr (placed : stream.Placed places) :
    Yields places (Expr.Placed places) stream.left expr stream :=
  .exprStepped true placed

end Parse

end ReactiveScript
