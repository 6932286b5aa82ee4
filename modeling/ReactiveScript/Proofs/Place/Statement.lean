import ReactiveScript.Proofs.Place.Expression

/-! # Where statements stand

The rules for statements are bounded as those for expressions are: `Parse.StmtRules` says what they
yield at one bound, `Parse.stmtRules` proves it by induction on the bound, and
`TokenStream.Placed.program` says it of whole programs. A rule that goes back to where it has
started keeps its contract, since the stream that it goes back to has its places and its number of
tokens. -/

namespace ReactiveScript

variable {places : Span → Prop}

/-! ## Assignments -/

/-- Every symbol that assigns and combines has an operator. -/
theorem exists_ofSymbol_of_mem {symbol : String} (mem : symbol ∈ assignmentSymbols)
    (combines : symbol ≠ "=") : ∃ op, BinaryOp.ofSymbol symbol = .ok op := by
  simp only [assignmentSymbols, List.mem_cons, List.not_mem_nil, or_false] at mem
  rcases mem with rfl | rfl | rfl | rfl | rfl | rfl
  · exact absurd rfl combines
  · exact ⟨.add, rfl⟩
  · exact ⟨.sub, rfl⟩
  · exact ⟨.mul, rfl⟩
  · exact ⟨.div, rfl⟩
  · exact ⟨.mod, rfl⟩

/-- **An assignment** stands at the places of its parts, and what cannot be assigned to is refused
at the symbol. -/
theorem assignmentTo_placed {span : Span} {target value : Expr} {op : Token}
    (mem : op.lexeme ∈ assignmentSymbols) (start : places span) (here : places op.span)
    (left : target.Placed places) (right : value.Placed places) :
    (∃ statement, assignmentTo span target op value = .ok statement ∧ statement.Placed places) ∨
      ∃ fault, assignmentTo span target op value = .error fault ∧ fault.kind = .syntaxError ∧
        places fault.span := by
  cases left with
  | var _ name =>
    simp only [assignmentTo]
    split
    · exact .inl ⟨_, rfl, .assignment start name right⟩
    · rename_i combines
      obtain ⟨combine, known⟩ := exists_ofSymbol_of_mem mem combines
      exact .inl ⟨_, by rw [known]; rfl, .compound start name combine right⟩
  | index at_ container position =>
    simp only [assignmentTo]
    split
    · exact .inl ⟨_, rfl, .element start container position right⟩
    · rename_i combines
      obtain ⟨combine, known⟩ := exists_ofSymbol_of_mem mem combines
      refine .inl ⟨_, by rw [known]; rfl, .element start container position ?_⟩
      exact .binary here combine (.index at_ container position) right
  | _ => exact .inr ⟨_, rfl, rfl, here⟩

namespace Parse

variable {stream : TokenStream} {fuel : Nat}

/-- All of some statements stand at some places. -/
abbrev BodyPlaced (places : Span → Prop) (body : List Stmt) : Prop :=
  ∀ statement ∈ body, statement.Placed places

/-- A rule that asks what stands there. -/
theorem Yields.sees_bind {α : Type} {good : α → Prop} {limit : Nat} {text : String}
    {next : Bool → Parse α}
    (h : Yields places good limit (next (stream.peek.is text)) stream) :
    Yields places good limit (sees text >>= next) stream :=
  h.of_run_eq rfl

/-- A rule that asks whether the source has ended. -/
theorem Yields.seesEnd_bind {α : Type} {good : α → Prop} {limit : Nat} {next : Bool → Parse α}
    (h : Yields places good limit (next (stream.peek.kind = .ending)) stream) :
    Yields places good limit (seesEnd >>= next) stream :=
  h.of_run_eq rfl

/-- An assignment or an expression. -/
theorem Yields.assignmentOrExpression {span : Span} (start : places span)
    (placed : stream.Placed places) :
    Yields places (Stmt.Placed places) stream.left (assignmentOrExpression span) stream := by
  unfold Parse.assignmentOrExpression
  refine .bind (.expr placed) fun target rest left placed fewer => ?_
  refine .acceptAny_bind placed (fun op rest mem here placed fewer' => ?_)
    (.pure (.expression start left) placed fewer)
  refine .bind (.expr placed) fun value rest right placed fewer => ?_
  obtain ⟨statement, built, holds⟩ | ⟨fault, refused, kind, located⟩ :=
    assignmentTo_placed mem start here left right
  · exact .value (by rw [built]; rfl) holds placed (by omega)
  · exact .fault (by rw [refused]; rfl) kind located

/-- A declaration, an assignment or an expression. -/
theorem Yields.simple (placed : stream.Placed places) :
    Yields places (Stmt.Placed places) stream.left simple stream := by
  have start := placed.peek
  unfold Parse.simple
  refine .peek_bind ?_
  split
  · refine .get_bind (.bind (.type placed) fun declared rest _ behind fewer => .peek_bind ?_)
    split
    · rename_i named
      have shorter : rest.advance.left < rest.left := TokenStream.left_advance_lt (by simp [named])
      refine .advance_bind (.accept_bind behind.advance (fun rest placed fewer => ?_) ?_)
      · rw [if_pos rfl]
        refine .bind (.expr placed) fun value rest inner placed fewer => ?_
        exact .pure (.declaration start _ _ (by simpa using inner)) placed (by omega)
      · exact .pure (.declaration start _ _ nofun) behind.advance (by omega)
    · exact .set_bind (.assignmentOrExpression start placed)
  · exact .assignmentOrExpression start placed

/-- An expression in parentheses. -/
theorem Yields.parenthesized (placed : stream.Placed places) (context : String) :
    Yields places (Expr.Placed places) stream.left (parenthesized context) stream := by
  unfold Parse.parenthesized
  refine .bind (.expect placed _ _) fun _ rest _ placed fewer => ?_
  refine .bind (.expr placed) fun inner rest holds placed fewer => ?_
  refine .bind (.expect placed _ _) fun _ rest _ placed fewer => ?_
  exact .pure holds placed (by omega)

/-! ## Heads of statements -/

/-- Parameters inside a bound take a token. -/
theorem Yields.paramsWithin {fuel : Nat} :
    ∀ {stream : TokenStream}, stream.Placed places → stream.left < fuel →
      Yields places (fun _ => True) stream.left (paramsWithin fuel) stream := by
  induction fuel with
  | zero => intro stream _ bounded; cases bounded
  | succ fuel ih =>
    intro stream placed bounded
    rw [Parse.paramsWithin]
    refine .bind (.type placed) fun declared rest _ placed fewer => ?_
    refine .bind (.identifier placed _) fun name rest _ placed fewer => ?_
    refine .accept_bind placed (fun rest placed fewer => ?_) ?_
    · rw [if_pos rfl]
      refine .bind (ih placed (by omega)) fun params rest _ placed fewer => ?_
      exact .pure trivial placed (by omega)
    · exact .pure trivial placed (by omega)

/-- The parameters of a function. -/
theorem Yields.params (placed : stream.Placed places) :
    Yields places (fun _ => True) stream.left params stream := by
  unfold Parse.params
  refine .bind (.expect placed _ _) fun _ rest _ placed fewer => .sees_bind ?_
  split
  · refine .bind (.expect placed _ _) fun _ rest _ placed fewer => ?_
    exact .pure trivial placed (by omega)
  · refine .get_bind (.bind (.paramsWithin placed (Nat.lt_succ_self _)) ?_)
    intro found rest _ placed fewer
    refine .bind (.expect placed _ _) fun _ rest _ placed fewer => ?_
    exact .pure trivial placed (by omega)

/-- The count before a loop's condition is looked at. -/
theorem Yields.preroll (placed : stream.Placed places) :
    Yields places (fun _ => True) (stream.left + 1) preroll stream := by
  unfold Parse.preroll
  refine .accept_bind placed (fun rest placed fewer => ?_) ?_
  · rw [if_pos rfl]
    refine .peek_bind ?_
    split
    · rename_i number
      have shorter : rest.advance.left < rest.left := TokenStream.left_advance_lt (by simp [number])
      dsimp only
      split
      · exact .advance_bind (.pure trivial placed.advance (by omega))
      · exact .refuse placed _
    · exact .refuse placed _
  · exact .pure trivial placed (Nat.lt_succ_self _)

/-- The head of a loop over a container. -/
theorem Yields.forEachHead (placed : stream.Placed places) :
    Yields places (fun _ => True) (stream.left + 1) forEachHead stream := by
  -- Whether a type stands there or not, the name behind it decides, and what was taken is put back.
  have named (declared : Ty) {rest : TokenStream} (behind : rest.Placed places)
      (fewer : rest.left < stream.left + 1) :
      Yields places (fun _ => True) (stream.left + 1) (do
        let found ← get
        if found.peek.kind = .identifier && found.second.is "in" then
          advance
          advance
          return some (declared, found.peek.lexeme)
        else
          set stream
          return none) rest := by
    refine .get_bind ?_
    split
    · refine .advance_bind (.advance_bind (.pure trivial behind.advance.advance ?_))
      simp only [TokenStream.left, TokenStream.advance, List.length_drop] at fewer ⊢
      omega
    · exact .set_bind (.pure trivial placed (Nat.lt_succ_self _))
  unfold Parse.forEachHead
  refine .get_bind (.peek_bind ?_)
  dsimp only
  split
  · exact .bind (.type placed) fun declared rest _ behind fewer => named declared behind (by omega)
  · rw [pure_bind]
    exact named .any placed (Nat.lt_succ_self _)

/-- The name that a handler waits for. -/
theorem Yields.handlerName (keyword : Token) (placed : stream.Placed places) :
    Yields places (fun _ => True) stream.left (handlerName keyword) stream := by
  unfold Parse.handlerName
  refine .accept_bind placed (fun rest placed fewer => ?_) ?_
  · refine .bind (.identifier placed _) fun name rest _ placed fewer => ?_
    refine .bind (.expect placed _ _) fun _ rest _ placed fewer => ?_
    exact .pure trivial placed (by omega)
  · refine .bind (.identifier placed _) fun name rest _ placed fewer => ?_
    exact .pure trivial placed fewer

/-! ## Statements that hold no others -/

/-- The end of a function body, at its keyword. -/
theorem Yields.leave {span : Span} (start : places span) (placed : stream.Placed places)
    (nonempty : stream.peek.kind ≠ .ending) :
    Yields places (Stmt.Placed places) stream.left (leave span) stream := by
  have shorter := TokenStream.left_advance_lt nonempty
  unfold Parse.leave
  refine .advance_bind (.accept_bind placed.advance (fun rest placed fewer => ?_) ?_)
  · exact .pure (.leave start nofun) placed (by omega)
  · refine .bind (.expr placed.advance) fun value rest inner placed fewer => ?_
    refine .bind (.expect placed _ _) fun _ rest _ placed fewer => ?_
    exact .pure (.leave start (by simpa using inner)) placed (by omega)

/-- A fault made by the program, at its keyword. -/
theorem Yields.raise {span : Span} (start : places span) (placed : stream.Placed places)
    (nonempty : stream.peek.kind ≠ .ending) :
    Yields places (Stmt.Placed places) stream.left (raise span) stream := by
  have shorter := TokenStream.left_advance_lt nonempty
  unfold Parse.raise
  refine .advance_bind (.bind (.expr placed.advance) fun value rest inner placed fewer => ?_)
  refine .bind (.expect placed _ _) fun _ rest _ placed fewer => ?_
  exact .pure (.raise start inner) placed (by omega)

/-- An import, at its keyword. -/
theorem Yields.load {span : Span} (start : places span) (placed : stream.Placed places)
    (nonempty : stream.peek.kind ≠ .ending) :
    Yields places (Stmt.Placed places) stream.left (load span) stream := by
  have shorter := TokenStream.left_advance_lt nonempty
  unfold Parse.load
  refine .advance_bind (.peek_bind ?_)
  split
  · rename_i path
    have shorter : stream.advance.advance.left < stream.advance.left :=
      TokenStream.left_advance_lt (by intro same; simp [same] at path)
    refine .advance_bind (.accept_bind placed.advance.advance (fun rest placed fewer => ?_) ?_)
    · refine .bind (.identifier placed _) fun name rest _ placed fewer => ?_
      rw [pure_bind]
      refine .bind (.expect placed _ _) fun _ rest _ placed fewer => ?_
      exact .pure (.load start _ _) placed (by omega)
    · simp only [Bool.false_eq_true, if_false, pure_bind]
      refine .bind (.expect placed.advance.advance _ _) fun _ rest _ placed fewer => ?_
      exact .pure (.load start _ _) placed (by omega)
  · exact .refuse placed.advance _

/-- The declaration or the emission of a signal, at its keyword. -/
theorem Yields.signalStatement {keyword : Token} (start : places keyword.span)
    (placed : stream.Placed places) (nonempty : stream.peek.kind ≠ .ending) :
    Yields places (Stmt.Placed places) stream.left (signalStatement keyword) stream := by
  have shorter := TokenStream.left_advance_lt nonempty
  unfold Parse.signalStatement
  refine .advance_bind (.bind (.identifier placed.advance _) fun name rest _ placed fewer => ?_)
  refine .bind (.expect placed _ _) fun _ rest _ placed fewer => ?_
  refine .pure ?_ placed (by omega)
  split
  · exact .signal start name
  · exact .emit start name

/-! ## Statements that hold others -/

/-- The cases of a choice and what runs when none is chosen stand at some places. -/
structure CasesPlaced (places : Span → Prop)
    (found : List (Case Stmt) × Option (List Stmt)) : Prop where
  /-- Where the cases start. -/
  starts : ∀ case ∈ found.1, places case.span
  /-- Their labels. -/
  labels : ∀ case ∈ found.1, case.label.Placed places
  /-- Their bodies. -/
  bodies : ∀ case ∈ found.1, BodyPlaced places case.body
  /-- The body without a label. -/
  otherwise : ∀ body ∈ found.2, BodyPlaced places body

/-- **What the rules for statements yield** at one bound, where the bound is wide enough for the
tokens that are left. -/
structure StmtRules (places : Span → Prop) (fuel : Nat) : Prop where
  /-- A statement takes a token. -/
  statement {stream : TokenStream} (placed : stream.Placed places)
    (bounded : 4 * stream.left + 2 ≤ fuel) :
    Yields places (Stmt.Placed places) stream.left (statementWithin fuel) stream
  /-- A branch takes a token. -/
  branch {stream : TokenStream} (placed : stream.Placed places)
    (bounded : 4 * stream.left < fuel) :
    Yields places (Stmt.Placed places) stream.left (branchWithin fuel) stream
  /-- A block takes a token, its brace. -/
  block {stream : TokenStream} (placed : stream.Placed places) (bounded : 4 * stream.left < fuel) :
    Yields places (BodyPlaced places) stream.left (blockWithin fuel) stream
  /-- The statements up to the closing brace take a token. -/
  statements {stream : TokenStream} (placed : stream.Placed places)
    (bounded : 4 * stream.left + 3 ≤ fuel) :
    Yields places (BodyPlaced places) stream.left (statementsWithin fuel) stream
  /-- The cases up to the closing brace take a token. -/
  cases {stream : TokenStream} {fallback : Option (List Stmt)} (placed : stream.Placed places)
    (given : ∀ body ∈ fallback, BodyPlaced places body) (bounded : 4 * stream.left < fuel) :
    Yields places (CasesPlaced places) stream.left (casesWithin fuel fallback) stream
  /-- A case may hold no statements. -/
  caseBody {stream : TokenStream} (placed : stream.Placed places)
    (bounded : 4 * stream.left + 3 ≤ fuel) :
    Yields places (BodyPlaced places) (stream.left + 1) (caseBodyWithin fuel) stream

/-- A token that opens a statement of its own is not the ending. -/
theorem Opening.kind_ne_ending {token : Token} (h : ofToken token ≠ .other) :
    token.kind ≠ .ending := by
  intro ending
  simp [ofToken, ending] at h

namespace StmtRules

/-! ## One call more -/

/-- A loop with a condition, behind its keyword. -/
theorem loop_succ (h : StmtRules places fuel) (placed : stream.Placed places)
    (bounded : 4 * stream.left < fuel) {build : Expr → Nat → List Stmt → Stmt}
    (built : ∀ condition count body, condition.Placed places → BodyPlaced places body →
      (build condition count body).Placed places) :
    Yields places (Stmt.Placed places) stream.left (do
      let condition ← parenthesized "around loop condition"
      let count ← preroll
      let body ← blockWithin fuel
      return build condition count body) stream := by
  refine .bind (.parenthesized placed _) fun condition rest test placed fewer => ?_
  refine .bind (.preroll placed) fun count rest _ placed fewer => ?_
  refine .bind (h.block placed (by omega)) fun body rest inner placed fewer => ?_
  exact .pure (built condition count body test inner) placed (by omega)

/-- A loop over a container or with three clauses, behind its keyword. -/
theorem forLoop_succ (h : StmtRules places fuel) {span : Span} (start : places span)
    (placed : stream.Placed places) (bounded : 4 * stream.left < fuel) :
    Yields places (Stmt.Placed places) stream.left (do
      expect "(" "after 'for'"
      match ← forEachHead with
      | some (declared, name) =>
        let iterable ← Parse.expr
        expect ")" "after for-in iterable"
        let body ← blockWithin fuel
        return .forEach span declared name iterable body
      | none =>
        let first ← simple
        expect ";" "after for initializer"
        let condition ← Parse.expr
        expect ";" "after for condition"
        let step ← simple
        let _ ← accept ";"
        expect ")" "after for clauses"
        let body ← blockWithin fuel
        return .forLoop span first condition step body) stream := by
  refine .bind (.expect placed _ _) fun _ rest _ placed fewer => ?_
  refine .bind (.forEachHead placed) fun head rest _ placed fewer => ?_
  cases head with
  | some head =>
    refine .bind (.expr placed) fun iterable rest container placed fewer => ?_
    refine .bind (.expect placed _ _) fun _ rest _ placed fewer => ?_
    refine .bind (h.block placed (by omega)) fun body rest inner placed fewer => ?_
    exact .pure (.forEach start _ _ container inner) placed (by omega)
  | none =>
    refine .bind (.simple placed) fun first rest before placed fewer => ?_
    refine .bind (.expect placed _ _) fun _ rest _ placed fewer => ?_
    refine .bind (.expr placed) fun condition rest test placed fewer => ?_
    refine .bind (.expect placed _ _) fun _ rest _ placed fewer => ?_
    refine .bind (.simple placed) fun step rest between placed fewer => ?_
    -- The clauses are closed in the same way with and without a last semicolon.
    have closed {rest' : TokenStream} (placed : rest'.Placed places)
        (fewer : rest'.left < stream.left) :
        Yields places (Stmt.Placed places) stream.left (do
          expect ")" "after for clauses"
          let body ← blockWithin fuel
          return .forLoop span first condition step body) rest' := by
      refine .bind (.expect placed _ _) fun _ rest _ placed fewer => ?_
      refine .bind (h.block placed (by omega)) fun body rest inner placed fewer => ?_
      exact .pure (.forLoop start before test between inner) placed (by omega)
    exact .accept_bind placed (fun rest placed fewer => closed placed (by omega))
      (closed placed (by omega))

/-- A function, a declaration, an assignment or an expression. -/
theorem other_succ (h : StmtRules places fuel) (placed : stream.Placed places)
    (bounded : 4 * stream.left + 1 ≤ fuel) :
    Yields places (Stmt.Placed places) stream.left (do
      if stream.peek.startsType then
        let start ← get
        let returns ← type
        let found ← get
        if found.peek.kind = .identifier && found.second.is "(" then
          let name ← identifier "for function name"
          let params ← params
          let body ← blockWithin fuel
          return .function stream.peek.span returns name params body
        else
          set start
          let statement ← simple
          expect ";" "after statement"
          return statement
      else
        let statement ← simple
        expect ";" "after statement"
        return statement) stream := by
  have here := placed.peek
  have plain : Yields places (Stmt.Placed places) stream.left (do
      let statement ← simple
      expect ";" "after statement"
      return statement) stream := by
    refine .bind (.simple placed) fun statement rest holds placed fewer => ?_
    refine .bind (.expect placed _ _) fun _ rest _ placed fewer => ?_
    exact .pure holds placed (by omega)
  split
  · refine .get_bind (.bind (.type placed) fun returns rest _ placed fewer => .get_bind ?_)
    split
    · refine .bind (.identifier placed _) fun name rest _ placed fewer => ?_
      refine .bind (.params placed) fun params rest _ placed fewer => ?_
      refine .bind (h.block placed (by omega)) fun body rest inner placed fewer => ?_
      exact .pure (.function here _ _ _ inner) placed (by omega)
    · exact .set_bind plain
  · exact plain

/-- **A statement.** -/
theorem statement_succ (h : StmtRules places fuel) (placed : stream.Placed places)
    (bounded : 4 * stream.left + 2 ≤ fuel + 1) :
    Yields places (Stmt.Placed places) stream.left (statementWithin (fuel + 1)) stream := by
  have here := placed.peek
  have behind := placed.advance
  -- The keyword that opens a statement of its own is a token.
  have shorter (opens : Opening.ofToken stream.peek ≠ .other) :
      stream.advance.left < stream.left :=
    TokenStream.left_advance_lt (Opening.kind_ne_ending opens)
  have widen {limit : Nat} {rule : Parse Stmt} {rest : TokenStream} (less : limit ≤ stream.left)
      (holds : Yields places (Stmt.Placed places) limit rule rest) :
      Yields places (Stmt.Placed places) stream.left rule rest :=
    holds.imp (fun _ holds => holds) less
  rw [statementWithin]
  refine .peek_bind ?_
  cases opening : Opening.ofToken stream.peek with
  | branch => exact h.branch placed (by omega)
  | whileLoop =>
    have shorter := shorter (by simp [opening])
    refine .advance_bind (widen (Nat.le_of_lt shorter) (h.loop_succ behind (by omega) ?_))
    exact fun _ count _ test inner => .whileLoop here test count inner
  | untilLoop =>
    have shorter := shorter (by simp [opening])
    refine .advance_bind (widen (Nat.le_of_lt shorter) (h.loop_succ behind (by omega) ?_))
    exact fun _ count _ test inner => .untilLoop here test count inner
  | forLoop =>
    have shorter := shorter (by simp [opening])
    exact .advance_bind (widen (Nat.le_of_lt shorter) (h.forLoop_succ here behind (by omega)))
  | choice =>
    have shorter := shorter (by simp [opening])
    refine .advance_bind (.bind (.parenthesized behind _) ?_)
    intro subject rest value placed fewer
    refine .bind (.expect placed _ _) fun _ rest _ placed fewer => ?_
    refine .bind (h.cases placed nofun (by omega)) fun found rest holds placed fewer => ?_
    exact .pure (.choice here value holds.starts holds.labels holds.bodies holds.otherwise) placed
      (by omega)
  | leave => exact .leave here placed (Opening.kind_ne_ending (by simp [opening]))
  | raise => exact .raise here placed (Opening.kind_ne_ending (by simp [opening]))
  | load => exact .load here placed (Opening.kind_ne_ending (by simp [opening]))
  | signal => exact .signalStatement here placed (Opening.kind_ne_ending (by simp [opening]))
  | handler =>
    have shorter := shorter (by simp [opening])
    refine .advance_bind (.bind (.handlerName _ behind) fun name rest _ placed fewer => ?_)
    refine .bind (h.block placed (by omega)) fun body rest inner placed fewer => ?_
    refine .pure ?_ placed (by omega)
    split
    · exact .when here name inner
    · exact .watch here name inner
  | stray => exact .malformed here
  | other => exact h.other_succ placed (by omega)

/-- **A branch**, at its keyword. -/
theorem branch_succ (h : StmtRules places fuel) (placed : stream.Placed places)
    (bounded : 4 * stream.left < fuel + 1) :
    Yields places (Stmt.Placed places) stream.left (branchWithin (fuel + 1)) stream := by
  have here := placed.peek
  have behind : stream.advance.left ≤ stream.left := by
    simp only [TokenStream.left, TokenStream.advance, List.length_drop]
    omega
  rw [branchWithin, next]
  simp only [bind_assoc, pure_bind]
  refine .peek_bind (.advance_bind ?_)
  refine .bind (.parenthesized placed.advance _) fun condition rest test placed fewer => ?_
  refine .bind (h.block placed (by omega)) fun thenBody rest positive placed fewer => ?_
  refine .accept_bind placed (fun rest placed fewer => ?_) ?_
  · rw [if_pos rfl]
    refine .sees_bind ?_
    split
    · refine .bind (h.branch placed (by omega)) fun elseBranch rest negative placed fewer => ?_
      exact .pure (.branch here test positive (by simpa using negative)) placed (by omega)
    · refine .bind (h.block placed (by omega)) fun elseBody rest negative placed fewer => ?_
      exact .pure (.branch here test positive (by simpa using negative)) placed (by omega)
  · exact .pure (.branch here test positive (by simp)) placed (by omega)

/-- **Statements in braces.** -/
theorem block_succ (h : StmtRules places fuel) (placed : stream.Placed places)
    (bounded : 4 * stream.left < fuel + 1) :
    Yields places (BodyPlaced places) stream.left (blockWithin (fuel + 1)) stream := by
  rw [blockWithin]
  refine .bind (.expect placed _ _) fun _ rest _ placed fewer => ?_
  exact (h.statements placed (by omega)).imp (fun _ holds => holds) (by omega)

/-- **Statements up to the closing brace.** -/
theorem statements_succ (h : StmtRules places fuel) (placed : stream.Placed places)
    (bounded : 4 * stream.left + 3 ≤ fuel + 1) :
    Yields places (BodyPlaced places) stream.left (statementsWithin (fuel + 1)) stream := by
  rw [statementsWithin]
  refine .sees_bind (.seesEnd_bind ?_)
  split
  · refine .bind (.expect placed _ _) fun _ rest _ placed fewer => ?_
    exact .pure nofun placed fewer
  · refine .bind (h.statement placed (by omega)) fun statement rest first placed fewer => ?_
    refine .bind (h.statements placed (by omega)) fun statements rest others placed fewer => ?_
    exact .pure (List.forall_mem_cons.mpr ⟨first, others⟩) placed (by omega)

/-- **The cases of a choice** up to the closing brace. -/
theorem cases_succ (h : StmtRules places fuel) {fallback : Option (List Stmt)}
    (placed : stream.Placed places) (given : ∀ body ∈ fallback, BodyPlaced places body)
    (bounded : 4 * stream.left < fuel + 1) :
    Yields places (CasesPlaced places) stream.left (casesWithin (fuel + 1) fallback) stream := by
  rw [casesWithin]
  refine .acceptAny_bind placed (fun token rest _ here placed fewer => ?_) ?_
  · dsimp only
    split
    · refine .bind (.exprStepped false placed) fun label rest labelled placed fewer => ?_
      refine .bind (.expect placed _ _) fun _ rest _ placed fewer => ?_
      refine .bind (h.caseBody placed (by omega)) fun body rest inner placed fewer => ?_
      refine .bind (h.cases placed given (by omega)) fun found rest others placed fewer => ?_
      exact .pure ⟨List.forall_mem_cons.mpr ⟨here, others.starts⟩,
        List.forall_mem_cons.mpr ⟨labelled, others.labels⟩,
        List.forall_mem_cons.mpr ⟨inner, others.bodies⟩, others.otherwise⟩ placed (by omega)
    · cases fallback with
      | some body => exact .malformed here
      | none =>
        refine .bind (.expect placed _ _) fun _ rest _ placed fewer => ?_
        refine .bind (h.caseBody placed (by omega)) fun body rest inner placed fewer => ?_
        exact (h.cases placed (by simpa using inner) (by omega)).imp (fun _ holds => holds)
          (by omega)
  · refine .accept_bind placed (fun rest placed fewer => ?_) (.refuse placed _)
    exact .pure ⟨nofun, nofun, nofun, given⟩ placed fewer

/-- **The statements of a case.** -/
theorem caseBody_succ (h : StmtRules places fuel) (placed : stream.Placed places)
    (bounded : 4 * stream.left + 3 ≤ fuel + 1) :
    Yields places (BodyPlaced places) (stream.left + 1) (caseBodyWithin (fuel + 1)) stream := by
  rw [caseBodyWithin]
  refine .sees_bind (.sees_bind (.sees_bind ?_))
  split
  · exact .pure nofun placed (Nat.lt_succ_self _)
  refine .seesEnd_bind ?_
  split
  · exact .refuse placed _
  refine .accept_bind placed (fun rest placed fewer => ?_) ?_
  · rw [if_pos rfl]
    refine .bind (.expect placed _ _) fun _ rest _ placed fewer => ?_
    exact .pure nofun placed (by omega)
  · refine .bind (h.statement placed (by omega)) fun statement rest first placed fewer => ?_
    refine .bind (h.caseBody placed (by omega)) fun statements rest others placed fewer => ?_
    exact .pure (List.forall_mem_cons.mpr ⟨first, others⟩) placed (by omega)

end StmtRules

/-! ## Any number of calls -/

/-- **The rules for statements yield what they should at every bound** that is wide enough. -/
theorem stmtRules (places : Span → Prop) (fuel : Nat) : StmtRules places fuel := by
  induction fuel with
  | zero =>
    constructor
    all_goals
      intros
      omega
  | succ fuel ih =>
    exact {
      statement := ih.statement_succ
      branch := ih.branch_succ
      block := ih.block_succ
      statements := ih.statements_succ
      cases := ih.cases_succ
      caseBody := ih.caseBody_succ }

/-- A program inside a bound. -/
theorem Yields.programWithin {fuel : Nat} :
    ∀ {stream : TokenStream}, stream.Placed places → stream.left < fuel →
      Yields places (BodyPlaced places) (stream.left + 1) (programWithin fuel) stream := by
  induction fuel with
  | zero => intro stream _ bounded; cases bounded
  | succ fuel ih =>
    intro stream placed bounded
    rw [Parse.programWithin]
    refine .seesEnd_bind ?_
    split
    · exact .pure nofun placed (Nat.lt_succ_self _)
    · refine .get_bind (.bind ((stmtRules places _).statement placed ?_) ?_)
      · simp only [statementLayers, TokenStream.left]
        omega
      intro statement rest first placed fewer
      refine .bind (ih placed (by omega)) fun statements rest others placed fewer => ?_
      exact .pure (List.forall_mem_cons.mpr ⟨first, others⟩) placed (by omega)

end Parse

/-- **A stream of tokens is a program or has a syntax error**, and both stand at its places. -/
theorem TokenStream.Placed.program {stream : TokenStream} (placed : stream.Placed places) :
    (∃ program, stream.program = .ok program ∧ ∀ statement ∈ program, statement.Placed places) ∨
      ∃ fault, stream.program = .error fault ∧ fault.kind = .syntaxError ∧ places fault.span := by
  cases Parse.Yields.programWithin placed (Nat.lt_succ_self _) with
  | value read holds placed fewer =>
    refine .inl ⟨_, ?_, holds⟩
    rw [TokenStream.program, StateT.run'_eq, ← TokenStream.left, read]
    rfl
  | fault failed kind located =>
    refine .inr ⟨_, ?_, kind, located⟩
    rw [TokenStream.program, StateT.run'_eq, ← TokenStream.left, failed]
    rfl

end ReactiveScript
