import ReactiveScript.Proofs.Grammar.Primary

/-! # Printed expressions are read back

The words that an expression is printed as, in tokens with any places, are read as the expression,
but for the places in it. The induction is on the tree: for every expression it is shown that its
words are read as its own layer (`Means`), and from there parentheses and looser layers follow. The
main statement is `expr_words`. -/

namespace ReactiveScript

open Parse

/-- Some words mean an expression of a layer: tokens with these words are read as the expression,
but for its places. -/
def Means (stepped : Bool) (level : Level) (words : List Word) (expression : Expr) : Prop :=
  ∀ tokens : List Token, tokens.map Token.word = words →
    ∃ read : Expr, read.bare = expression.bare ∧ Reads stepped level tokens read

variable {stepped : Bool} {level : Level} {words : List Word} {expression : Expr}

/-- What is read as a layer is read as every looser one. -/
theorem Means.at {position : Level} (h : Means stepped level words expression)
    (loose : position.rank ≤ level.rank) : Means stepped position words expression := by
  intro tokens spelled
  obtain ⟨read, same, reads⟩ := h tokens spelled
  exact ⟨read, same, reads.at loose⟩

/-- What is read as some layer is read as the loosest. -/
theorem Means.either (h : Means stepped level words expression) :
    Means stepped .either words expression := h.at (Nat.zero_le _)

/-- **Parentheses where they are needed.** Words that mean an expression of its own layer mean it
where another layer is asked for, in parentheses if the own layer is looser. -/
theorem Means.enclose (h : Means stepped expression.level words expression) (position : Level) :
    Means stepped position (expression.enclose position words) expression := by
  unfold Expr.enclose
  split
  · intro tokens spelled
    obtain ⟨bracket, more, rfl, opens, spelled⟩ := List.map_eq_cons_iff.mp spelled
    obtain ⟨inner, more, rfl, inside, spelled⟩ := List.map_eq_append_iff.mp spelled
    obtain ⟨closing, rfl, closes⟩ := List.map_eq_singleton_iff.mp spelled
    obtain ⟨read, same, reads⟩ := h inner inside
    -- Inside parentheses the loosest layer is asked for, and the whole is of the tightest.
    have either : Reads stepped .either inner read := reads.at (Nat.zero_le _)
    refine ⟨read, same, (either.group (Token.is_symbol opens) (Token.is_symbol closes)).at ?_⟩
    cases position <;> decide
  · rename_i tight
    exact h.at (Nat.le_of_not_lt tight)

/-! ## Operators -/

/-- A symbol joins the operands of a layer, and goes on with none of them. -/
structure Joins (level : Level) (symbol : String) (join : Span → Expr → Expr → Expr) : Prop where
  /-- The layer joins from the left. -/
  chain : level.isChain = true
  /-- How the symbol joins. -/
  joins : ∀ span, level.joinSymbol? span symbol = some (join span)
  /-- The symbol goes on with no operand. -/
  stops : ∀ stepped, symbol ∉ level.tighter.continuing stepped

/-- The arithmetic operators join their layer. -/
theorem BinaryOp.joins (op : BinaryOp) : Joins op.level op.symbol (.binary · op) := by
  refine ⟨?_, ?_, fun stepped => ?_⟩
  · cases op <;> rfl
  · cases op <;> exact fun _ => rfl
  · cases op <;> cases stepped <;> decide

/-- The connectives join their layer. -/
theorem LogicalOp.joins (op : LogicalOp) : Joins op.level op.symbol (.logical · op) := by
  refine ⟨?_, ?_, fun stepped => ?_⟩
  · cases op <;> rfl
  · cases op <;> exact fun _ => rfl
  · cases op <;> cases stepped <;> decide

/-- The comparisons join their layer. -/
theorem CompareOp.joins (op : CompareOp) : Joins op.level op.symbol (.comparison · op) := by
  refine ⟨?_, ?_, fun stepped => ?_⟩
  · cases op <;> rfl
  · cases op <;> exact fun _ => rfl
  · cases op <;> cases stepped <;> decide

/-- **Two operands and the symbol that joins them.** The first operand may be of the layer itself,
the second has to be tighter. -/
theorem Means.join {symbol : String} {join : Span → Expr → Expr → Expr} {left right : Expr}
    (joins : Joins level symbol join) (h : Means stepped left.level left.words left)
    (h' : Means stepped right.level right.words right)
    (bare : ∀ {span left' right'}, left'.bare = left.bare → right'.bare = right.bare →
      (join span left' right').bare = expression.bare) :
    Means stepped level (left.enclose level left.words ++
      .symbol symbol :: right.enclose level.tighter right.words) expression := by
  intro tokens spelled
  obtain ⟨first, more, rfl, spelledLeft, spelled⟩ := List.map_eq_append_iff.mp spelled
  obtain ⟨token, second, rfl, word, spelledRight⟩ := List.map_eq_cons_iff.mp spelled
  obtain ⟨left', sameLeft, readsLeft⟩ := h.enclose level first spelledLeft
  obtain ⟨right', sameRight, readsRight⟩ := h'.enclose level.tighter second spelledRight
  refine ⟨join token.span left' right', bare sameLeft sameRight, ?_⟩
  refine readsLeft.join joins.chain readsRight ?_ (Token.stops_of_word word (joins.stops stepped))
  have kind : token.kind = .symbol := congrArg Prod.fst word
  have lexeme : token.lexeme = symbol := congrArg Prod.snd word
  rw [Level.join?, if_pos kind, lexeme, joins.joins]

/-- An operator before an operand. -/
theorem Means.operator (span : Span) (op : UnaryOp) {operand : Expr}
    (h : Means stepped .unary words operand) :
    Means stepped .unary (.symbol op.symbol :: words) (.unary span op operand) := by
  intro tokens spelled
  obtain ⟨⟨kind, lexeme, place⟩, more, rfl, word, spelled⟩ := List.map_eq_cons_iff.mp spelled
  obtain ⟨read, same, reads⟩ := h more spelled
  cases op with
  | not =>
    cases word
    refine ⟨_, ?_, reads.operator rfl ⟨rfl, rfl, rfl, fun tight => absurd tight (by decide)⟩⟩
    rw [Expr.bare, Expr.bare, same]
    rfl
  | negate =>
    cases word
    refine ⟨_, ?_, reads.operator rfl ⟨rfl, rfl, rfl, fun tight => absurd tight (by decide)⟩⟩
    rw [Expr.bare, Expr.bare, same]
    rfl

/-- A cast. -/
theorem Means.cast (span : Span) {target : Ty} {operand : Expr} (known : target.isKnown = true)
    (h : Means stepped .unary words operand) :
    Means stepped .unary (target.words ++ .symbol "->" :: words) (.cast span target operand) := by
  intro tokens spelled
  obtain ⟨typed, more, rfl, spelledType, spelled⟩ := List.map_eq_append_iff.mp spelled
  obtain ⟨arrow, more, rfl, points, spelled⟩ := List.map_eq_cons_iff.mp spelled
  obtain ⟨read, same, reads⟩ := h more spelled
  have readsType := ReadsType.of_words known spelledType
  obtain ⟨token, typed, rfl, _⟩ := readsType.starts
  refine ⟨_, ?_, reads.cast readsType (Token.is_symbol points)⟩
  rw [Expr.bare, Expr.bare, same]

/-- An index. -/
theorem Means.index (span : Span) {target position : Expr} {inner : List Word}
    (h : Means stepped .indexed words target) (h' : Means stepped .either inner position) :
    Means stepped .indexed (words ++ .symbol "[" :: (inner ++ [.symbol "]"]))
      (.index span target position) := by
  intro tokens spelled
  obtain ⟨first, more, rfl, spelledTarget, spelled⟩ := List.map_eq_append_iff.mp spelled
  obtain ⟨bracket, more, rfl, opens, spelled⟩ := List.map_eq_cons_iff.mp spelled
  obtain ⟨second, more, rfl, spelledPosition, spelled⟩ := List.map_eq_append_iff.mp spelled
  obtain ⟨closing, rfl, closes⟩ := List.map_eq_singleton_iff.mp spelled
  obtain ⟨target', sameTarget, readsTarget⟩ := h first spelledTarget
  obtain ⟨position', samePosition, readsPosition⟩ := h' second spelledPosition
  refine ⟨_, ?_, readsTarget.index readsPosition (Token.is_symbol opens)
    (Token.is_symbol closes)⟩
  rw [Expr.bare, Expr.bare, sameTarget, samePosition]

/-- The symbol of a range is taken as one, and goes on with no sum. -/
theorem rangeSymbol_spec (stepped : Bool) {token : Token} {inclusive : Bool}
    (word : token.word = .symbol (rangeSymbol inclusive)) :
    ["..", "..."].any token.is = true ∧ token.Stops stepped .sum ∧
      decide (token.lexeme = "...") = inclusive := by
  have stops : token.Stops stepped .sum :=
    Token.stops_of_word word (by cases inclusive <;> cases stepped <;> decide)
  obtain ⟨kind, lexeme, span⟩ := token
  refine ⟨?_, stops, ?_⟩ <;> cases inclusive <;> cases word <;> rfl

/-- A range without a step. -/
theorem Means.rangePlain (span : Span) (inclusive : Bool) {first last : Expr}
    {firstWords lastWords : List Word} (h : Means stepped .sum firstWords first)
    (h' : Means stepped .sum lastWords last) :
    Means stepped .range (firstWords ++ .symbol (rangeSymbol inclusive) :: lastWords)
      (.range span first last none inclusive) := by
  intro tokens spelled
  obtain ⟨left, more, rfl, spelledFirst, spelled⟩ := List.map_eq_append_iff.mp spelled
  obtain ⟨token, right, rfl, word, spelledLast⟩ := List.map_eq_cons_iff.mp spelled
  obtain ⟨first', sameFirst, readsFirst⟩ := h left spelledFirst
  obtain ⟨last', sameLast, readsLast⟩ := h' right spelledLast
  obtain ⟨is, stops, same⟩ := rangeSymbol_spec stepped word
  refine ⟨_, ?_, readsFirst.rangePlain readsLast is stops⟩
  rw [Expr.bare, Expr.bare, sameFirst, sameLast, same]

/-- A range with a step. -/
theorem Means.rangeStepped (span : Span) (inclusive : Bool) {first last step : Expr}
    {firstWords lastWords stepWords : List Word} (h : Means true .sum firstWords first)
    (h' : Means true .sum lastWords last) (h'' : Means true .sum stepWords step) :
    Means true .range (firstWords ++ .symbol (rangeSymbol inclusive) ::
        (lastWords ++ .symbol ":" :: stepWords))
      (.range span first last (some step) inclusive) := by
  intro tokens spelled
  obtain ⟨left, more, rfl, spelledFirst, spelled⟩ := List.map_eq_append_iff.mp spelled
  obtain ⟨token, more, rfl, word, spelled⟩ := List.map_eq_cons_iff.mp spelled
  obtain ⟨middle, more, rfl, spelledLast, spelled⟩ := List.map_eq_append_iff.mp spelled
  obtain ⟨colon, right, rfl, between, spelledStep⟩ := List.map_eq_cons_iff.mp spelled
  obtain ⟨first', sameFirst, readsFirst⟩ := h left spelledFirst
  obtain ⟨last', sameLast, readsLast⟩ := h' middle spelledLast
  obtain ⟨step', sameStep, readsStep⟩ := h'' right spelledStep
  obtain ⟨is, stops, same⟩ := rangeSymbol_spec true word
  have stops' : colon.Stops true .sum := Token.stops_of_word between (by decide)
  refine ⟨_, ?_, readsFirst.rangeStepped readsLast readsStep is stops (Token.is_symbol between)
    stops'⟩
  rw [Expr.bare, Expr.bare, sameFirst, sameLast, sameStep, same]

/-! ## Rows -/

/-- The rows of expressions and of entries in brackets. -/
def MeansRow {α : Type} (one : List Token → α → Prop) (bare : List α → List α)
    (groups : List (List Word)) (items : List α) : Prop :=
  ∀ tokens : List Token, tokens.map Token.word = separated groups →
    ∃ read : List α, bare read = bare items ∧ Rows one tokens read

/-- One more group before a row that is not empty. -/
theorem MeansRow.cons {α : Type} {one : List Token → α → Prop} {bare : List α → List α}
    {strip : α → α} {item next : α} {rest : List α} {group following : List Word}
    {groups : List (List Word)} (split : ∀ first others, bare (first :: others) =
      strip first :: bare others) (empty : bare [] = [])
    (h : ∀ tokens : List Token, tokens.map Token.word = group →
      ∃ read, strip read = strip item ∧ one tokens read)
    (h' : MeansRow one bare (following :: groups) (next :: rest)) :
    MeansRow one bare (group :: following :: groups) (item :: next :: rest) := by
  intro tokens spelled
  rw [separated] at spelled
  obtain ⟨first, more, rfl, spelledFirst, spelled⟩ := List.map_eq_append_iff.mp spelled
  obtain ⟨comma, others, rfl, between, spelledRest⟩ := List.map_eq_cons_iff.mp spelled
  obtain ⟨read, same, reads⟩ := h first spelledFirst
  obtain ⟨readRest, sameRest, rows⟩ := h' others spelledRest
  refine ⟨read :: readRest, by rw [split, split, same, sameRest], .inr ?_⟩
  -- What stands behind the comma is a row, because something is to be read there.
  rcases rows with ⟨_, rfl⟩ | row
  · rw [empty, split] at sameRest
    cases sameRest
  · exact Row.cons reads (Token.is_symbol between) row

/-- The last group of a row. -/
theorem MeansRow.last {α : Type} {one : List Token → α → Prop} {bare : List α → List α}
    {strip : α → α} {item : α} {group : List Word}
    (split : ∀ first others, bare (first :: others) = strip first :: bare others)
    (h : ∀ tokens : List Token, tokens.map Token.word = group →
      ∃ read, strip read = strip item ∧ one tokens read) :
    MeansRow one bare [group] [item] := by
  intro tokens spelled
  obtain ⟨read, same, reads⟩ := h tokens spelled
  exact ⟨[read], by rw [split, split, same], .inr (Row.last reads)⟩

/-- A row of nothing. -/
theorem MeansRow.nil {α : Type} {one : List Token → α → Prop} {bare : List α → List α} :
    MeansRow one bare [] [] := by
  intro tokens spelled
  exact ⟨[], rfl, .inl ⟨List.map_eq_nil_iff.mp spelled, rfl⟩⟩

/-- An entry of a dictionary. -/
theorem means_entry {key value : Expr} {keyWords valueWords : List Word}
    (h : Means false .either keyWords key) (h' : Means stepped .either valueWords value)
    (tokens : List Token)
    (spelled : tokens.map Token.word = keyWords ++ .symbol ":" :: valueWords) :
    ∃ read : Expr × Expr, (read.1.bare, read.2.bare) = (key.bare, value.bare) ∧
      ReadsEntry stepped tokens read := by
  obtain ⟨first, more, rfl, spelledKey, spelled⟩ := List.map_eq_append_iff.mp spelled
  obtain ⟨colon, second, rfl, between, spelledValue⟩ := List.map_eq_cons_iff.mp spelled
  obtain ⟨key', sameKey, readsKey⟩ := h first spelledKey
  obtain ⟨value', sameValue, readsValue⟩ := h' second spelledValue
  exact ⟨(key', value'), by rw [sameKey, sameValue],
    .intro readsKey (Token.is_symbol between) readsValue⟩

/-! ## All expressions -/

mutual

/-- **The words of an expression mean it**, as its own layer. -/
theorem Expr.means : ∀ (stepped : Bool) (expression : Expr), expression.isPrintable stepped = true →
    Means stepped expression.level expression.words expression
  | stepped, .literal span value, printable => by
    intro tokens spelled
    obtain ⟨token, rfl, word⟩ := List.map_eq_singleton_iff.mp spelled
    exact ⟨.literal token.span value, rfl, Reads.literal printable word⟩
  | stepped, .var span name, _ => by
    intro tokens spelled
    obtain ⟨⟨kind, lexeme, place⟩, rfl, word⟩ := List.map_eq_singleton_iff.mp spelled
    cases word
    exact ⟨.var place _, rfl, Reads.var rfl⟩
  | stepped, .binary span op left right, printable => by
    rw [Expr.isPrintable, Bool.and_eq_true] at printable
    rw [Expr.words]
    refine Means.join op.joins (Expr.means stepped left printable.1)
      (Expr.means stepped right printable.2) fun sameLeft sameRight => ?_
    rw [Expr.bare, Expr.bare, sameLeft, sameRight]
  | stepped, .logical span op left right, printable => by
    rw [Expr.isPrintable, Bool.and_eq_true] at printable
    rw [Expr.words]
    refine Means.join op.joins (Expr.means stepped left printable.1)
      (Expr.means stepped right printable.2) fun sameLeft sameRight => ?_
    rw [Expr.bare, Expr.bare, sameLeft, sameRight]
  | stepped, .comparison span op left right, printable => by
    rw [Expr.isPrintable, Bool.and_eq_true] at printable
    rw [Expr.words]
    refine Means.join op.joins (Expr.means stepped left printable.1)
      (Expr.means stepped right printable.2) fun sameLeft sameRight => ?_
    rw [Expr.bare, Expr.bare, sameLeft, sameRight]
  | stepped, .unary span op operand, printable => by
    rw [Expr.words]
    exact ((Expr.means stepped operand printable).enclose .unary).operator span op
  | stepped, .cast span target operand, printable => by
    rw [Expr.isPrintable, Bool.and_eq_true] at printable
    rw [Expr.words]
    exact ((Expr.means stepped operand printable.2).enclose .unary).cast span printable.1
  | stepped, .call span function arguments, printable => by
    intro tokens spelled
    rw [Expr.words] at spelled
    obtain ⟨⟨kind, lexeme, place⟩, more, rfl, word, spelled⟩ := List.map_eq_cons_iff.mp spelled
    obtain ⟨bracket, more, rfl, opens, spelled⟩ := List.map_eq_cons_iff.mp spelled
    obtain ⟨inner, more, rfl, inside, spelled⟩ := List.map_eq_append_iff.mp spelled
    obtain ⟨closing, rfl, closes⟩ := List.map_eq_singleton_iff.mp spelled
    obtain ⟨read, same, rows⟩ := Expr.groups_mean stepped arguments printable inner inside
    cases word
    refine ⟨_, ?_, Reads.call rfl (Token.is_symbol opens) rows (Token.is_symbol closes)⟩
    rw [Expr.bare, Expr.bare, same]
  | stepped, .range span first last none inclusive, printable => by
    rw [Expr.isPrintable, Bool.and_eq_true] at printable
    rw [Expr.words]
    exact Means.rangePlain span inclusive ((Expr.means stepped first printable.1).enclose .sum)
      ((Expr.means stepped last printable.2).enclose .sum)
  | stepped, .range span first last (some step) inclusive, printable => by
    simp only [Expr.isPrintable, Bool.and_eq_true] at printable
    obtain ⟨⟨⟨rfl, printable⟩, printable'⟩, printable''⟩ := printable
    rw [Expr.words]
    exact Means.rangeStepped span inclusive ((Expr.means true first printable).enclose .sum)
      ((Expr.means true last printable').enclose .sum)
      ((Expr.means true step printable'').enclose .sum)
  | stepped, .list span items, printable => by
    intro tokens spelled
    rw [Expr.words] at spelled
    obtain ⟨bracket, more, rfl, opens, spelled⟩ := List.map_eq_cons_iff.mp spelled
    obtain ⟨inner, more, rfl, inside, spelled⟩ := List.map_eq_append_iff.mp spelled
    obtain ⟨closing, rfl, closes⟩ := List.map_eq_singleton_iff.mp spelled
    obtain ⟨read, same, rows⟩ := Expr.groups_mean stepped items printable inner inside
    refine ⟨_, ?_, Reads.list (Token.is_symbol opens) rows.series (Token.is_symbol closes)⟩
    rw [Expr.bare, Expr.bare, same]
  | stepped, .dict span entries, printable => by
    intro tokens spelled
    rw [Expr.words] at spelled
    obtain ⟨bracket, more, rfl, opens, spelled⟩ := List.map_eq_cons_iff.mp spelled
    obtain ⟨inner, more, rfl, inside, spelled⟩ := List.map_eq_append_iff.mp spelled
    obtain ⟨closing, rfl, closes⟩ := List.map_eq_singleton_iff.mp spelled
    obtain ⟨read, same, rows⟩ := Expr.entryGroups_mean stepped entries printable inner inside
    refine ⟨_, ?_, Reads.dict (Token.is_symbol opens) rows.series (Token.is_symbol closes)⟩
    rw [Expr.bare, Expr.bare, same]
  | stepped, .index span target position, printable => by
    rw [Expr.isPrintable, Bool.and_eq_true] at printable
    rw [Expr.words]
    exact Means.index span ((Expr.means stepped target printable.1).enclose .indexed)
      ((Expr.means stepped position printable.2).either)

/-- The words of expressions with commas between them mean the row of the expressions. -/
theorem Expr.groups_mean : ∀ (stepped : Bool) (items : List Expr),
    Expr.arePrintable stepped items = true →
    MeansRow (Reads stepped .either) Expr.bareAll (Expr.groups items) items
  | stepped, [], _ => MeansRow.nil
  | stepped, [item], printable => by
    rw [Expr.arePrintable, Bool.and_eq_true] at printable
    have one := (Expr.means stepped item printable.1).either
    exact MeansRow.last (fun _ _ => rfl) one
  | stepped, item :: next :: rest, printable => by
    rw [Expr.arePrintable, Bool.and_eq_true] at printable
    have one := (Expr.means stepped item printable.1).either
    exact MeansRow.cons (fun _ _ => rfl) rfl one
      (Expr.groups_mean stepped (next :: rest) printable.2)

/-- The words of entries with commas between them mean the row of the entries. -/
theorem Expr.entryGroups_mean : ∀ (stepped : Bool) (entries : List (Expr × Expr)),
    Expr.entriesPrintable stepped entries = true →
    MeansRow (ReadsEntry stepped) Expr.bareEntries (Expr.entryGroups entries) entries
  | stepped, [], _ => MeansRow.nil
  | stepped, [(key, value)], printable => by
    simp only [Expr.entriesPrintable, Bool.and_eq_true] at printable
    -- The colon behind a key is no step, so the key is read where ranges take none.
    have first := (Expr.means false key printable.1.1).either
    have second := (Expr.means stepped value printable.1.2).either
    exact MeansRow.last (fun _ _ => rfl) (means_entry first second)
  | stepped, (key, value) :: next :: rest, printable => by
    rw [Expr.entriesPrintable, Bool.and_eq_true, Bool.and_eq_true] at printable
    have first := (Expr.means false key printable.1.1).either
    have second := (Expr.means stepped value printable.1.2).either
    exact MeansRow.cons (fun _ _ => rfl) rfl (means_entry first second)
      (Expr.entryGroups_mean stepped (next :: rest) printable.2)

end

/-! ## The round trip -/

/-- Whether a token goes on with some expression: a bracket that opens, the operator of a layer, or
the colon before a step. -/
def Token.continuesExpr (token : Token) : Bool :=
  ["(", "[", "*", "/", "%", "+", "-", "..", "...", ":", "<", "<=", ">", ">=", "==", "!=", "&", "|",
    "^"].any token.is

/-- A token that goes on with no expression goes on with none of any layer. -/
theorem Token.stops_of_continuesExpr {token : Token} (h : token.continuesExpr = false) :
    token.Stops true .either := by
  unfold continuesExpr at h
  rw [List.any_eq_false] at h
  intro text mem
  exact Bool.eq_false_iff.mpr (h text mem)

/-- The fuel of an expression comes from the tokens that are left. -/
theorem run_exprStepped (stepped : Bool) (stream : TokenStream) :
    (Parse.exprStepped stepped).run stream =
      (exprWithin stepped (layers * (stream.ahead.length + 1)) .either).run stream := by
  unfold Parse.exprStepped
  rw [StateT.run_bind, StateT.run_get]
  exact pure_bind _ _

/-- As `run_exprStepped`, where ranges may take a step. -/
theorem run_expr (stream : TokenStream) :
    Parse.expr.run stream =
      (exprWithin true (layers * (stream.ahead.length + 1)) .either).run stream :=
  run_exprStepped true stream

/-- What is read as the loosest layer is read as an expression where nothing goes on with it. -/
theorem Parse.Reads.run_exprStepped {tokens : List Token}
    (h : Reads stepped .either tokens expression) (rest : List Token) (ending : Span)
    (stops : (TokenStream.peek ⟨rest, ending⟩).Stops stepped .either) :
    (Parse.exprStepped stepped).run ⟨tokens ++ rest, ending⟩ =
      .ok (expression, ⟨rest, ending⟩) := by
  rw [ReactiveScript.run_exprStepped]
  refine h.run_eq rest ending _ ?_ stops
  rw [List.length_append]
  unfold layers
  omega

/-- **The parser inverts the printer.** Tokens with the words of an expression, at any places and
before any token that goes on with no expression, are read as the expression but for its places, and
nothing behind them is taken. -/
theorem expr_words (expression : Expr) (printable : expression.isPrintable true = true)
    (tokens rest : List Token) (ending : Span)
    (spelled : tokens.map Token.word = expression.words)
    (follow : (TokenStream.peek ⟨rest, ending⟩).continuesExpr = false) :
    ∃ read : Expr, read.bare = expression.bare ∧
      Parse.expr.run ⟨tokens ++ rest, ending⟩ = .ok (read, ⟨rest, ending⟩) := by
  obtain ⟨read, same, reads⟩ := (Expr.means true expression printable).either tokens spelled
  exact ⟨read, same, reads.run_exprStepped rest ending (Token.stops_of_continuesExpr follow)⟩

/-- The tokens of some words, at no known places. -/
def unplaced (words : List Word) : List Token := words.map fun word => ⟨word.1, word.2, .unknown⟩

/-- The expression `(1 | x) * -f("a", [2])[0] .. list<int> -> y : 3 < {k .. 2: true}`. -/
def sampleExpr : Expr :=
  .comparison .unknown .less
    (.range .unknown
      (.binary .unknown .mul
        (.logical .unknown .or (.literal .unknown (.int 1)) (.var .unknown "x"))
        (.unary .unknown .negate
          (.index .unknown
            (.call .unknown "f" [.literal .unknown (.text "a"),
              .list .unknown [.literal .unknown (.int 2)]])
            (.literal .unknown (.int 0)))))
      (.cast .unknown (.list .int) (.var .unknown "y"))
      (some (.literal .unknown (.int 3))) false)
    (.dict .unknown
      [(.range .unknown (.var .unknown "k") (.literal .unknown (.int 2)) none false,
        .literal .unknown (.boolean true))])

/-- The sample is read back before a semicolon. -/
theorem sampleExpr_words :
    ∃ read : Expr, read.bare = sampleExpr.bare ∧
      Parse.expr.run ⟨unplaced sampleExpr.words ++ [⟨.symbol, ";", .unknown⟩], .unknown⟩ =
        .ok (read, ⟨[⟨.symbol, ";", .unknown⟩], .unknown⟩) :=
  expr_words sampleExpr (by decide) _ _ _ (by rw [unplaced, List.map_map]; exact List.map_id _)
    (by decide)

end ReactiveScript
