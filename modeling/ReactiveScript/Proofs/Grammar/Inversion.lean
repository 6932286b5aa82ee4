import ReactiveScript.Proofs.Grammar.Opening
import ReactiveScript.Proofs.Grammar.Program
import ReactiveScript.Proofs.Place.Expression

/-! # What has been read can be read anywhere

`Parse.Reads` says that a rule reads an expression off some tokens, whatever follows them. Here is
the way back: where the rule has given an expression, it has read it off the first tokens of its
stream (`Parse.Consumes`), and so would the rule do on these tokens anywhere else. It would even do
so where ranges take steps other than here, if only none of the ranges in the expression has taken
one (`Parse.Alike`). -/

namespace ReactiveScript

/-! ## Joined operands -/

/-- A token that joins operands of a layer goes on with none of them. -/
theorem Level.spec_of_join? {level : Level} {token : Token} {join : Expr → Expr → Expr}
    (h : level.join? token = some join) :
    level.isChain = true ∧ ∀ stepped, token.Stops stepped level.tighter := by
  unfold join? at h
  split at h
  · rename_i kind
    unfold joinSymbol? at h
    split at h
    all_goals cases h
    -- What is left are the symbols of each layer.
    all_goals
      rename_i lexeme
      refine ⟨rfl, fun stepped => ?_⟩
      have is : token.word = .symbol _ := Prod.ext kind lexeme
      exact Token.stops_of_word is (by cases stepped <;> decide)
  · cases h

/-- What joins operands makes a step in neither of them disappear. -/
theorem Level.isStepless_join {level : Level} {token : Token} {join : Expr → Expr → Expr}
    (h : level.join? token = some join) (left right : Expr) :
    (join left right).isStepless = (left.isStepless && right.isStepless) := by
  unfold join? joinSymbol? at h
  repeat' split at h
  all_goals cases h
  all_goals rfl

namespace Parse

variable {α β γ : Type} {wanted : List Token → β → Prop} {stream : TokenStream}

/-! ## Rules that consume tokens -/

/-- **What a rule consumes.** If the rule gives a value, it has taken the first tokens of the
stream, and they are wanted for this value. -/
def Consumes (wanted : List Token → β → Prop) (rule : Parse β) (stream : TokenStream) : Prop :=
  ∀ value rest, rule.run stream = .ok (value, rest) →
    ∃ tokens, stream = ⟨tokens ++ rest.ahead, rest.ending⟩ ∧ wanted tokens value

namespace Consumes

/-- A value without tokens. -/
theorem pure {value : β} (h : wanted [] value) : Consumes wanted (pure value) stream := by
  intro _ _ same
  cases same
  exact ⟨[], rfl, h⟩

/-- A rule that fails consumes what it may. -/
theorem of_error {rule : Parse β} {fault : Fault} (h : rule.run stream = .error fault) :
    Consumes wanted rule stream := by
  intro value rest same
  rw [h] at same
  cases same

/-- Weaker demands. -/
theorem imp {rule : Parse β} {weaker : List Token → β → Prop} (h : Consumes wanted rule stream)
    (h' : ∀ tokens value, wanted tokens value → weaker tokens value) :
    Consumes weaker rule stream := by
  intro value rest ran
  obtain ⟨tokens, same, holds⟩ := h value rest ran
  exact ⟨tokens, same, h' tokens value holds⟩

/-- Rules after rules, of which the second knows what the first has taken. -/
theorem bind_from {good : List Token → α → Prop} {rule : Parse α} {next : α → Parse β}
    (first : Consumes good rule stream)
    (second : ∀ tokens value rest, stream = ⟨tokens ++ rest.ahead, rest.ending⟩ →
      good tokens value → Consumes (fun more => wanted (tokens ++ more)) (next value) rest) :
    Consumes wanted (rule >>= next) stream := by
  intro result rest ran
  obtain ⟨value, between, ran, ran'⟩ := exists_of_run_bind ran
  obtain ⟨tokens, same, holds⟩ := first value between ran
  obtain ⟨more, same', holds'⟩ := second tokens value between same holds result rest ran'
  refine ⟨tokens ++ more, ?_, holds'⟩
  rw [same, same', List.append_assoc]

/-- Rules after rules. -/
theorem bind {good : List Token → α → Prop} {rule : Parse α} {next : α → Parse β}
    (first : Consumes good rule stream)
    (second : ∀ tokens value rest, good tokens value →
      Consumes (fun more => wanted (tokens ++ more)) (next value) rest) :
    Consumes wanted (rule >>= next) stream :=
  first.bind_from fun tokens value rest _ => second tokens value rest

/-- Rules that look at the next token. -/
theorem peek_bind {next : Token → Parse β} (h : Consumes wanted (next stream.peek) stream) :
    Consumes wanted (peek >>= next) stream := h

/-- Rules that pass over the next token. -/
theorem advance_bind {next : Unit → Parse β} (there : stream.peek.kind ≠ .ending)
    (h : Consumes (fun more => wanted (stream.peek :: more)) (next ()) stream.advance) :
    Consumes wanted (advance >>= next) stream := by
  obtain ⟨_ | ⟨token, rest⟩, ending⟩ := stream
  · exact absurd rfl there
  · intro value later ran
    obtain ⟨more, same, holds⟩ := h value later ran
    cases same
    exact ⟨token :: more, rfl, holds⟩

/-- A symbol that is taken if it stands there. -/
theorem accept_bind {text : String} {next : Bool → Parse β}
    (taken : ∀ token rest, token.is text = true →
      Consumes (fun more => wanted (token :: more)) (next true) rest)
    (other : Consumes wanted (next false) stream) :
    Consumes wanted (accept text >>= next) stream := by
  unfold accept sees
  simp only [bind_assoc, pure_bind]
  apply peek_bind
  split
  · rename_i found
    simp only [bind_assoc, pure_bind]
    exact advance_bind (Token.kind_ne_ending_of_is found) (taken _ _ found)
  · exact other

/-- One of some symbols that is taken if it stands there. -/
theorem acceptAny_bind {texts : List String} {next : Option Token → Parse β}
    (taken : ∀ token rest, texts.any token.is = true →
      Consumes (fun more => wanted (token :: more)) (next (some token)) rest)
    (other : texts.any stream.peek.is = false → Consumes wanted (next none) stream) :
    Consumes wanted (acceptAny texts >>= next) stream := by
  unfold acceptAny
  simp only [bind_assoc]
  apply peek_bind
  split
  · rename_i found
    obtain ⟨text, _, is⟩ := List.any_eq_true.mp found
    simp only [bind_assoc, pure_bind]
    exact advance_bind (Token.kind_ne_ending_of_is is) (taken _ _ found)
  · rename_i unfound
    exact other (Bool.eq_false_iff.mpr unfound)

/-- A symbol that has to stand there. -/
theorem expect_bind {text context : String} {next : Unit → Parse β}
    (h : ∀ token rest, token.is text = true →
      Consumes (fun more => wanted (token :: more)) (next ()) rest) :
    Consumes wanted (expect text context >>= next) stream := by
  unfold expect sees
  simp only [bind_assoc, pure_bind]
  apply peek_bind
  split
  · rename_i found
    exact advance_bind (Token.kind_ne_ending_of_is found) (h _ _ found)
  · exact of_error rfl

/-- A computation without tokens. -/
theorem lift_bind {outcome : Except Fault α} {next : α → Parse β}
    (h : ∀ value, outcome = .ok value → Consumes wanted (next value) stream) :
    Consumes wanted (liftM outcome >>= next) stream := by
  cases outcome with
  | error fault => exact of_error rfl
  | ok value => exact h value rfl

/-! ## Types -/

/-- A type, with any fuel. -/
theorem typeWithin (fuel : Nat) (stream : TokenStream) :
    Consumes ReadsType (typeWithin fuel) stream := by
  induction fuel generalizing stream with
  | zero => exact of_error rfl
  | succ fuel ih =>
    rw [Parse.typeWithin]
    apply peek_bind
    split
    · exact of_error rfl
    rename_i known
    have starts : stream.peek.startsType = true := by simpa using known
    apply advance_bind (Token.kind_ne_ending_of_startsType starts)
    split
    · rename_i list
      refine accept_bind (fun bracket rest opens => ?_) (pure (.anyList starts list))
      refine (ih _).bind fun inner element rest read => expect_bind fun closing rest closes => ?_
      exact pure (.list starts list opens read closes)
    split
    · rename_i dict
      refine accept_bind (fun bracket rest opens => ?_) (pure (.anyDict starts dict))
      refine (ih _).bind fun first key rest read => expect_bind fun comma rest between => ?_
      refine (ih _).bind fun second value rest read' => expect_bind fun closing rest closes => ?_
      exact pure (.dict starts dict opens read between read' closes)
    · rename_i list dict
      exact pure (.word starts list dict)

/-- **A type that is given is read off its tokens.** -/
theorem type (stream : TokenStream) : Consumes ReadsType type stream :=
  typeWithin (stream.ahead.length + 1) stream

end Consumes

/-! ## Readings that do not depend on steps -/

/-- **Tokens are read alike** where ranges take steps and where they do not: as it has been done,
and, if no range in the value takes a step, in the other way as well. Where ranges may take no step,
none has taken one. -/
structure Alike (stepped : Bool) (plain : β → Bool) (reads : Bool → List Token → β → Prop)
    (tokens : List Token) (value : β) : Prop where
  /-- No range has taken a step where none may. -/
  stepless : stepped = false → plain value = true
  /-- The tokens are read. -/
  reads : ∀ mode, mode = stepped ∨ plain value = true → reads mode tokens value

namespace Alike

variable {stepped : Bool} {plain : β → Bool} {reads : Bool → List Token → β → Prop}
variable {tokens first second : List Token} {value : β}

/-- Tokens in which there is nowhere to take a step. -/
theorem leaf (stepless : plain value = true) (h : ∀ mode, reads mode tokens value) :
    Alike stepped plain reads tokens value :=
  ⟨fun _ => stepless, fun mode _ => h mode⟩

/-- A reading with one part. -/
theorem one {part : α} {plainPart : α → Bool} {readsPart : Bool → List Token → α → Prop}
    (h : Alike stepped plainPart readsPart first part) (same : plain value = plainPart part)
    (build : ∀ mode, readsPart mode first part → reads mode tokens value) :
    Alike stepped plain reads tokens value := by
  refine ⟨fun never => ?_, fun mode may => build mode (h.reads mode ?_)⟩
  · rw [same]
    exact h.stepless never
  · rwa [same] at may

/-- A reading with two parts. -/
theorem two {left : α} {right : γ} {plainLeft : α → Bool} {plainRight : γ → Bool}
    {readsLeft : Bool → List Token → α → Prop} {readsRight : Bool → List Token → γ → Prop}
    (h : Alike stepped plainLeft readsLeft first left)
    (h' : Alike stepped plainRight readsRight second right)
    (same : plain value = (plainLeft left && plainRight right))
    (build : ∀ mode, readsLeft mode first left → readsRight mode second right →
      reads mode tokens value) :
    Alike stepped plain reads tokens value := by
  have both : plain value = true ↔ plainLeft left = true ∧ plainRight right = true := by
    rw [same, Bool.and_eq_true]
  refine ⟨fun never => both.mpr ⟨h.stepless never, h'.stepless never⟩, fun mode may => ?_⟩
  refine build mode (h.reads mode ?_) (h'.reads mode ?_)
  · exact may.imp_right fun plain => (both.mp plain).1
  · exact may.imp_right fun plain => (both.mp plain).2

end Alike

/-- Tokens are read alike as an expression of a layer. -/
abbrev ReadsAlike (stepped : Bool) (level : Level) : List Token → Expr → Prop :=
  Alike stepped Expr.isStepless fun mode => Reads mode level

/-- Tokens of a step, which is there or not. -/
inductive ReadsStep : Bool → List Token → Option Expr → Prop
  /-- No step. -/
  | none {stepped : Bool} : ReadsStep stepped [] none
  /-- A colon and a step. -/
  | some {colon : Token} {tokens : List Token} {step : Expr} : colon.is ":" = true →
    Reads true .sum tokens step → ReadsStep true (colon :: tokens) (some step)

/-- Tokens before a bracket that closes them. -/
inductive Closed (text : String) (one : List Token → β → Prop) : List Token → β → Prop
  /-- The tokens and the bracket. -/
  | intro {tokens : List Token} {value : β} {closing : Token} : one tokens value →
    closing.is text = true → Closed text one (tokens ++ [closing]) value

/-- A thing and a comma before what is closed. -/
theorem Closed.cons {text : String} {one : List Token → α → Prop} {other : List Token → β → Prop}
    {tokens before : List Token} {comma : Token} {part : α} {value : β}
    (h : Closed text one tokens part)
    (build : ∀ inner, one inner part → other (before ++ comma :: inner) value) :
    Closed text other (before ++ comma :: tokens) value := by
  obtain ⟨read, closes⟩ := h
  rw [← List.cons_append, ← List.append_assoc]
  exact .intro (build _ read) closes

/-! ## All rules -/

/-- **The rules for expressions consume what is read**, with some fuel. -/
structure ExprConsumes (fuel : Nat) : Prop where
  /-- An expression of a layer. -/
  expr (stepped : Bool) (level : Level) (stream : TokenStream) :
    Consumes (ReadsAlike stepped level) (exprWithin stepped fuel level) stream
  /-- The step of a range. -/
  step (stepped : Bool) (stream : TokenStream) :
    Consumes (ReadsStep stepped) (stepWithin stepped fuel) stream
  /-- The operands that follow those that have been read. -/
  chain {stepped : Bool} {level : Level} (isChain : level.isChain = true) {tokens : List Token}
    {left : Expr} (h : ReadsAlike stepped level tokens left) (stream : TokenStream) :
    Consumes (fun more => ReadsAlike stepped level (tokens ++ more))
      (chainWithin stepped fuel level left) stream
  /-- The indices that follow what has been read. -/
  indices {stepped : Bool} {tokens : List Token} {target : Expr}
    (h : ReadsAlike stepped .indexed tokens target) (stream : TokenStream) :
    Consumes (fun more => ReadsAlike stepped .indexed (tokens ++ more))
      (indicesWithin stepped fuel target) stream
  /-- What holds no operators. -/
  primary (stepped : Bool) (stream : TokenStream) :
    Consumes (ReadsAlike stepped .primary) (primaryWithin stepped fuel) stream
  /-- The arguments of a call. -/
  arguments (stepped : Bool) (stream : TokenStream) :
    Consumes (Alike stepped Expr.areStepless fun mode => Closed ")" (Rows (Reads mode .either)))
      (argumentsWithin stepped fuel) stream
  /-- The arguments of which one has to follow. -/
  moreArguments (stepped : Bool) (stream : TokenStream) :
    Consumes (Alike stepped Expr.areStepless fun mode => Closed ")" (Row (Reads mode .either)))
      (moreArgumentsWithin stepped fuel) stream
  /-- The items of a list. -/
  items (stepped : Bool) (stream : TokenStream) :
    Consumes (Alike stepped Expr.areStepless fun mode => Closed "]" (Series (Reads mode .either)))
      (itemsWithin stepped fuel) stream
  /-- The entries of a dictionary. -/
  entries (stepped : Bool) (stream : TokenStream) :
    Consumes
      (Alike stepped Expr.entriesStepless fun mode => Closed "\x7d" (Series (ReadsEntry mode)))
      (entriesWithin stepped fuel) stream

namespace ExprConsumes

variable {fuel : Nat}

/-- A range. -/
theorem range_succ (h : ExprConsumes fuel) (stepped : Bool) (stream : TokenStream) :
    Consumes (ReadsAlike stepped .range) (exprWithin stepped (fuel + 1) .range) stream := by
  rw [exprWithin]
  refine (h.expr _ _ _).bind fun left first rest readsFirst => ?_
  refine .acceptAny_bind (fun op rest is => ?_) fun _ => ?_
  · have stops (mode : Bool) : op.Stops mode .sum := by
      obtain ⟨text, mem, is⟩ := List.any_eq_true.mp is
      have : ∀ text ∈ ["..", "..."], text ∉ Level.sum.continuing mode := by
        cases mode <;> decide
      exact Token.stops_of_is is (this text mem)
    refine (h.expr _ _ _).bind fun right last rest readsLast => ?_
    refine (h.step _ _).bind fun others step rest readsStep => .pure ?_
    rw [List.append_nil]
    cases readsStep with
    | none =>
      rw [List.append_nil]
      refine readsFirst.two readsLast rfl fun mode read read' => ?_
      exact read.rangePlain read' is (stops mode)
    | some colon readsStep =>
      -- The range has taken a step, so it is read just where ranges may.
      refine ⟨fun never => absurd never.symm Bool.false_ne_true, fun mode may => ?_⟩
      obtain rfl : mode = true := may.resolve_right Bool.false_ne_true
      exact (readsFirst.reads true (.inl rfl)).rangeStepped (readsLast.reads true (.inl rfl))
        readsStep is (stops true) colon (Token.stops_of_is colon (by decide))
  · apply Consumes.pure
    rw [List.append_nil]
    exact readsFirst.one rfl fun mode read => read.range

/-- Operators before an operand, and casts. -/
theorem unary_succ (h : ExprConsumes fuel) (stepped : Bool) (stream : TokenStream) :
    Consumes (ReadsAlike stepped .unary) (exprWithin stepped (fuel + 1) .unary) stream := by
  rw [exprWithin]
  refine .acceptAny_bind (fun op rest is => ?_) fun _ => .peek_bind ?_
  · have starts : op.Starts .unary := by
      obtain ⟨text, mem, is⟩ := List.any_eq_true.mp is
      have other : ∀ text ∈ ["!", "-"], text ≠ ")" ∧ text ≠ "]" ∧ text ≠ "\x7d" := by decide
      obtain ⟨group, list, dict⟩ := other text mem
      have differs {symbol : String} (ne : text ≠ symbol) : op.is symbol = false := by
        rw [Token.is_of_is is]
        exact decide_eq_false ne
      exact ⟨differs group, differs list, differs dict, fun tight => absurd tight (by decide)⟩
    refine (h.expr _ _ _).bind fun tokens operand rest reads => .pure ?_
    rw [List.append_nil]
    exact reads.one rfl fun mode read => read.operator is starts
  · split
    · refine (Consumes.type _).bind_from fun typed target rest same readsType => ?_
      refine .expect_bind fun arrow rest points => ?_
      refine (h.expr _ _ _).bind fun tokens operand rest reads => .pure ?_
      -- The type is what the stream starts with.
      obtain ⟨token, typed, rfl, _⟩ := readsType.starts
      subst same
      rw [List.append_nil]
      exact reads.one rfl fun mode read => read.cast readsType points
    · exact (h.expr _ _ _).imp fun tokens value reads => reads.one rfl fun mode read => read.unary

/-- **An expression of a layer.** -/
theorem expr_succ (h : ExprConsumes fuel) (stepped : Bool) (level : Level) (stream : TokenStream) :
    Consumes (ReadsAlike stepped level) (exprWithin stepped (fuel + 1) level) stream := by
  have chain (isChain : level.isChain = true) :
      Consumes (ReadsAlike stepped level) (exprWithin stepped (fuel + 1) level) stream := by
    rw [exprWithin_chain stepped fuel isChain]
    refine (h.expr _ _ _).bind fun tokens left rest reads => ?_
    exact h.chain isChain (reads.one rfl fun mode read => read.chain isChain) rest
  cases level with
  | range => exact h.range_succ stepped stream
  | unary => exact h.unary_succ stepped stream
  | indexed =>
    rw [exprWithin]
    refine (h.expr _ _ _).bind fun tokens target rest reads => ?_
    exact h.indices (reads.one rfl fun mode read => read.indexed) rest
  | primary =>
    rw [exprWithin]
    exact h.primary stepped stream
  | either | both | equality | order | sum | product => exact chain rfl

/-- **The step of a range.** -/
theorem step_succ (h : ExprConsumes fuel) (stepped : Bool) (stream : TokenStream) :
    Consumes (ReadsStep stepped) (stepWithin stepped (fuel + 1)) stream := by
  rw [stepWithin]
  cases stepped with
  | false => exact .pure .none
  | true =>
    rw [if_pos rfl]
    refine .accept_bind (fun colon rest is => ?_) (.pure .none)
    rw [if_pos rfl]
    refine (h.expr _ _ _).bind fun tokens step rest reads => .pure ?_
    rw [List.append_nil]
    exact .some is (reads.reads true (.inl rfl))

/-- **Further operands of a chain.** -/
theorem chain_succ (h : ExprConsumes fuel) {stepped : Bool} {level : Level}
    (isChain : level.isChain = true) {tokens : List Token} {left : Expr}
    (reads : ReadsAlike stepped level tokens left) (stream : TokenStream) :
    Consumes (fun more => ReadsAlike stepped level (tokens ++ more))
      (chainWithin stepped (fuel + 1) level left) stream := by
  rw [chainWithin]
  apply Consumes.peek_bind
  split
  · apply Consumes.pure
    rwa [List.append_nil]
  · rename_i join joins
    apply Consumes.advance_bind (Level.kind_ne_ending_of_join? joins)
    refine (h.expr _ _ _).bind fun second right rest reads' => ?_
    -- What has been read by now is the first operand of what follows.
    have joined : ReadsAlike stepped level (tokens ++ stream.peek :: second) (join left right) :=
      reads.two reads' (Level.isStepless_join joins left right) fun mode read read' =>
        read.join isChain read' joins ((Level.spec_of_join? joins).2 mode)
    refine (h.chain isChain joined rest).imp fun more value reads => ?_
    rwa [List.append_assoc] at reads

/-- **Further indices.** -/
theorem indices_succ (h : ExprConsumes fuel) {stepped : Bool} {tokens : List Token} {target : Expr}
    (reads : ReadsAlike stepped .indexed tokens target) (stream : TokenStream) :
    Consumes (fun more => ReadsAlike stepped .indexed (tokens ++ more))
      (indicesWithin stepped (fuel + 1) target) stream := by
  rw [indicesWithin]
  refine .acceptAny_bind (fun bracket rest is => ?_) fun _ => .pure ?_
  · have opens : bracket.is "[" = true := by simpa using is
    refine (h.expr _ _ _).bind fun inner position rest reads' => ?_
    refine .expect_bind fun closing rest closes => ?_
    have indexed : ReadsAlike stepped .indexed (tokens ++ bracket :: (inner ++ [closing]))
        (.index bracket.span target position) :=
      reads.two reads' rfl fun mode read read' => read.index read' opens closes
    refine (h.indices indexed rest).imp fun more value reads => ?_
    simpa using reads
  · rwa [List.append_nil]

/-- **What holds no operators.** -/
theorem primary_succ (h : ExprConsumes fuel) (stepped : Bool) (stream : TokenStream) :
    Consumes (ReadsAlike stepped .primary) (primaryWithin stepped (fuel + 1)) stream := by
  rw [primaryWithin]
  apply Consumes.peek_bind
  split
  · rename_i kind
    apply Consumes.advance_bind (by simp [kind])
    exact .lift_bind fun value read => .pure (.leaf rfl fun mode => .number kind read)
  · rename_i kind
    apply Consumes.advance_bind (by simp [kind])
    exact .lift_bind fun value read => .pure (.leaf rfl fun mode => .imaginary kind read)
  · rename_i kind
    apply Consumes.advance_bind (by simp [kind])
    exact .pure (.leaf rfl fun mode => .text kind)
  · rename_i kind
    apply Consumes.advance_bind (by simp [kind])
    refine .accept_bind (fun bracket rest opens => ?_) (.pure (.leaf rfl fun mode => .var kind))
    rw [if_pos rfl]
    refine (h.arguments _ _).bind fun tokens arguments rest reads => .pure ?_
    rw [List.append_nil]
    refine reads.one rfl fun mode closed => ?_
    obtain ⟨rows, closes⟩ := closed
    exact .call kind opens rows closes
  · split
    · rename_i is
      apply Consumes.advance_bind (Token.kind_ne_ending_of_is is)
      exact .pure (.leaf rfl fun mode => .boolean is)
    split
    · rename_i is
      apply Consumes.advance_bind (Token.kind_ne_ending_of_is is)
      exact .pure (.leaf rfl fun mode => .boolean is)
    split
    · rename_i opens
      apply Consumes.advance_bind (Token.kind_ne_ending_of_is opens)
      refine (h.expr _ _ _).bind fun tokens inner rest reads => ?_
      refine .expect_bind fun closing rest closes => .pure ?_
      exact reads.one rfl fun mode read => read.group opens closes
    split
    · rename_i opens
      apply Consumes.advance_bind (Token.kind_ne_ending_of_is opens)
      refine (h.items _ _).bind fun tokens items rest reads => .pure ?_
      rw [List.append_nil]
      refine reads.one rfl fun mode closed => ?_
      obtain ⟨series, closes⟩ := closed
      exact .list opens series closes
    split
    · rename_i opens
      apply Consumes.advance_bind (Token.kind_ne_ending_of_is opens)
      refine (h.entries _ _).bind fun tokens entries rest reads => .pure ?_
      rw [List.append_nil]
      refine reads.one rfl fun mode closed => ?_
      obtain ⟨series, closes⟩ := closed
      exact .dict opens series closes
    · exact .of_error rfl

/-- **The arguments of a call.** -/
theorem arguments_succ (h : ExprConsumes fuel) (stepped : Bool) (stream : TokenStream) :
    Consumes (Alike stepped Expr.areStepless fun mode => Closed ")" (Rows (Reads mode .either)))
      (argumentsWithin stepped (fuel + 1)) stream := by
  rw [argumentsWithin]
  refine .accept_bind (fun closing rest closes => .pure ?_) ?_
  · have empty (mode : Bool) : Rows (Reads mode .either) [] [] := .inl ⟨rfl, rfl⟩
    exact .leaf rfl fun mode => .intro (empty mode) closes
  · refine (h.moreArguments _ _).imp fun tokens arguments reads => ?_
    refine reads.one rfl fun mode closed => ?_
    obtain ⟨row, closes⟩ := closed
    exact .intro (.inr row) closes

/-- **Arguments of which one has to follow.** -/
theorem moreArguments_succ (h : ExprConsumes fuel) (stepped : Bool) (stream : TokenStream) :
    Consumes (Alike stepped Expr.areStepless fun mode => Closed ")" (Row (Reads mode .either)))
      (moreArgumentsWithin stepped (fuel + 1)) stream := by
  rw [moreArgumentsWithin]
  refine (h.expr _ _ _).bind fun tokens argument rest reads => ?_
  refine .accept_bind (fun comma rest between => ?_) ?_
  · rw [if_pos rfl]
    refine (h.moreArguments _ _).bind fun more arguments rest reads' => .pure ?_
    refine reads.two reads' rfl fun mode read closed => ?_
    rw [List.append_nil]
    exact closed.cons fun inner row => .cons read between row
  · refine .expect_bind fun closing rest closes => .pure ?_
    refine reads.one (by simp [Expr.areStepless]) fun mode read => ?_
    exact .intro (.last read) closes

/-- **Items of a list.** -/
theorem items_succ (h : ExprConsumes fuel) (stepped : Bool) (stream : TokenStream) :
    Consumes (Alike stepped Expr.areStepless fun mode => Closed "]" (Series (Reads mode .either)))
      (itemsWithin stepped (fuel + 1)) stream := by
  rw [itemsWithin]
  refine .accept_bind (fun closing rest closes => .pure ?_) ?_
  · exact .leaf rfl fun mode => .intro Series.nil closes
  refine (h.expr _ _ _).bind fun tokens item rest reads => ?_
  refine .accept_bind (fun comma rest between => ?_) ?_
  · rw [if_pos rfl]
    refine (h.items _ _).bind fun more items rest reads' => .pure ?_
    refine reads.two reads' rfl fun mode read closed => ?_
    rw [List.append_nil]
    exact closed.cons fun inner series => .cons read between series
  · refine .expect_bind fun closing rest closes => .pure ?_
    refine reads.one (by simp [Expr.areStepless]) fun mode read => ?_
    exact .intro (.last read) closes

/-- **Entries of a dictionary.** No step is taken in a key, wherever the dictionary stands. -/
theorem entries_succ (h : ExprConsumes fuel) (stepped : Bool) (stream : TokenStream) :
    Consumes
      (Alike stepped Expr.entriesStepless fun mode => Closed "\x7d" (Series (ReadsEntry mode)))
      (entriesWithin stepped (fuel + 1)) stream := by
  rw [entriesWithin]
  refine .accept_bind (fun closing rest closes => .pure ?_) ?_
  · exact .leaf rfl fun mode => .intro Series.nil closes
  refine (h.expr _ _ _).bind fun first key rest keyed => .expect_bind fun colon rest is => ?_
  refine (h.expr _ _ _).bind fun second value rest valued => ?_
  have entry : Alike stepped (fun entry : Expr × Expr => entry.1.isStepless && entry.2.isStepless)
      ReadsEntry (first ++ colon :: second) (key, value) := by
    refine valued.one ?_ fun mode read => .intro (keyed.reads false (.inl rfl)) is read
    rw [keyed.stepless rfl, Bool.true_and]
  refine .accept_bind (fun comma rest between => ?_) ?_
  · rw [if_pos rfl]
    refine (h.entries _ _).bind fun more entries rest reads => .pure ?_
    refine entry.two reads rfl fun mode read closed => ?_
    have : Closed "\x7d" (Series (ReadsEntry mode)) ((first ++ colon :: second) ++ comma :: more)
        ((key, value) :: entries) := closed.cons fun inner series => .cons read between series
    simpa using this
  · refine .expect_bind fun closing rest closes => .pure ?_
    refine entry.one (by simp [Expr.entriesStepless]) fun mode read => ?_
    simpa using Closed.intro (Series.last read) closes

end ExprConsumes

/-- **The rules for expressions consume what is read**, whatever fuel there is. -/
theorem exprConsumes (fuel : Nat) : ExprConsumes fuel := by
  induction fuel with
  | zero => constructor <;> intros <;> exact .of_error rfl
  | succ fuel ih =>
    exact {
      expr := ih.expr_succ
      step := ih.step_succ
      chain := ih.chain_succ
      indices := ih.indices_succ
      primary := ih.primary_succ
      arguments := ih.arguments_succ
      moreArguments := ih.moreArguments_succ
      items := ih.items_succ
      entries := ih.entries_succ }

end Parse

end ReactiveScript
