import ReactiveScript.Parser.Statement
import ReactiveScript.Proofs.Grammar.Reading

/-! # What a rule yields, and where

`Parse.Yields` is the contract of a rule of the grammar on a stream of tokens: it either gives a
value of which something holds and leaves fewer than so many tokens, or it fails with a syntax error
at one of the places of the stream. A rule that is cut off before it has ended meets no such
contract, so one that does has bounds wide enough. What the places are is left open here; the trees
that a rule builds hold no others (`Expr.Placed`, `Stmt.Placed`). -/

namespace ReactiveScript

variable {places : Span → Prop}

/-! ## Places of trees -/

/-- **Every place in an expression** is one of some places. -/
inductive Expr.Placed (places : Span → Prop) : Expr → Prop
  | literal {span : Span} (here : places span) (value : Literal) :
    Placed places (.literal span value)
  | var {span : Span} (here : places span) (name : String) : Placed places (.var span name)
  | binary {span : Span} {left right : Expr} (here : places span) (op : BinaryOp)
      (first : Placed places left) (second : Placed places right) :
    Placed places (.binary span op left right)
  | logical {span : Span} {left right : Expr} (here : places span) (op : LogicalOp)
      (first : Placed places left) (second : Placed places right) :
    Placed places (.logical span op left right)
  | comparison {span : Span} {left right : Expr} (here : places span) (op : CompareOp)
      (first : Placed places left) (second : Placed places right) :
    Placed places (.comparison span op left right)
  | unary {span : Span} {operand : Expr} (here : places span) (op : UnaryOp)
      (inner : Placed places operand) : Placed places (.unary span op operand)
  | cast {span : Span} {operand : Expr} (here : places span) (target : Ty)
      (inner : Placed places operand) : Placed places (.cast span target operand)
  | call {span : Span} {arguments : List Expr} (here : places span) (function : String)
      (inner : ∀ argument ∈ arguments, Placed places argument) :
    Placed places (.call span function arguments)
  | range {span : Span} {first last : Expr} {step : Option Expr} (here : places span)
      (lower : Placed places first) (upper : Placed places last)
      (inner : ∀ expression ∈ step, Placed places expression) (inclusive : Bool) :
    Placed places (.range span first last step inclusive)
  | list {span : Span} {items : List Expr} (here : places span)
      (inner : ∀ item ∈ items, Placed places item) : Placed places (.list span items)
  | dict {span : Span} {entries : List (Expr × Expr)} (here : places span)
      (keys : ∀ entry ∈ entries, Placed places entry.1)
      (values : ∀ entry ∈ entries, Placed places entry.2) : Placed places (.dict span entries)
  | index {span : Span} {target position : Expr} (here : places span)
      (container : Placed places target) (inner : Placed places position) :
    Placed places (.index span target position)

/-- **Every place in a statement** is one of some places: those of its parts, of the expressions in
it and of the cases that it chooses from. -/
inductive Stmt.Placed (places : Span → Prop) : Stmt → Prop
  | expression {span : Span} {value : Expr} (here : places span) (inner : value.Placed places) :
    Placed places (.expression span value)
  | declaration {span : Span} {value : Option Expr} (here : places span) (type : Ty) (name : String)
      (inner : ∀ expression ∈ value, expression.Placed places) :
    Placed places (.declaration span type name value)
  | assignment {span : Span} {value : Expr} (here : places span) (name : String)
      (inner : value.Placed places) : Placed places (.assignment span name value)
  | compound {span : Span} {value : Expr} (here : places span) (name : String) (op : BinaryOp)
      (inner : value.Placed places) : Placed places (.compound span name op value)
  | element {span : Span} {target position value : Expr} (here : places span)
      (container : target.Placed places) (index : position.Placed places)
      (inner : value.Placed places) : Placed places (.element span target position value)
  | function {span : Span} {body : List Stmt} (here : places span) (returns : Ty) (name : String)
      (params : List Param) (inner : ∀ statement ∈ body, Placed places statement) :
    Placed places (.function span returns name params body)
  | leave {span : Span} {value : Option Expr} (here : places span)
      (inner : ∀ expression ∈ value, expression.Placed places) : Placed places (.leave span value)
  | raise {span : Span} {value : Expr} (here : places span) (inner : value.Placed places) :
    Placed places (.raise span value)
  | load {span : Span} (here : places span) (path : String) (label : Option String) :
    Placed places (.load span path label)
  | branch {span : Span} {condition : Expr} {thenBody : List Stmt} {elseBody : Option (List Stmt)}
      (here : places span) (test : condition.Placed places)
      (positive : ∀ statement ∈ thenBody, Placed places statement)
      (negative : ∀ body ∈ elseBody, ∀ statement ∈ body, Placed places statement) :
    Placed places (.branch span condition thenBody elseBody)
  | whileLoop {span : Span} {condition : Expr} {body : List Stmt} (here : places span)
      (test : condition.Placed places) (preroll : Nat)
      (inner : ∀ statement ∈ body, Placed places statement) :
    Placed places (.whileLoop span condition preroll body)
  | untilLoop {span : Span} {condition : Expr} {body : List Stmt} (here : places span)
      (test : condition.Placed places) (preroll : Nat)
      (inner : ∀ statement ∈ body, Placed places statement) :
    Placed places (.untilLoop span condition preroll body)
  | forLoop {span : Span} {first step : Stmt} {condition : Expr} {body : List Stmt}
      (here : places span) (before : Placed places first) (test : condition.Placed places)
      (between : Placed places step) (inner : ∀ statement ∈ body, Placed places statement) :
    Placed places (.forLoop span first condition step body)
  | forEach {span : Span} {iterable : Expr} {body : List Stmt} (here : places span) (type : Ty)
      (name : String) (container : iterable.Placed places)
      (inner : ∀ statement ∈ body, Placed places statement) :
    Placed places (.forEach span type name iterable body)
  | choice {span : Span} {subject : Expr} {cases : List (Case Stmt)}
      {fallback : Option (List Stmt)} (here : places span) (value : subject.Placed places)
      (starts : ∀ case ∈ cases, places case.span)
      (labels : ∀ case ∈ cases, case.label.Placed places)
      (bodies : ∀ case ∈ cases, ∀ statement ∈ case.body, Placed places statement)
      (otherwise : ∀ body ∈ fallback, ∀ statement ∈ body, Placed places statement) :
    Placed places (.choice span subject cases fallback)
  | signal {span : Span} (here : places span) (name : String) : Placed places (.signal span name)
  | emit {span : Span} (here : places span) (name : String) : Placed places (.emit span name)
  | when {span : Span} {body : List Stmt} (here : places span) (signal : String)
      (inner : ∀ statement ∈ body, Placed places statement) :
    Placed places (.when span signal body)
  | watch {span : Span} {body : List Stmt} (here : places span) (name : String)
      (inner : ∀ statement ∈ body, Placed places statement) :
    Placed places (.watch span name body)

/-! ## Places of streams -/

namespace TokenStream

variable {stream : TokenStream}

/-- Every token of a stream and its ending stand at one of some places. -/
structure Placed (places : Span → Prop) (stream : TokenStream) : Prop where
  /-- The places of the tokens. -/
  ahead : ∀ token ∈ stream.ahead, places token.span
  /-- The place of the ending. -/
  ending : places stream.ending

/-- How many tokens are left. -/
def left (stream : TokenStream) : Nat := stream.ahead.length

/-- The next token stands at one of the places. -/
theorem Placed.peek (h : stream.Placed places) : places stream.peek.span := by
  obtain ⟨_ | ⟨token, rest⟩, ending⟩ := stream
  · exact h.ending
  · exact h.ahead token List.mem_cons_self

/-- Behind the next token the places are the same. -/
theorem Placed.advance (h : stream.Placed places) : stream.advance.Placed places :=
  ⟨fun token mem => h.ahead token (List.mem_of_mem_drop mem), h.ending⟩

/-- Behind a token that is not the ending fewer tokens are left. -/
theorem left_advance_lt (h : stream.peek.kind ≠ .ending) : stream.advance.left < stream.left := by
  obtain ⟨_ | ⟨token, rest⟩, ending⟩ := stream
  · exact absurd rfl h
  · exact Nat.lt_succ_self _

end TokenStream

/-- A symbol or keyword is not the ending. -/
theorem Token.kind_ne_ending_of_is {token : Token} {text : String} (h : token.is text = true) :
    token.kind ≠ .ending := by
  intro same
  simp [Token.is, same] at h

/-- What starts a type is not the ending. -/
theorem Token.kind_ne_ending_of_startsType {token : Token} (h : token.startsType = true) :
    token.kind ≠ .ending := by
  intro same
  simp [Token.startsType, same] at h

/-! ## Contracts of rules -/

namespace Parse

variable {α β : Type} {good : α → Prop} {wanted : β → Prop} {bound limit : Nat}
variable {rule : Parse α} {next : α → Parse β} {stream : TokenStream}

/-- **What a rule yields from a stream**: a value that is `good`, at the places of the stream and
with fewer than `limit` tokens left behind it, or a syntax error at one of these places. -/
inductive Yields (places : Span → Prop) (good : α → Prop) (limit : Nat) (rule : Parse α)
    (stream : TokenStream) : Prop
  /-- The rule gives a value. -/
  | value {value : α} {rest : TokenStream} (read : rule.run stream = .ok (value, rest))
      (holds : good value) (placed : rest.Placed places) (fewer : rest.left < limit)
  /-- The rule fails. -/
  | fault {fault : Fault} (failed : rule.run stream = .error fault)
      (kind : fault.kind = .syntaxError) (placed : places fault.span)

/-- A value without a rule. -/
theorem Yields.pure {value : α} (holds : good value) (placed : stream.Placed places)
    (fewer : stream.left < limit) : Yields places good limit (pure value) stream :=
  .value rfl holds placed fewer

/-- A rule does what another one does on another stream. -/
theorem Yields.of_run_eq {other : Parse α} {earlier : TokenStream}
    (h : Yields places good limit other earlier) (same : rule.run stream = other.run earlier) :
    Yields places good limit rule stream := by
  cases h with
  | value read holds placed fewer => exact .value (same.trans read) holds placed fewer
  | fault failed kind placed => exact .fault (same.trans failed) kind placed

/-- One rule after another. -/
theorem Yields.bind (first : Yields places good bound rule stream)
    (second : ∀ value rest, good value → rest.Placed places → rest.left < bound →
      Yields places wanted limit (next value) rest) :
    Yields places wanted limit (rule >>= next) stream := by
  cases first with
  | value read holds placed fewer =>
    exact (second _ _ holds placed fewer).of_run_eq (run_bind_of read)
  | fault failed kind placed =>
    refine .fault ?_ kind placed
    rw [StateT.run_bind, failed]
    rfl

/-- A weaker contract. -/
theorem Yields.imp {held : α → Prop} (h : Yields places held bound rule stream)
    (holds : ∀ value, held value → good value) (fewer : bound ≤ limit) :
    Yields places good limit rule stream := by
  cases h with
  | value read held placed less => exact .value read (holds _ held) placed (by omega)
  | fault failed kind placed => exact .fault failed kind placed

/-- A rule that looks at the next token. -/
theorem Yields.peek_bind {next : Token → Parse β}
    (h : Yields places wanted limit (next stream.peek) stream) :
    Yields places wanted limit (peek >>= next) stream :=
  h.of_run_eq rfl

/-- A rule that passes over the next token. -/
theorem Yields.advance_bind {next : Unit → Parse β}
    (h : Yields places wanted limit (next ()) stream.advance) :
    Yields places wanted limit (advance >>= next) stream :=
  h.of_run_eq rfl

/-- A rule that looks at the stream. -/
theorem Yields.get_bind {next : TokenStream → Parse β}
    (h : Yields places wanted limit (next stream) stream) :
    Yields places wanted limit (get >>= next) stream :=
  h.of_run_eq rfl

/-- A rule that goes back to a stream. -/
theorem Yields.set_bind {earlier : TokenStream} {next : PUnit → Parse β}
    (h : Yields places wanted limit (next ⟨⟩) earlier) :
    Yields places wanted limit (set earlier >>= next) stream :=
  h.of_run_eq rfl

/-- A syntax error at one of the places. -/
theorem Yields.malformed {problem : String} {span : Span} (here : places span) :
    Yields places good limit (throw (Fault.malformed problem span)) stream :=
  .fault rfl rfl here

/-- The next token is refused. -/
theorem Yields.refuse (placed : stream.Placed places) (message : String) :
    Yields places good limit (refuse message) stream :=
  .peek_bind (.malformed placed.peek)

/-- A computation without tokens, and what follows it. -/
theorem Yields.lift_bind {outcome : Except Fault α}
    (ok : ∀ value, outcome = .ok value → Yields places wanted limit (next value) stream)
    (error : ∀ fault, outcome = .error fault → fault.kind = .syntaxError ∧ places fault.span) :
    Yields places wanted limit (liftM outcome >>= next) stream := by
  cases outcome with
  | ok value => exact (ok value rfl).of_run_eq rfl
  | error fault => exact .fault rfl (error fault rfl).1 (error fault rfl).2

/-! ## Single steps -/

/-- A symbol that is taken if it stands there. -/
theorem Yields.accept_bind {text : String} {next : Bool → Parse β} (placed : stream.Placed places)
    (taken : ∀ rest, rest.Placed places → rest.left < stream.left →
      Yields places wanted limit (next true) rest)
    (other : Yields places wanted limit (next false) stream) :
    Yields places wanted limit (accept text >>= next) stream := by
  unfold accept sees
  simp only [bind_assoc, pure_bind]
  refine .peek_bind ?_
  split
  · rename_i found
    simp only [bind_assoc, pure_bind]
    exact .advance_bind (taken _ placed.advance
      (TokenStream.left_advance_lt (Token.kind_ne_ending_of_is found)))
  · exact other

/-- One of some symbols that is taken if it stands there. -/
theorem Yields.acceptAny_bind {texts : List String} {next : Option Token → Parse β}
    (placed : stream.Placed places)
    (taken : ∀ token rest, token.lexeme ∈ texts → places token.span → rest.Placed places →
      rest.left < stream.left → Yields places wanted limit (next (some token)) rest)
    (other : Yields places wanted limit (next none) stream) :
    Yields places wanted limit (acceptAny texts >>= next) stream := by
  unfold acceptAny
  rw [bind_assoc]
  refine .peek_bind ?_
  split
  · rename_i found
    obtain ⟨text, mem, is⟩ := List.any_eq_true.mp found
    have same : stream.peek.lexeme = text := by
      simp only [Token.is, Bool.and_eq_true, decide_eq_true_eq] at is
      exact is.2
    simp only [bind_assoc, pure_bind]
    exact .advance_bind (taken _ _ (same ▸ mem) placed.peek placed.advance
      (TokenStream.left_advance_lt (Token.kind_ne_ending_of_is is)))
  · exact other

/-- A symbol that has to stand there. -/
theorem Yields.expect (placed : stream.Placed places) (text context : String) :
    Yields places (fun _ => True) stream.left (expect text context) stream := by
  unfold Parse.expect sees
  simp only [bind_assoc, pure_bind]
  refine .peek_bind ?_
  split
  · rename_i found
    exact .value rfl trivial placed.advance
      (TokenStream.left_advance_lt (Token.kind_ne_ending_of_is found))
  · exact .refuse placed _

/-- A name that has to stand there. -/
theorem Yields.identifier (placed : stream.Placed places) (context : String) :
    Yields places (fun _ => True) stream.left (identifier context) stream := by
  unfold Parse.identifier
  refine .peek_bind ?_
  split
  · rename_i found
    exact .value rfl trivial placed.advance (TokenStream.left_advance_lt (by simp [found]))
  · exact .refuse placed _

/-! ## Types -/

/-- A type inside a bound takes a token. -/
theorem Yields.typeWithin {fuel : Nat} :
    ∀ {stream : TokenStream}, stream.Placed places → stream.left < fuel →
      Yields places (fun _ => True) stream.left (typeWithin fuel) stream := by
  induction fuel with
  | zero => intro stream _ bounded; cases bounded
  | succ fuel ih =>
    intro stream placed bounded
    rw [Parse.typeWithin]
    refine .peek_bind ?_
    split
    · exact .refuse placed _
    rename_i starts
    have shorter : stream.advance.left < stream.left :=
      TokenStream.left_advance_lt (Token.kind_ne_ending_of_startsType (by simpa using starts))
    refine .advance_bind ?_
    split
    · refine .accept_bind placed.advance (fun rest placed fewer => ?_) ?_
      · rw [if_pos rfl]
        refine .bind (ih placed (by omega)) fun element rest _ placed fewer => ?_
        refine .bind (.expect placed _ _) fun _ rest _ placed fewer => ?_
        exact .pure trivial placed (by omega)
      · exact .pure trivial placed.advance shorter
    split
    · refine .accept_bind placed.advance (fun rest placed fewer => ?_) ?_
      · rw [if_pos rfl]
        refine .bind (ih placed (by omega)) fun key rest _ placed fewer => ?_
        refine .bind (.expect placed _ _) fun _ rest _ placed fewer => ?_
        refine .bind (ih placed (by omega)) fun value rest _ placed fewer => ?_
        refine .bind (.expect placed _ _) fun _ rest _ placed fewer => ?_
        exact .pure trivial placed (by omega)
      · exact .pure trivial placed.advance shorter
    · exact .pure trivial placed.advance shorter

/-- **A type** takes a token. -/
theorem Yields.type (placed : stream.Placed places) :
    Yields places (fun _ => True) stream.left type stream :=
  .get_bind (.typeWithin placed (Nat.lt_succ_self _))

end Parse

end ReactiveScript
