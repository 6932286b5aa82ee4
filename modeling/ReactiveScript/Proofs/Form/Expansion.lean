import ReactiveScript.Proofs.Form.Agreement
import ReactiveScript.Proofs.Grammar.Program

/-! # Derived forms

Loops with a negated condition, loops whose body comes first a number of times, counting loops and
assignments with an operator are forms of their own, and each is evaluated in its own way. Every one
of them ends like what it abbreviates (`derived_forms`): both sides are brought into one shape, and
the parts of that shape agree. -/

namespace ReactiveScript

namespace Flow

/-- The flow does not leave. -/
def Stays : Flow → Prop
  | .next _ => True
  | .leave _ => False

/-- The flow brings no value unless it leaves. -/
def IsPlain : Flow → Prop
  | .next value => value = .void
  | .leave _ => True

end Flow

namespace Eval

variable {run : Runner} {rounds : Nat}

/-! ## How evaluations may go on -/

/-- Every flow that comes of an evaluation is as promised. -/
def FlowsAs (promise : Flow → Prop) (action : Eval Flow) : Prop :=
  ∀ machine, action.Keeps (fun _ _ => True) machine fun _ flow => promise flow

namespace FlowsAs

variable {α : Type} {promise : Flow → Prop}

/-- A flow that is given at once. -/
theorem pure {flow : Flow} (h : promise flow) : FlowsAs promise (Pure.pure flow) :=
  fun _ => Keeps.pure trivial h

/-- What comes last decides. -/
theorem bind {first : Eval α} {next : α → Eval Flow} (h : ∀ value, FlowsAs promise (next value)) :
    FlowsAs promise (first >>= next) :=
  fun _ => Keeps.bind (fun _ _ => trivial) Keeps.any fun after value _ _ => h value after

/-- An evaluation at a place of the program. -/
theorem located {span : Span} {idle : Flow} {action : Eval Flow} (still : promise idle)
    (h : FlowsAs promise action) : FlowsAs promise (Eval.located span idle action) := by
  intro machine
  unfold Keeps
  cases running : machine.running with
  | true =>
    rw [located_of_running running]
    exact (h (movedTo machine span)).blaming
  | false =>
    rw [located_of_stopped running]
    exact ⟨trivial, still⟩

/-- **Simple statements do not leave.** -/
theorem stays_of_isSimple {statement : Stmt} (simple : statement.isSimple = true) :
    FlowsAs Flow.Stays (stmt run rounds statement) := by
  cases statement with
  | expression span value => exact located trivial (bind fun _ => pure trivial)
  | declaration span type name value =>
    cases value <;> exact located trivial (bind fun _ => bind fun _ => pure trivial)
  | assignment span name value =>
    exact located trivial (bind fun _ => bind fun _ => bind fun _ => pure trivial)
  | compound span name op value =>
    exact located trivial
      (bind fun _ => bind fun _ => bind fun _ => bind fun _ => bind fun _ => pure trivial)
  | element span target position value =>
    exact located trivial
      (bind fun _ => bind fun _ => bind fun _ => bind fun _ => pure trivial)
  | _ => cases simple

/-- A loop brings no value unless its body leaves. -/
theorem plain_loopWhile (test : Eval Bool) (body : Eval Flow) (rounds : Nat) :
    FlowsAs Flow.IsPlain (loopWhile test body rounds) := by
  induction rounds with
  | zero => exact fun _ => Keeps.throw trivial
  | succ rounds ih =>
    refine bind fun holds => ?_
    cases holds with
    | false => exact pure rfl
    | true =>
      refine bind fun flow => ?_
      cases flow with
      | leave value => exact pure trivial
      | next value => exact ih

end FlowsAs

/-! ## One evaluation behind the other -/

/-- One evaluation and then, unless it leaves, another. -/
def followedBy (first rest : Eval Flow) : Eval Flow := do
  match ← first with
  | .leave value => return .leave value
  | .next _ => rest

/-- It does not matter how evaluations in a row are grouped. -/
theorem followedBy_assoc (first second third : Eval Flow) :
    (first.followedBy second).followedBy third = first.followedBy (second.followedBy third) := by
  unfold followedBy
  rw [bind_assoc]
  congr 1
  funext flow
  cases flow with
  | leave value => rfl
  | next value => rfl

/-- Behind what never leaves comes the rest. -/
theorem followedBy_of_stays {first : Eval Flow} (h : FlowsAs Flow.Stays first)
    (rest : Eval Flow) : first.followedBy rest = first >>= fun _ => rest := by
  funext machine
  have stays := h machine
  unfold Keeps at stays
  simp only [followedBy, Bind.bind, EStateM.bind]
  cases ended : first machine with
  | error stop after => rfl
  | ok flow after =>
    rw [ended] at stays
    cases flow with
    | leave value => exact stays.2.elim
    | next value => rfl

/-- Behind what brings no value nothing need come. -/
theorem followedBy_nothing {first : Eval Flow} (h : FlowsAs Flow.IsPlain first) :
    first.followedBy (Pure.pure (.next .void)) = first := by
  funext machine
  have plain := h machine
  unfold Keeps at plain
  simp only [followedBy, Bind.bind, EStateM.bind]
  cases ended : first machine with
  | error stop after => rfl
  | ok flow after =>
    rw [ended] at plain
    cases flow with
    | leave value => rfl
    | next value =>
      have none : value = .void := plain.2
      rw [none]
      rfl

/-- What an evaluation for its effect alone is followed by does not see its value. -/
theorem discard_bind {α β : Type} (action : Eval α) (next : Unit → Eval β) :
    discard action >>= next = action >>= fun _ => next () := by
  funext machine
  simp only [discard, Functor.discard, Functor.mapConst, Function.comp, EStateM.map,
    Bind.bind, EStateM.bind]
  cases action machine with
  | ok value after => rfl
  | error stop after => rfl

/-- Statements in order, one and the rest. -/
theorem block_cons (first : Stmt) (rest : List Stmt) :
    block run rounds (first :: rest) =
      (stmt run rounds first).followedBy (block run rounds rest) := by
  rw [block]
  rfl

/-- **Some statements in order and then others.** -/
theorem block_append (first second : List Stmt) :
    block run rounds (first ++ second) =
      (block run rounds first).followedBy (block run rounds second) := by
  induction first with
  | nil => rw [List.nil_append, block]; rfl
  | cons statement rest ih =>
    rw [List.cons_append, block_cons, block_cons, ih, followedBy_assoc]

/-- **Copies of a body in order** are the body a number of times. -/
theorem block_replicate (count : Nat) (body : List Stmt) :
    block run rounds (List.replicate count body).flatten =
      repeatBody (block run rounds body) count := by
  induction count with
  | zero => rw [List.replicate_zero, List.flatten_nil, block]; rfl
  | succ count ih =>
    rw [List.replicate_succ, List.flatten_cons, block_append, ih]
    rfl

/-- A simple statement behind a body is executed for its effect alone. -/
theorem block_append_simple {step : Stmt} (simple : step.isSimple = true) (body : List Stmt) :
    block run rounds (body ++ [step]) = (block run rounds body).followedBy do
      discard <| stmt run rounds step
      return .next .void := by
  rw [block_append, block_cons, followedBy_of_stays (FlowsAs.stays_of_isSimple simple), block,
    discard_bind]

/-- On a machine that is not running statements do nothing. -/
theorem block_of_stopped {machine : Machine} (stopped : machine.running = false)
    (statements : List Stmt) :
    block run rounds statements machine = .ok (.next .void) machine := by
  induction statements with
  | nil => rw [block]; rfl
  | cons first rest ih =>
    simp only [block, Bind.bind, EStateM.bind, stmt_of_stopped stopped]
    exact ih

/-! ## Loops -/

/-- The answer that a value is to the test of a loop: whether it holds, taken one way or the other,
and the machine is running. -/
def answer (sense : Bool → Bool) (value : Value) : Eval Bool := do
  let holds ← truthy value
  return sense holds && (← get).running

/-- The test of a loop. -/
def goesRound (run : Runner) (rounds : Nat) (sense : Bool → Bool) (condition : Expr) : Eval Bool :=
  expr run rounds condition >>= answer sense

/-- A loop in one shape: the body a number of times, then the test before each round. -/
theorem stmt_whileLoop (span : Span) (condition : Expr) (count : Nat) (body : List Stmt) :
    stmt run rounds (.whileLoop span condition count body) =
      located span (.next .void) ((repeatBody (block run rounds body) count).followedBy
        (loopWhile (goesRound run rounds id condition) (block run rounds body) rounds)) := by
  rw [stmt]
  rfl

/-- The same for a loop with a negated condition. -/
theorem stmt_untilLoop (span : Span) (condition : Expr) (count : Nat) (body : List Stmt) :
    stmt run rounds (.untilLoop span condition count body) =
      located span (.next .void) ((repeatBody (block run rounds body) count).followedBy
        (loopWhile (goesRound run rounds not condition) (block run rounds body) rounds)) := by
  rw [stmt]
  rfl

/-- A loop whose body does not come first, as the last of some statements. -/
theorem block_whileLoop (span : Span) (condition : Expr) (body : List Stmt) :
    block run rounds [.whileLoop span condition 0 body] = located span (.next .void)
      (loopWhile (goesRound run rounds id condition) (block run rounds body) rounds) := by
  have plain : FlowsAs Flow.IsPlain (located span (.next .void)
      (loopWhile (goesRound run rounds id condition) (block run rounds body) rounds)) :=
    FlowsAs.located rfl (FlowsAs.plain_loopWhile _ _ _)
  rw [block_cons, stmt_whileLoop, block]
  exact followedBy_nothing plain

/-- A counting loop: its step closes every round. -/
theorem stmt_forLoop {first step : Stmt} (simple : step.isSimple = true) (span : Span)
    (condition : Expr) (body : List Stmt) :
    stmt run rounds (.forLoop span first condition step body) =
      located span (.next .void) (stmt run rounds first >>= fun _ =>
        loopWhile (expr run rounds condition >>= truthy) (block run rounds (body ++ [step]))
          rounds) := by
  rw [stmt, discard_bind, block_append_simple simple]
  rfl

end Eval

open Eval

/-- The test of a loop leaves the latch alone. -/
theorem Regime.latch_goesRound {budget : Nat} (sense : Bool → Bool) (condition : Expr)
    (machine : Machine) :
    Regime.latch.Obeys (goesRound (bodyWithin budget) budget sense condition) machine :=
  (Regime.latch_exprWithin budget condition machine).andThen fun _ _ _ _ => rfl

/-! ## Loops that agree -/

namespace Agree

variable {budget : Nat}

/-- Something that is read off the machine, whatever its place. -/
theorem reading {α : Type} {read : Machine → Except Fault α}
    (h : ∀ machine span, read (movedTo machine span) = read machine) :
    Agree (Eval.reading read) (Eval.reading read) := by
  intro machine span _
  have moved : Eval.reading read (movedTo machine span) =
      Eval.ofExcept (read machine) (movedTo machine span) :=
    congrArg (fun outcome => Eval.ofExcept outcome (movedTo machine span)) (h machine span)
  have here : Eval.reading read machine = Eval.ofExcept (read machine) machine := rfl
  rw [moved, here]
  cases read machine with
  | ok value => exact .value ⟨span, rfl⟩
  | error fault => exact .fault ⟨rfl, rfl⟩ ⟨span, rfl⟩

/-- An answer does not depend on the place of the machine. -/
theorem answer (sense : Bool → Bool) (value : Value) :
    Agree (Eval.answer sense value) (Eval.answer sense value) :=
  fun _ span _ => .value ⟨span, rfl⟩

/-- The test of a loop agrees with itself. -/
theorem goesRound (sense : Bool → Bool) (condition : Expr) :
    Agree (Eval.goesRound (bodyWithin budget) budget sense condition)
      (Eval.goesRound (bodyWithin budget) budget sense condition) :=
  after_expr condition (answer sense)

/-- A machine that is running need not be asked whether it is. -/
theorem goesRound_id (condition : Expr) :
    Agree (Eval.expr (bodyWithin budget) budget condition >>= Eval.truthy)
      (Eval.goesRound (bodyWithin budget) budget id condition) := by
  refine after_expr condition fun value => ?_
  intro machine span running
  have asked : Eval.answer id value (movedTo machine span) =
      .ok (value.truthyIn machine.store && machine.running) (movedTo machine span) := rfl
  rw [asked, running, Bool.and_true]
  exact .value ⟨span, rfl⟩

/-- **Whether a condition fails is whether its negation holds.** -/
theorem goesRound_not (span : Span) (condition : Expr) :
    Agree (Eval.goesRound (bodyWithin budget) budget not condition)
      (Eval.goesRound (bodyWithin budget) budget id (.unary span .not condition)) := by
  -- Both sides evaluate the condition, turn its value round, and ask whether that is true.
  have turned : Eval.goesRound (bodyWithin budget) budget not condition =
      (Eval.expr (bodyWithin budget) budget condition >>= fun value =>
        Eval.reading (Value.unary ·.store .not value)) >>= Eval.answer id := by
    rw [bind_assoc]
    rfl
  rw [turned, Eval.goesRound, Eval.expr]
  have keeps (machine : Machine) : Regime.latch.Obeys
      (Eval.expr (bodyWithin budget) budget condition >>= fun value =>
        Eval.reading (Value.unary ·.store .not value)) machine :=
    (Regime.latch_exprWithin budget condition machine).andThen fun _ _ ready _ =>
      Regime.Obeys.reading ready
  refine bind keeps (located_right ?_) (answer id)
  exact after_expr condition fun value => reading fun _ _ => rfl

/-- A body that comes first a number of times, and what agrees behind it. -/
theorem repeatBody_followedBy {rest rest' : Eval Flow} (h : Agree rest rest') (count : Nat)
    (body : List Stmt) :
    Agree ((Eval.repeatBody (Eval.block (bodyWithin budget) budget body) count).followedBy rest)
      ((Eval.repeatBody (Eval.block (bodyWithin budget) budget body) count).followedBy rest') := by
  have bodies (machine : Machine) :
      Regime.latch.Obeys (Eval.block (bodyWithin budget) budget body) machine :=
    Regime.latch_bodyWithin (budget + 1) body machine
  have keeps (machine : Machine) : Regime.latch.Obeys
      (Eval.repeatBody (Eval.block (bodyWithin budget) budget body) count) machine :=
    Regime.repeatBody (fun _ _ => bodies _) count trivial rfl
  exact unlessLeaves keeps (repeatBody bodies (block budget body) count) (fun _ => rfl)
    (fun _ => rfl) fun _ => h

/-- Loops over one body agree if their tests do. -/
theorem loopWhile_block {test test' : Eval Bool} (tests : Agree test test')
    (keeps : ∀ machine, Regime.latch.Obeys test machine) (body : List Stmt) :
    Agree (Eval.loopWhile test (Eval.block (bodyWithin budget) budget body) budget)
      (Eval.loopWhile test' (Eval.block (bodyWithin budget) budget body) budget) :=
  loopWhile (Regime.latch_bodyWithin (budget + 1) body) (block budget body) tests keeps budget

/-- A loop with a negated condition is a loop with the negation as its condition. -/
theorem untilLoop (span span' place : Span) (condition : Expr) (count : Nat) (body : List Stmt) :
    Agree (stmtWithin budget (.untilLoop span condition count body))
      (stmtWithin budget (.whileLoop span' (.unary place .not condition) count body)) := by
  unfold stmtWithin
  rw [stmt_untilLoop, stmt_whileLoop]
  refine located (repeatBody_followedBy ?_ count body)
  exact loopWhile_block (goesRound_not place condition) (Regime.latch_goesRound not condition)
    body

/-- A body that comes first a number of times may stand before the loop. -/
theorem whileLoop (span span' : Span) (condition : Expr) (count : Nat) (body : List Stmt) :
    Agree (stmtWithin budget (.whileLoop span condition count body))
      (bodyWithin (budget + 1)
        ((List.replicate count body).flatten ++ [.whileLoop span' condition 0 body])) := by
  unfold stmtWithin
  rw [stmt_whileLoop, bodyWithin, block_append, block_replicate, block_whileLoop]
  refine located_left (repeatBody_followedBy (located_right ?_) count body)
  exact loopWhile_block (goesRound id condition) (Regime.latch_goesRound id condition) body

/-- A counting loop is its first statement and a loop whose body the step closes. -/
theorem forLoop {first step : Stmt} (simpleFirst : first.isSimple = true)
    (simpleStep : step.isSimple = true) (span span' : Span) (condition : Expr)
    (body : List Stmt) :
    Agree (stmtWithin budget (.forLoop span first condition step body))
      (bodyWithin (budget + 1) [first, .whileLoop span' condition 0 (body ++ [step])]) := by
  unfold stmtWithin
  rw [stmt_forLoop simpleStep, bodyWithin, block_cons,
    followedBy_of_stays (FlowsAs.stays_of_isSimple simpleFirst), block_whileLoop]
  refine located_left ?_
  refine bind (Regime.latch_stmtWithin budget first) (of_forgets (.stmt first))
    fun _ => located_right ?_
  have keeps (machine : Machine) : Regime.latch.Obeys
      (Eval.expr (bodyWithin budget) budget condition >>= Eval.truthy) machine :=
    (Regime.latch_exprWithin budget condition machine).andThen fun _ _ _ _ => rfl
  exact loopWhile_block (goesRound_id condition) keeps (body ++ [step])

end Agree

/-! ## Assignments with an operator -/

namespace Eval

variable {run : Runner} {rounds : Nat} {machine : Machine} {name : String}

/-- What an operator gives for a value and an operand. -/
def operate (run : Runner) (rounds : Nat) (op : BinaryOp) (operand : Expr) (old : Value) :
    Eval Value := do
  let value ← expr run rounds operand
  alloc (Value.binary op old value)

/-- An assignment in terms of what is put. -/
theorem stmt_assignment (span : Span) (name : String) (value : Expr) :
    stmt run rounds (.assignment span name value) =
      located span (.next .void) (expr run rounds value >>= put name) := by
  rw [stmt]
  rfl

/-- An assignment with an operator in terms of what is put. -/
theorem stmt_compound (span : Span) (name : String) (op : BinaryOp) (operand : Expr) :
    stmt run rounds (.compound span name op operand) = located span (.next .void)
      (lookup name >>= fun old => operate run rounds op operand old >>= put name) := by
  simp only [stmt, operate, bind_assoc]
  rfl

/-- The operand forgets where the machine was. -/
theorem operate_forgets (op : BinaryOp) (operand : Expr) (old : Value) :
    (operate run rounds op operand old).Forgets :=
  (Forgets.expr operand).bind _

/-- The value of a variable is read off the scopes. -/
theorem lookup_eq : lookup name machine =
    match machine.scopes.lookup name with
    | .ok value => .ok value machine
    | .error fault => .error (.fault fault) machine := by
  change ofExcept (machine.scopes.lookup name) machine = _
  cases machine.scopes.lookup name with
  | ok value => rfl
  | error fault => rfl

/-- A variable as an expression. -/
theorem expr_var (running : machine.running = true) (span : Span) :
    expr run rounds (.var span name) machine =
      match machine.scopes.lookup name with
      | .ok value => .ok value (movedTo machine span)
      | .error fault => .error (.fault (fault.orAt span)) (movedTo machine span) := by
  rw [expr, located_of_running running, blaming, lookup_eq, movedTo_scopes]
  cases machine.scopes.lookup name with
  | ok value => rfl
  | error fault => rfl

/-- An operator on a variable as an expression. -/
theorem expr_binary_var (running : machine.running = true) (span place : Span) (op : BinaryOp)
    (operand : Expr) :
    expr run rounds (.binary span op (.var place name) operand) machine =
      match machine.scopes.lookup name with
      | .ok old => blaming span (operate run rounds op operand old) machine
      | .error fault =>
        .error (.fault ((fault.orAt place).orAt span)) (movedTo machine place) := by
  have opened : expr run rounds (.binary span op (.var place name) operand) machine =
      blaming span (expr run rounds (.var place name) >>= operate run rounds op operand)
        (movedTo machine span) := located_of_running running
  have still : (movedTo machine span).running = true := running
  rw [opened]
  simp only [blaming, Bind.bind, EStateM.bind, expr_var still, movedTo_scopes]
  cases machine.scopes.lookup name with
  | error fault => rfl
  | ok old =>
    -- The machine comes from the variable, which the operand forgets.
    have ended : operate run rounds op operand old (movedTo machine place) =
        operate run rounds op operand old machine :=
      operate_forgets op operand old machine running place
    simp only [← ended]
    rfl

end Eval

/-- **An assignment with an operator is an assignment of what the operator gives.** What the watches
remember of the place of the machine is the same, because the operand is evaluated last. -/
theorem Agree.compound {budget : Nat} (span span' place place' : Span) (name : String)
    (op : BinaryOp) (operand : Expr) :
    Agree (stmtWithin budget (.compound span name op operand))
      (stmtWithin budget
        (.assignment span' name (.binary place op (.var place' name) operand))) := by
  intro machine elsewhere running
  have still (span : Span) : (movedTo machine span).running = true := running
  unfold stmtWithin
  rw [stmt_compound, stmt_assignment, located_of_running running,
    located_of_running (still elsewhere), movedTo_movedTo]
  refine EndsAlike.blaming ?_ span span'
  cases found : machine.scopes.lookup name with
  | error fault =>
    simp only [Bind.bind, EStateM.bind, lookup_eq, expr_binary_var (still span'), movedTo_scopes,
      found]
    exact .fault ((fault.alike_orAt place').trans (Fault.alike_orAt _ place)) ⟨place', rfl⟩
  | ok old =>
    have forgets : (operate (bodyWithin budget) budget op operand old).Forgets :=
      operate_forgets op operand old
    have left : (lookup name >>= fun old =>
        operate (bodyWithin budget) budget op operand old >>= put name) (movedTo machine span) =
        (operate (bodyWithin budget) budget op operand old >>= put name) machine := by
      rw [← forgets.bind (put name) machine running span]
      simp only [Bind.bind, EStateM.bind, lookup_eq, movedTo_scopes, found]
    have right : (expr (bodyWithin budget) budget (.binary place op (.var place' name) operand) >>=
        put name) (movedTo machine span') =
        (blaming place (operate (bodyWithin budget) budget op operand old) >>= put name)
          machine := by
      simp only [Bind.bind, EStateM.bind, expr_binary_var (still span'), movedTo_scopes, found,
        blaming, forgets machine running span']
    rw [left, right]
    exact .blaming_bind _ _ place

/-- What agrees on machines that are running, and does nothing on others, ends alike everywhere. -/
theorem Agree.everywhere {form expansion : Eval Flow} (h : Agree form expansion)
    (idle : ∀ {machine : Machine}, machine.running = false →
      form machine = .ok (.next .void) machine)
    (idle' : ∀ {machine : Machine}, machine.running = false →
      expansion machine = .ok (.next .void) machine) (machine : Machine) :
    EndsAlike (form machine) (expansion machine) := by
  cases running : machine.running with
  | true => exact h machine machine.context.current running
  | false =>
    rw [idle running, idle' running]
    exact .refl _

/-- **Derived forms mean what they abbreviate**, on every machine and wherever the parts stand in
the source. Within every budget both sides are cut off, or both end with the same flow or with
faults of one kind and wording, on machines that differ in the current place at most; so one side
goes on for ever if the other does.

* A loop until a condition holds is a loop while its negation does.
* A loop whose body comes first a number of times is that many bodies and the loop.
* A counting loop is its first statement and a loop whose body is closed by the step, both of them
  simple statements.
* An assignment with an operator assigns what the operator gives for the variable. -/
theorem derived_forms (budget : Nat) (machine : Machine) (span span' place place' : Span)
    (condition : Expr) (count : Nat) (body : List Stmt) (first step : Stmt) (name : String)
    (op : BinaryOp) (operand : Expr) :
    EndsAlike (stmtWithin budget (.untilLoop span condition count body) machine)
      (stmtWithin budget (.whileLoop span' (.unary place .not condition) count body) machine) ∧
    EndsAlike (stmtWithin budget (.whileLoop span condition count body) machine)
      (bodyWithin (budget + 1) ((List.replicate count body).flatten ++
        [.whileLoop span' condition 0 body]) machine) ∧
    (first.isSimple = true → step.isSimple = true →
      EndsAlike (stmtWithin budget (.forLoop span first condition step body) machine)
        (bodyWithin (budget + 1) [first, .whileLoop span' condition 0 (body ++ [step])]
          machine)) ∧
    EndsAlike (stmtWithin budget (.compound span name op operand) machine)
      (stmtWithin budget (.assignment span' name (.binary place op (.var place' name) operand))
        machine) := by
  have idle (statement : Stmt) {machine : Machine} (stopped : machine.running = false) :
      stmtWithin budget statement machine = .ok (.next .void) machine :=
    stmt_of_stopped stopped statement
  have idleBody (statements : List Stmt) {machine : Machine} (stopped : machine.running = false) :
      bodyWithin (budget + 1) statements machine = .ok (.next .void) machine :=
    block_of_stopped stopped statements
  refine ⟨?_, ?_, ?_, ?_⟩
  · exact (Agree.untilLoop span span' place condition count body).everywhere (idle _) (idle _) _
  · exact (Agree.whileLoop span span' condition count body).everywhere (idle _) (idleBody _) _
  · intro simpleFirst simpleStep
    exact (Agree.forLoop simpleFirst simpleStep span span' condition body).everywhere (idle _)
      (idleBody _) _
  · exact (Agree.compound span span' place place' name op operand).everywhere (idle _) (idle _) _

/-- The first statement of a counting loop. -/
def startCount : Stmt := .declaration (.at 1 6) .int "i" (some (.literal (.at 1 14) (.int 0)))

/-- The condition of a counting loop. -/
def countsOn : Expr :=
  .comparison (.at 1 17) .less (.var (.at 1 17) "i") (.literal (.at 1 21) (.int 5))

/-- The step of a counting loop. -/
def countUp : Stmt := .compound (.at 1 24) "i" .add (.literal (.at 1 29) (.int 1))

/-- The body of a counting loop. -/
def doubleCount : Stmt := .compound (.at 2 3) "i" .add (.var (.at 2 8) "i")

/-- A counting loop comes to its end, and does what its expansion does. -/
theorem countingLoop_expands :
    (match stmtWithin 4 (.forLoop (.at 1 1) startCount countsOn countUp [doubleCount])
        (.initial .standard .bare) with
      | .ok (.next _) _ => true
      | _ => false) = true ∧
    EndsAlike
      (stmtWithin 4 (.forLoop (.at 1 1) startCount countsOn countUp [doubleCount])
        (.initial .standard .bare))
      (bodyWithin 5 [startCount, .whileLoop (.at 2 1) countsOn 0 [doubleCount, countUp]]
        (.initial .standard .bare)) :=
  ⟨by decide +kernel,
    (derived_forms 4 (.initial .standard .bare) (.at 1 1) (.at 2 1) .unknown .unknown countsOn 0
      [doubleCount] startCount countUp "i" .add countsOn).2.2.1 rfl rfl⟩

end ReactiveScript
