import ReactiveScript.Machine.Run
import ReactiveScript.Proofs.Blame.Node
import ReactiveScript.Proofs.Evaluation.Effect

/-! # Plans

At a node of a program other nodes are evaluated. An evaluation is a function, which does not show
them; a plan does. It is put together in the same way, but the evaluation of a node, the run of a
body and the run of a handler stand in it as what they are (`Plan`). Every node has a plan
(`Expr.plan`, `Stmt.plan`), and evaluating the node is carrying out its plan at the place of the
node (`Eval.exprWithin_eq`, `Eval.stmtWithin_eq`); running a body is carrying out the plan of its
statements within a smaller budget (`Eval.bodyWithin_succ`). -/

namespace ReactiveScript

/-- **What an evaluation is put together from.** -/
inductive Plan : Type → Type 1 where
  /-- Something is done for which no node is evaluated. -/
  | plain {α : Type} (action : Eval α) : Plan α
  /-- One plan is carried out after the other. -/
  | andThen {α β : Type} (first : Plan α) (next : α → Plan β) : Plan β
  /-- The machine is changed, and changed once more when the plan has been carried out: that
  depends on how it ended. -/
  | enclosed {α : Type} (before : Machine → Machine) (after : Option Stop → Machine → Machine)
      (inside : Plan α) : Plan α
  /-- An expression is evaluated. -/
  | expr (expression : Expr) : Plan Value
  /-- A statement is executed. -/
  | stmt (statement : Stmt) : Plan Flow
  /-- The label of a case is evaluated, and the case is blamed for its faults. -/
  | label (chosen : Case Stmt) : Plan Value
  /-- A body is run. -/
  | body (statements : List Stmt) : Plan Flow
  /-- A handler is run. -/
  | handler (pending : Pending) : Plan Unit

namespace Plan

instance : Monad Plan where
  pure value := .plain (pure value)
  bind := .andThen

instance : MonadLift Eval Plan where
  monadLift := .plain

/-- **What is done when a plan is carried out** within a budget. -/
def toEval {α : Type} (budget : Nat) : Plan α → Eval α
  | .plain action => action
  | .andThen first next => first.toEval budget >>= fun value => (next value).toEval budget
  | .enclosed before after inside => fun machine =>
    match inside.toEval budget (before machine) with
    | .ok value final => .ok value (after none final)
    | .error stop final => .error stop (after (some stop) final)
  | .expr expression => Eval.exprWithin budget expression
  | .stmt statement => Eval.stmtWithin budget statement
  | .label chosen => Eval.blaming chosen.span (Eval.exprWithin budget chosen.label)
  | .body statements => Eval.bodyWithin budget statements
  | .handler pending => Eval.runHandler (Eval.bodyWithin budget) pending

/-- A plan of which it is noted if it is cut off. -/
def returning {α : Type} (inside : Plan α) : Plan α :=
  enclosed id (fun
    | some .exhausted => Machine.hang
    | _ => id) inside

/-- A plan whose fault stops the machine. -/
def halting {α : Type} (inside : Plan α) : Plan α :=
  enclosed id (fun
    | some (.fault _) => ({ · with running := false })
    | _ => id) inside

/-! ## Calls -/

/-- A function is called on some values. -/
def invoke (name : String) (function : Function) (arguments : List Value) : Plan Value := do
  let machine ← get
  if machine.config.maxCallDepth ≤ machine.context.callDepth then
    Eval.fail (.callDepth machine.config.maxCallDepth name)
  else
    let flow ← enclosed (·.enter function) (fun _ => (·.leave machine.context name function)) do
      Eval.bindParams function.params arguments
      body function.body
    match flow with
    | .leave value => Eval.alloc (value.coerce function.returns)
    | .next _ => return .void

/-- The handlers in line are run, and those that they start. -/
def settle : Nat → Plan Unit
  | 0 => do
    unless (← get).pending.isEmpty do Eval.exhausted
  | rounds + 1 => do
    match (← get).pending with
    | [] => pure ()
    | first :: rest =>
      modify ({ · with pending := rest })
      handler first
      settle rounds

/-- A built-in function is called. -/
def native (rounds : Nat) (function : Native) (call : Call) : Plan Value :=
  returning <|
    match function with
    | .settle => do
      settle rounds
      return .void
    | other => Eval.native Eval.exhausted other call

/-! ## Parts in order -/

/-- Expressions are evaluated in order. -/
def exprs : List Expr → Plan (List Value)
  | [] => return []
  | first :: rest => do
    let value ← expr first
    let values ← exprs rest
    return value :: values

/-- The entries of a dictionary after some more are evaluated and set in order. -/
def entryExprs (before : List (Value × Value)) : List (Expr × Expr) → Plan (List (Value × Value))
  | [] => return before
  | (key, value) :: rest => do
    let keyValue ← expr key
    let entryValue ← expr value
    let set ← Eval.looking fun store => ended (store.setEntry none keyValue entryValue before)
    entryExprs set rest

/-- A variable is given a value, and the watches are told. -/
def put (name : String) (value : Value) : Plan Flow := do
  let stored ← Eval.assign name value
  Eval.afterAssignment name stored
  return .next .void

/-- Statements are executed in order until one leaves. -/
def block : List Stmt → Plan Flow
  | [] => return .next .void
  | first :: rest => do
    match ← stmt first with
    | .leave value => return .leave value
    | .next _ => block rest

/-- The first case whose label is the same as a value is executed, if there is one. -/
def choose (subject : Value) : List (Case Stmt) → Plan (Option Flow)
  | [] => return none
  | chosen :: rest => do
    Eval.moveTo chosen.span
    let candidate ← label chosen
    if ← Eval.looking (fun store => ended (store.same subject candidate)) then
      return some (← block chosen.body)
    else choose subject rest

/-- The statements of a program are executed; the value is that of the last one, or that which the
program leaves with, or the value of what came before if there is none. -/
def topLevel (last : Value) : List Stmt → Plan Value
  | [] => return last
  | first :: rest => do
    match ← stmt first with
    | .next value => topLevel value rest
    | .leave value => return value

/-- **The plan of a source text.** -/
def source (text : String) : Plan Value :=
  halting <|
    match readProgram text with
    | .ok statements => topLevel .void statements
    | .error fault => (throw (.fault fault) : Eval Value)

/-! ## Loops -/

/-- A body is run as long as a test holds. -/
def loopWhile (test : Plan Bool) (body : Plan Flow) : Nat → Plan Flow
  | 0 => Eval.exhausted
  | rounds + 1 => do
    if ← test then
      match ← body with
      | .leave value => return .leave value
      | .next _ => loopWhile test body rounds
    else return .next .void

/-- A body is run a number of times, unless it leaves. -/
def repeatBody (body : Plan Flow) : Nat → Plan Flow
  | 0 => return .next .void
  | count + 1 => do
    match ← body with
    | .leave value => return .leave value
    | .next _ => repeatBody body count

/-- A body is run once for each of some values, which a variable is declared with. -/
def forEach (declare : Value → Eval Unit) (body : Plan Flow) : List Value → Plan Flow
  | [] => return .next .void
  | item :: items => do
    declare item
    match ← body with
    | .leave value => return .leave value
    | .next _ => forEach declare body items

end Plan

/-! ## Nodes -/

/-- **The plan of an expression.** -/
def Expr.plan (budget : Nat) : Expr → Plan Value
  | .literal _ value => return value.value
  | .var _ name => Eval.lookup name
  | .binary _ op left right => do
    let leftValue ← .expr left
    let rightValue ← .expr right
    Eval.alloc (Value.binary op leftValue rightValue)
  | .logical _ op left right => do
    let leftValue ← .expr left
    let rightValue ← .expr right
    Eval.ofExcept (Value.logical op leftValue rightValue)
  | .comparison _ op left right => do
    let leftValue ← .expr left
    let rightValue ← .expr right
    return .boolean (← Eval.looking (Value.compareValues · op leftValue rightValue))
  | .unary _ op operand => do
    let value ← .expr operand
    Eval.reading (Value.unary ·.store op value)
  | .cast _ target operand => do
    let value ← .expr operand
    Eval.alloc (Value.cast target value)
  | .call _ name arguments => do
    let machine ← get
    let resolved := machine.resolve name
    match machine.natives.find? resolved with
    | some function => do
      let values ← .exprs arguments
      .native budget function ⟨resolved, values⟩
    | none =>
      match machine.functions.find? resolved with
      | some function => do
        let values ← .exprs arguments
        .invoke resolved function values
      | none => Eval.fail (.undefinedFunction resolved)
  | .range _ first last none inclusive => do
    let start ← Eval.rangeBound "start" (← .expr first)
    let bound ← Eval.rangeBound "end" (← .expr last)
    Eval.alloc (Alloc.range start bound 1 inclusive)
  | .range _ first last (some step) inclusive => do
    let start ← Eval.rangeBound "start" (← .expr first)
    let bound ← Eval.rangeBound "end" (← .expr last)
    let size ← Eval.rangeBound "step" (← .expr step)
    Eval.alloc (Alloc.range start bound size inclusive)
  | .list _ items => do
    let values ← .exprs items
    Eval.alloc (Alloc.newList .any values)
  | .dict _ entries => do
    let values ← .entryExprs [] entries
    Eval.alloc (Alloc.newDict .any .any values)
  | .index _ target position => do
    let container ← .expr target
    let index ← .expr position
    Eval.alloc (Alloc.index container index)

/-- **The plan of a statement.** -/
def Stmt.plan (budget : Nat) : Stmt → Plan Flow
  | .expression _ value => return .next (← .expr value)
  | .declaration _ type name none => do
    let value ← Eval.alloc (Value.zeroOf type)
    discard <| Eval.declare name value type
    return .next .void
  | .declaration _ type name (some value) => do
    let initial ← .expr value
    discard <| Eval.declare name initial type
    return .next .void
  | .assignment _ name value => do .put name (← .expr value)
  | .compound _ name op value => do
    let old ← Eval.lookup name
    let operand ← .expr value
    .put name (← Eval.alloc (Value.binary op old operand))
  | .element _ target position value => do
    let container ← .expr target
    let index ← .expr position
    let assigned ← .expr value
    Eval.setElement container index assigned
    return .next .void
  | .function span returns name params body => do
    Eval.define ⟨name, returns, params, body, span, none⟩
    return .next .void
  | .leave _ none => return .leave .void
  | .leave _ (some value) => return .leave (← .expr value)
  | .raise _ value => do
    let thrown ← .expr value
    Eval.fail (.thrown (← Eval.render thrown))
  | .load _ path label => do
    Eval.load path label
    return .next .void
  | .branch _ condition thenBody elseBody => do
    if ← Eval.truthy (← .expr condition) then .block thenBody
    else .block (elseBody.getD [])
  | .whileLoop _ condition preroll body => do
    match ← .repeatBody (.block body) preroll with
    | .leave value => return .leave value
    | .next _ =>
      let test : Plan Bool := do
        let holds ← Eval.truthy (← .expr condition)
        return holds && (← get).running
      .loopWhile test (.block body) budget
  | .untilLoop _ condition preroll body => do
    match ← .repeatBody (.block body) preroll with
    | .leave value => return .leave value
    | .next _ =>
      let test : Plan Bool := do
        let holds ← Eval.truthy (← .expr condition)
        return !holds && (← get).running
      .loopWhile test (.block body) budget
  | .forLoop _ first condition step body => do
    discard <| .stmt first
    let test : Plan Bool := do Eval.truthy (← .expr condition)
    let round : Plan Flow := do
      match ← .block body with
      | .leave value => return .leave value
      | .next _ =>
        discard <| .stmt step
        return .next .void
    .loopWhile test round budget
  | .forEach _ type name iterable body => do
    let items ← Eval.itemsOf (← .expr iterable)
    .forEach (fun item => discard <| Eval.declare name item type) (.block body) items
  | .choice _ subject cases fallback => do
    match ← .choose (← .expr subject) cases with
    | some flow => return flow
    | none => .block (fallback.getD [])
  | .signal _ name => do
    Eval.declareSignal name
    return .next .void
  | .emit _ name => do
    Eval.emit name
    return .next .void
  | .when _ name body => do
    Eval.attachHandler name body
    return .next .void
  | .watch _ name body => do
    Eval.registerWatch name body
    return .next .void

namespace Plan

variable {α β : Type} (budget : Nat)

/-! ## What carrying out comes to -/

/-- Two plans in a row are two evaluations in a row. -/
theorem toEval_bind {first : Plan α} {next : α → Plan β} {action : Eval α} {follow : α → Eval β}
    (here : first.toEval budget = action)
    (rest : ∀ value, (next value).toEval budget = follow value) :
    (first >>= next).toEval budget = action >>= follow := by
  subst here
  exact congrArg (first.toEval budget >>= ·) (funext rest)

/-- Something that is done at once, and then a plan. -/
theorem toEval_lift {action : Eval α} {next : α → Plan β} {follow : α → Eval β}
    (rest : ∀ value, (next value).toEval budget = follow value) :
    (liftM action >>= next : Plan β).toEval budget = action >>= follow :=
  toEval_bind budget rfl rest

/-- A call of a function. -/
theorem toEval_invoke (name : String) (function : Function) (arguments : List Value) :
    (invoke name function arguments).toEval budget =
      Eval.invoke (Eval.bodyWithin budget) name function arguments := by
  rw [invoke, Eval.invoke]
  refine toEval_lift budget fun machine => ?_
  split
  · rfl
  · refine toEval_bind budget rfl fun flow => ?_
    cases flow <;> rfl

/-- The handlers in line. -/
theorem toEval_settle (rounds : Nat) :
    (settle rounds).toEval budget = Eval.settle (Eval.bodyWithin budget) rounds := by
  induction rounds with
  | zero =>
    rw [settle, Eval.settle]
    refine toEval_lift budget fun machine => ?_
    cases machine.pending.isEmpty <;> rfl
  | succ rounds ih =>
    rw [settle, Eval.settle]
    refine toEval_lift budget fun machine => ?_
    cases machine.pending with
    | nil => rfl
    | cons first rest => exact toEval_lift budget fun _ => toEval_bind budget rfl fun _ => ih

/-- A plan of which it is noted if it is cut off. -/
theorem toEval_returning (inside : Plan α) :
    (returning inside).toEval budget = Eval.returning (inside.toEval budget) := by
  funext machine
  simp only [returning, toEval, Eval.returning, id_eq]
  cases inside.toEval budget machine with
  | ok value final => rfl
  | error stop final => cases stop <;> rfl

/-- A plan whose fault stops the machine. -/
theorem toEval_halting (inside : Plan α) :
    (halting inside).toEval budget = Eval.halting (inside.toEval budget) := by
  funext machine
  simp only [halting, toEval, Eval.halting, id_eq]
  cases inside.toEval budget machine with
  | ok value final => rfl
  | error stop final => cases stop <;> rfl

/-- A call of a built-in function. -/
theorem toEval_native (rounds : Nat) (function : Native) (call : Call) :
    (native rounds function call).toEval budget =
      Eval.returning (Eval.native (Eval.settle (Eval.bodyWithin budget) rounds) function call) := by
  refine (toEval_returning budget _).trans (congrArg _ ?_)
  cases function with
  | settle => exact toEval_bind budget (toEval_settle budget rounds) fun _ => rfl
  | _ => rfl

/-- Expressions in order. -/
theorem toEval_exprs (expressions : List Expr) :
    (exprs expressions).toEval budget =
      Eval.exprs (Eval.bodyWithin budget) budget expressions := by
  induction expressions with
  | nil =>
    rw [Eval.exprs]
    rfl
  | cons first rest ih =>
    rw [exprs, Eval.exprs]
    exact toEval_bind budget rfl fun _ => toEval_bind budget ih fun _ => rfl

/-- The entries of a dictionary. -/
theorem toEval_entryExprs (before : List (Value × Value)) (entries : List (Expr × Expr)) :
    (entryExprs before entries).toEval budget =
      Eval.entryExprs (Eval.bodyWithin budget) budget before entries := by
  induction entries generalizing before with
  | nil =>
    rw [Eval.entryExprs]
    rfl
  | cons entry rest ih =>
    rw [entryExprs, Eval.entryExprs]
    refine toEval_bind budget rfl fun key => toEval_bind budget rfl fun value => ?_
    exact toEval_lift budget fun set => ih set

/-- Statements in order. -/
theorem toEval_block (statements : List Stmt) :
    (block statements).toEval budget =
      Eval.block (Eval.bodyWithin budget) budget statements := by
  induction statements with
  | nil =>
    rw [Eval.block]
    rfl
  | cons first rest ih =>
    rw [block, Eval.block]
    refine toEval_bind budget rfl fun flow => ?_
    cases flow with
    | leave value => rfl
    | next value => exact ih

/-- The cases of a choice. -/
theorem toEval_choose (subject : Value) (cases : List (Case Stmt)) :
    (choose subject cases).toEval budget =
      Eval.choose (Eval.bodyWithin budget) budget subject cases := by
  induction cases with
  | nil =>
    rw [Eval.choose]
    rfl
  | cons chosen rest ih =>
    rw [choose, Eval.choose]
    refine toEval_lift budget fun _ => toEval_bind budget rfl fun candidate => ?_
    refine toEval_lift budget fun same => ?_
    cases same with
    | true => exact toEval_bind budget (toEval_block budget _) fun _ => rfl
    | false => exact ih

/-- The statements of a program. -/
theorem toEval_topLevel (last : Value) (statements : List Stmt) :
    (topLevel last statements).toEval budget = Eval.topLevel budget last statements := by
  induction statements generalizing last with
  | nil => rfl
  | cons first rest ih =>
    rw [topLevel, Eval.topLevel]
    refine toEval_bind budget rfl fun flow => ?_
    cases flow with
    | leave value => rfl
    | next value => exact ih value

/-- **Running a source text is carrying out its plan.** -/
theorem toEval_source (text : String) :
    (source text).toEval budget = Eval.source budget text := by
  refine (toEval_halting budget _).trans ?_
  unfold Eval.source
  cases readProgram text with
  | ok statements => exact congrArg _ (toEval_topLevel budget .void statements)
  | error fault => rfl

/-- A loop with a condition. -/
theorem toEval_loopWhile (test : Plan Bool) (body : Plan Flow) (rounds : Nat) :
    (loopWhile test body rounds).toEval budget =
      Eval.loopWhile (test.toEval budget) (body.toEval budget) rounds := by
  induction rounds with
  | zero => rfl
  | succ rounds ih =>
    rw [loopWhile, Eval.loopWhile]
    refine toEval_bind budget rfl fun holds => ?_
    cases holds with
    | false => rfl
    | true =>
      refine toEval_bind budget rfl fun flow => ?_
      cases flow with
      | leave value => rfl
      | next value => exact ih

/-- A loop that runs its body a number of times. -/
theorem toEval_repeatBody (body : Plan Flow) (count : Nat) :
    (repeatBody body count).toEval budget = Eval.repeatBody (body.toEval budget) count := by
  induction count with
  | zero => rfl
  | succ count ih =>
    rw [repeatBody, Eval.repeatBody]
    refine toEval_bind budget rfl fun flow => ?_
    cases flow with
    | leave value => rfl
    | next value => exact ih

/-- A loop over values. -/
theorem toEval_forEach (declare : Value → Eval Unit) (body : Plan Flow) (items : List Value) :
    (forEach declare body items).toEval budget =
      Eval.forEach declare (body.toEval budget) items := by
  induction items with
  | nil => rfl
  | cons item items ih =>
    rw [forEach, Eval.forEach]
    refine toEval_lift budget fun _ => toEval_bind budget rfl fun flow => ?_
    cases flow with
    | leave value => rfl
    | next value => exact ih

/-- A choice, with what stands for it if nothing is chosen. -/
theorem toEval_choice (subject : Value) (cases : List (Case Stmt)) {fallback : Plan Flow}
    {follow : Option Flow → Eval Flow} (chosen : ∀ flow, follow (some flow) = pure flow)
    (otherwise : fallback.toEval budget = follow none) :
    (do
      match ← choose subject cases with
      | some flow => return flow
      | none => fallback : Plan Flow).toEval budget =
      Eval.choose (Eval.bodyWithin budget) budget subject cases >>= follow := by
  refine toEval_bind budget (toEval_choose budget subject cases) fun found => ?_
  cases found with
  | some flow => exact (chosen flow).symm
  | none => exact otherwise

end Plan

namespace Eval

/-- **Evaluating an expression is carrying out its plan** at its place. -/
theorem exprWithin_eq (budget : Nat) (expression : Expr) :
    exprWithin budget expression =
      located expression.span .void ((expression.plan budget).toEval budget) := by
  unfold exprWithin
  cases expression with
  | call span name arguments =>
    rw [expr, Expr.plan, Expr.span]
    refine congrArg _ (Eq.symm (Plan.toEval_lift budget fun machine => ?_))
    dsimp only
    cases machine.natives.find? (machine.resolve name) with
    | some function =>
      refine Plan.toEval_bind budget (Plan.toEval_exprs budget _) fun values => ?_
      exact Plan.toEval_native budget budget function _
    | none =>
      cases machine.functions.find? (machine.resolve name) with
      | some function =>
        refine Plan.toEval_bind budget (Plan.toEval_exprs budget _) fun values => ?_
        exact Plan.toEval_invoke budget _ function values
      | none => rfl
  | range span first last step inclusive => cases step <;> rw [expr] <;> rfl
  | list span items =>
    rw [expr, ← Plan.toEval_exprs]
    rfl
  | dict span entries =>
    rw [expr, ← Plan.toEval_entryExprs]
    rfl
  | _ => rw [expr]; rfl

/-- **Executing a statement is carrying out its plan** at its place. -/
theorem stmtWithin_eq (budget : Nat) (statement : Stmt) :
    stmtWithin budget statement =
      located statement.span (.next .void) ((statement.plan budget).toEval budget) := by
  unfold stmtWithin
  cases statement with
  | declaration span type name value => cases value <;> rw [stmt] <;> rfl
  | leave span value => cases value <;> rw [stmt] <;> rfl
  | branch span condition thenBody elseBody =>
    cases elseBody with
    | none =>
      rw [stmt, Stmt.plan, Stmt.span]
      refine congrArg _ (Eq.symm ?_)
      refine Plan.toEval_bind budget rfl fun value => Plan.toEval_lift budget fun holds => ?_
      cases holds with
      | true => exact Plan.toEval_block budget thenBody
      | false => rfl
    | some elseBody =>
      rw [stmt, Stmt.plan, Stmt.span]
      refine congrArg _ (Eq.symm ?_)
      refine Plan.toEval_bind budget rfl fun value => Plan.toEval_lift budget fun holds => ?_
      cases holds with
      | true => exact Plan.toEval_block budget thenBody
      | false => exact Plan.toEval_block budget elseBody
  | whileLoop span condition preroll body | untilLoop span condition preroll body =>
    -- The two loops differ in the test alone.
    rw [stmt, Stmt.plan, Stmt.span, ← Plan.toEval_block]
    refine congrArg _ (Eq.symm ?_)
    refine Plan.toEval_bind budget (Plan.toEval_repeatBody budget _ _) fun flow => ?_
    cases flow with
    | leave value => rfl
    | next value => exact Plan.toEval_loopWhile budget _ _ _
  | forLoop span first condition step body =>
    rw [stmt, Stmt.plan, Stmt.span]
    refine congrArg _ (Eq.symm ?_)
    refine Plan.toEval_bind budget rfl fun _ => ?_
    refine (Plan.toEval_loopWhile budget _ _ _).trans (congrArg (loopWhile _ · budget) ?_)
    refine Plan.toEval_bind budget (Plan.toEval_block budget body) fun flow => ?_
    cases flow <;> rfl
  | forEach span type name iterable body =>
    rw [stmt, Stmt.plan, Stmt.span, ← Plan.toEval_block]
    refine congrArg _ (Eq.symm ?_)
    refine Plan.toEval_bind budget rfl fun value => Plan.toEval_lift budget fun items => ?_
    exact Plan.toEval_forEach budget _ _ items
  | choice span subject cases fallback =>
    cases fallback with
    | none =>
      -- Instead of nothing the plan carries out no statements.
      rw [stmt, Stmt.plan, Stmt.span]
      refine congrArg _ (Eq.symm ?_)
      refine Plan.toEval_bind budget rfl fun value => ?_
      have nothing : (Plan.block []).toEval budget = pure (.next .void) := rfl
      exact Plan.toEval_choice budget value cases (fun _ => rfl) nothing
    | some body =>
      rw [stmt, Stmt.plan, Stmt.span]
      refine congrArg _ (Eq.symm ?_)
      refine Plan.toEval_bind budget rfl fun value => ?_
      exact Plan.toEval_choice budget value cases (fun _ => rfl) (Plan.toEval_block budget body)
  | _ => rw [stmt]; rfl

/-- **Running a body is carrying out the plan of its statements** within a smaller budget. -/
theorem bodyWithin_succ (budget : Nat) (statements : List Stmt) :
    bodyWithin (budget + 1) statements = (Plan.block statements).toEval budget :=
  (Plan.toEval_block budget statements).symm

end Eval

end ReactiveScript
