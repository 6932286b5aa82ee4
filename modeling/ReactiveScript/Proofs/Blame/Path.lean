import ReactiveScript.Proofs.Blame.Plan

/-! # The way of a fault

To carry out a plan is to come to other plans: to those that it is put together from, and where a
node of a program stands in it, to the plan of the node (`Enters`). No node is entered on the way
that is not listed. On the way out a fault passes through the nodes that were entered on the way in,
innermost first (`Passes`), and each of them is the place of the fault unless it has one. A
fault is raised without a place by something for which no node is evaluated (`Raises`), so the place
that it comes out with is that of the innermost node around that (`Passes.span_eq`). The nodes are
determined by what is carried out (`Passes.unique`). Handlers that are run keep their faults
(`Handles`). -/

namespace ReactiveScript

variable {α β γ : Type} {nodes around : List Node} {fault raised : Fault} {program : List Stmt}

/-- The fault after it passed through some nodes, innermost first. -/
def Fault.through (fault : Fault) (nodes : List Node) : Fault :=
  nodes.foldl (fun fault node => fault.orAt node.span) fault

/-- A fault that passes through some nodes and then through others passes through all. -/
theorem Fault.through_append (fault : Fault) (nodes around : List Node) :
    fault.through (nodes ++ around) = (fault.through nodes).through around :=
  List.foldl_append

/-- The last of the nodes is the outermost one. -/
theorem Fault.through_concat (fault : Fault) (nodes : List Node) (node : Node) :
    fault.through (nodes ++ [node]) = (fault.through nodes).orAt node.span :=
  fault.through_append nodes [node]

/-- A fault with a place keeps it. -/
theorem Fault.through_of_isKnown (known : fault.span.isKnown = true) (nodes : List Node) :
    fault.through nodes = fault := by
  induction nodes with
  | nil => rfl
  | cons node rest ih =>
    change (fault.orAt node.span).through rest = fault
    rw [Fault.orAt_of_isKnown known, ih]

/-- **A fault without a place gets that of the innermost node.** -/
theorem Fault.span_through {innermost : Node} (unplaced : raised.span = .unknown)
    (known : innermost.span.isKnown = true) (outer : List Node) :
    (raised.through (innermost :: outer)).span = innermost.span := by
  have placed : raised.orAt innermost.span = { raised with span := innermost.span } := by
    rw [Fault.orAt, unplaced]
    rfl
  change ((raised.orAt innermost.span).through outer).span = innermost.span
  rw [placed, Fault.through_of_isKnown known]

/-! ## Stages -/

/-- A plan that is carried out within a budget on a machine. -/
structure Stage (α : Type) where
  /-- The budget. -/
  budget : Nat
  /-- The plan. -/
  plan : Plan α
  /-- The machine. -/
  machine : Machine

namespace Stage

/-- How carrying out the plan ends. -/
def outcome (stage : Stage α) : EStateM.Result Stop Machine α :=
  stage.plan.toEval stage.budget stage.machine

/-- The machine when the plan has been carried out. -/
def after (stage : Stage α) : Machine :=
  (stage.machine.perform (stage.plan.toEval stage.budget)).machine

/-- The machine afterwards is the one that the outcome comes with. -/
theorem after_eq (stage : Stage α) :
    stage.after =
      match stage.outcome with
      | .ok _ final => final
      | .error _ final => final := by
  unfold after outcome Machine.perform
  cases stage.plan.toEval stage.budget stage.machine <;> rfl

/-! ### How stages fail -/

variable {budget : Nat} {machine after : Machine}

/-- What is left by a stage between changes of the machine. -/
theorem exists_after_enclosed (budget : Nat) (before : Machine → Machine)
    (undo : Option Stop → Machine → Machine) (plan : Plan α) (machine : Machine) :
    ∃ stop, (⟨budget, .enclosed before undo plan, machine⟩ : Stage α).after =
      undo stop (⟨budget, plan, before machine⟩ : Stage α).after := by
  simp only [after, Machine.perform, Plan.toEval]
  cases plan.toEval budget (before machine) with
  | ok value final => exact ⟨none, rfl⟩
  | error stop final => exact ⟨some stop, rfl⟩

/-- A stage between changes of the machine fails with what is between them. -/
theorem enclosed_fails {before : Machine → Machine} {undo : Option Stop → Machine → Machine}
    {plan : Plan α}
    (ended : (⟨budget, plan, before machine⟩ : Stage α).outcome = .error (.fault fault) after) :
    (⟨budget, .enclosed before undo plan, machine⟩ : Stage α).outcome =
      .error (.fault fault) (undo (some (.fault fault)) after) := by
  simp only [outcome, Plan.toEval] at ended ⊢
  rw [ended]

/-- An evaluation whose fault is blamed on a place. -/
theorem blaming_eq_error {action : Eval α} {span : Span}
    (ended : action machine = .error (.fault fault) after) :
    Eval.blaming span action machine = .error (.fault (fault.orAt span)) after := by
  unfold Eval.blaming
  rw [ended]

/-- An expression fails with its plan, and is blamed. -/
theorem expr_fails {expression : Expr} (running : machine.running = true)
    (ended : (⟨budget, expression.plan budget, Eval.movedTo machine expression.span⟩ :
      Stage Value).outcome = .error (.fault fault) after) :
    (⟨budget, .expr expression, machine⟩ : Stage Value).outcome =
      .error (.fault (fault.orAt expression.span)) after := by
  simp only [outcome, Plan.toEval] at ended ⊢
  rw [Eval.exprWithin_eq, Eval.located_of_running running]
  exact blaming_eq_error ended

/-- A statement fails with its plan, and is blamed. -/
theorem stmt_fails {statement : Stmt} (running : machine.running = true)
    (ended : (⟨budget, statement.plan budget, Eval.movedTo machine statement.span⟩ :
      Stage Flow).outcome = .error (.fault fault) after) :
    (⟨budget, .stmt statement, machine⟩ : Stage Flow).outcome =
      .error (.fault (fault.orAt statement.span)) after := by
  simp only [outcome, Plan.toEval] at ended ⊢
  rw [Eval.stmtWithin_eq, Eval.located_of_running running]
  exact blaming_eq_error ended

/-- A label fails with its expression, and the case is blamed. -/
theorem label_fails {chosen : Case Stmt}
    (ended : (⟨budget, .expr chosen.label, machine⟩ : Stage Value).outcome =
      .error (.fault fault) after) :
    (⟨budget, .label chosen, machine⟩ : Stage Value).outcome =
      .error (.fault (fault.orAt chosen.span)) after := blaming_eq_error ended

/-- A body ends like its statements. -/
theorem outcome_body (budget : Nat) (statements : List Stmt) (machine : Machine) :
    (⟨budget + 1, .body statements, machine⟩ : Stage Flow).outcome =
      (⟨budget, .block statements, machine⟩ : Stage Flow).outcome := by
  simp only [outcome, Plan.toEval]
  rw [Eval.bodyWithin_succ]

/-- A body leaves what its statements leave. -/
theorem after_body (budget : Nat) (statements : List Stmt) (machine : Machine) :
    (⟨budget + 1, .body statements, machine⟩ : Stage Flow).after =
      (⟨budget, .block statements, machine⟩ : Stage Flow).after := by
  rw [after_eq, outcome_body, ← after_eq]

end Stage

/-! ## Entering -/

variable {stage : Stage α} {middle : Stage β} {inner : Stage γ}

/-- **A stage comes to another one**, inside some nodes, innermost first. -/
inductive Enters : {α β : Type} → Stage α → Stage β → List Node → Prop
  /-- It starts with itself. -/
  | here {α : Type} (stage : Stage α) : Enters stage stage []
  /-- It starts with the first of two plans in a row. -/
  | first {α β γ : Type} {budget : Nat} {plan : Plan α} {next : α → Plan β} {machine : Machine}
      {inner : Stage γ} {nodes : List Node} (h : Enters ⟨budget, plan, machine⟩ inner nodes) :
    Enters ⟨budget, plan.andThen next, machine⟩ inner nodes
  /-- It comes to the second when the first has given a value. -/
  | second {α β γ : Type} {budget : Nat} {plan : Plan α} {next : α → Plan β}
      {machine between : Machine} {inner : Stage γ} {nodes : List Node} {value : α}
      (ran : plan.toEval budget machine = .ok value between)
      (h : Enters ⟨budget, next value, between⟩ inner nodes) :
    Enters ⟨budget, plan.andThen next, machine⟩ inner nodes
  /-- It comes to what stands between changes of the machine. -/
  | enclosed {α β : Type} {budget : Nat} {before : Machine → Machine}
      {after : Option Stop → Machine → Machine} {plan : Plan α} {machine : Machine}
      {inner : Stage β} {nodes : List Node}
      (h : Enters ⟨budget, plan, before machine⟩ inner nodes) :
    Enters ⟨budget, .enclosed before after plan, machine⟩ inner nodes
  /-- At an expression it comes to the plan of the expression. -/
  | expr {β : Type} {budget : Nat} {expression : Expr} {machine : Machine} {inner : Stage β}
      {nodes : List Node} (running : machine.running = true)
      (h : Enters ⟨budget, expression.plan budget, Eval.movedTo machine expression.span⟩ inner
        nodes) :
    Enters ⟨budget, .expr expression, machine⟩ inner (nodes ++ [.expr expression])
  /-- At a statement it comes to the plan of the statement. -/
  | stmt {β : Type} {budget : Nat} {statement : Stmt} {machine : Machine} {inner : Stage β}
      {nodes : List Node} (running : machine.running = true)
      (h : Enters ⟨budget, statement.plan budget, Eval.movedTo machine statement.span⟩ inner
        nodes) :
    Enters ⟨budget, .stmt statement, machine⟩ inner (nodes ++ [.stmt statement])
  /-- At the label of a case it comes to the expression. -/
  | label {β : Type} {budget : Nat} {chosen : Case Stmt} {machine : Machine} {inner : Stage β}
      {nodes : List Node} (h : Enters ⟨budget, .expr chosen.label, machine⟩ inner nodes) :
    Enters ⟨budget, .label chosen, machine⟩ inner (nodes ++ [.case chosen])
  /-- At a body it comes to the statements, within a smaller budget. -/
  | body {β : Type} {budget : Nat} {statements : List Stmt} {machine : Machine} {inner : Stage β}
      {nodes : List Node} (h : Enters ⟨budget, .block statements, machine⟩ inner nodes) :
    Enters ⟨budget + 1, .body statements, machine⟩ inner nodes

/-- What a stage comes to comes to others in turn. -/
theorem Enters.trans (h : Enters stage middle around) (h' : Enters middle inner nodes) :
    Enters stage inner (nodes ++ around) := by
  induction h with
  | here => rwa [List.append_nil]
  | first _ ih => exact .first (ih h')
  | second ran _ ih => exact .second ran (ih h')
  | enclosed _ ih => exact .enclosed (ih h')
  | expr running _ ih =>
    rw [← List.append_assoc]
    exact .expr running (ih h')
  | stmt running _ ih =>
    rw [← List.append_assoc]
    exact .stmt running (ih h')
  | label _ ih =>
    rw [← List.append_assoc]
    exact .label (ih h')
  | body _ ih => exact .body (ih h')

/-- **What a stage comes to fails it**: the fault comes out, and the nodes that it passed through
were blamed for it. -/
theorem Enters.fails (h : Enters stage inner nodes) {after : Machine}
    (ended : inner.outcome = .error (.fault raised) after) :
    ∃ final, stage.outcome = .error (.fault (raised.through nodes)) final := by
  induction h with
  | here => exact ⟨after, ended⟩
  | first _ ih =>
    obtain ⟨final, ended⟩ := ih ended
    exact ⟨final, Eval.bind_of_error ended⟩
  | second ran _ ih =>
    obtain ⟨final, ended⟩ := ih ended
    exact ⟨final, (Eval.bind_of_ok ran).trans ended⟩
  | enclosed _ ih =>
    obtain ⟨final, ended⟩ := ih ended
    exact ⟨_, Stage.enclosed_fails ended⟩
  | expr running _ ih =>
    -- A node is blamed after the nodes inside it.
    obtain ⟨final, ended⟩ := ih ended
    exact ⟨final, Fault.through_concat _ _ _ ▸ Stage.expr_fails running ended⟩
  | stmt running _ ih =>
    obtain ⟨final, ended⟩ := ih ended
    exact ⟨final, Fault.through_concat _ _ _ ▸ Stage.stmt_fails running ended⟩
  | label _ ih =>
    obtain ⟨final, ended⟩ := ih ended
    exact ⟨final, Fault.through_concat _ _ _ ▸ Stage.label_fails ended⟩
  | body _ ih =>
    obtain ⟨final, ended⟩ := ih ended
    exact ⟨final, (Stage.outcome_body _ _ _).trans ended⟩

/-! ## Passing -/

/-- **A fault is raised at a stage**: it comes from something for which no node is evaluated, and it
has no place. -/
inductive Raises : {α : Type} → Stage α → Fault → Prop
  | intro {α : Type} {budget : Nat} {action : Eval α} {machine after : Machine} {fault : Fault}
    (ran : action machine = .error (.fault fault) after) (unplaced : fault.span = .unknown) :
    Raises ⟨budget, .plain action, machine⟩ fault

/-- A fault that is raised has no place. -/
theorem Raises.unplaced (raises : Raises stage fault) : fault.span = .unknown := by
  cases raises with
  | intro ran unplaced => exact unplaced

/-- A stage fails with the fault that is raised at it. -/
theorem Raises.fails (raises : Raises stage fault) :
    ∃ after, stage.outcome = .error (.fault fault) after := by
  cases raises with
  | intro ran => exact ⟨_, ran⟩

/-- **A fault passes through nodes on its way out of a stage**, innermost first: inside them it was
raised, without a place and with no further node entered, and each of them was blamed for it. -/
inductive Passes (stage : Stage α) (fault : Fault) (nodes : List Node) : Prop
  | intro {β : Type} {inner : Stage β} {raised : Fault} (enters : Enters stage inner nodes)
    (raises : Raises inner raised) (blamed : fault = raised.through nodes)

/-- What is done without any node being evaluated raises its faults without passing through one. -/
theorem Passes.atOnce {budget : Nat} {action : Eval α} {machine after : Machine}
    (ran : action machine = .error (.fault fault) after) (unplaced : fault.span = .unknown) :
    Passes ⟨budget, .plain action, machine⟩ fault [] :=
  .intro (.here _) (.intro ran unplaced) rfl

/-- A fault goes on outwards from what a stage has come to. -/
theorem Passes.outwards (passes : Passes middle fault nodes) (h : Enters stage middle around) :
    Passes stage (fault.through around) (nodes ++ around) := by
  obtain ⟨enters, raises, rfl⟩ := passes
  exact .intro (h.trans enters) raises (Fault.through_append _ _ _).symm

/-- A fault that has passed through no node has no place. -/
theorem Passes.span_eq_unknown (passes : Passes stage fault []) : fault.span = .unknown := by
  obtain ⟨-, raises, rfl⟩ := passes
  exact raises.unplaced

/-- **The place of a fault is that of the innermost node through which it passed.** -/
theorem Passes.span_eq {innermost : Node} {outer : List Node}
    (passes : Passes stage fault (innermost :: outer))
    (known : innermost.span.isKnown = true) : fault.span = innermost.span := by
  obtain ⟨-, raises, rfl⟩ := passes
  exact Fault.span_through raises.unplaced known outer

/-- Where something fails, nothing follows it. -/
theorem Enters.not_ok {value : α} {after : Machine} (h : Enters stage inner nodes)
    (raises : Raises inner raised) : stage.outcome ≠ .ok value after := by
  obtain ⟨_, ended⟩ := raises.fails
  obtain ⟨_, failed⟩ := h.fails ended
  intro ran
  cases failed.symm.trans ran

/-- What a stage comes to next, or at once if nothing follows. -/
def Stage.Goes : {α β : Type} → Stage α → Stage β → List Node → Prop
  | _, _, ⟨_, .plain _, _⟩, _, nodes => nodes = []
  | _, _, ⟨budget, .andThen plan next, machine⟩, inner, nodes =>
    Enters ⟨budget, plan, machine⟩ inner nodes ∨
      ∃ value between, plan.toEval budget machine = .ok value between ∧
        Enters ⟨budget, next value, between⟩ inner nodes
  | _, _, ⟨budget, .enclosed before _ plan, machine⟩, inner, nodes =>
    Enters ⟨budget, plan, before machine⟩ inner nodes
  | _, _, ⟨budget, .expr expression, machine⟩, inner, nodes =>
    ∃ within, nodes = within ++ [.expr expression] ∧
      Enters ⟨budget, expression.plan budget, Eval.movedTo machine expression.span⟩ inner within
  | _, _, ⟨budget, .stmt statement, machine⟩, inner, nodes =>
    ∃ within, nodes = within ++ [.stmt statement] ∧
      Enters ⟨budget, statement.plan budget, Eval.movedTo machine statement.span⟩ inner within
  | _, _, ⟨budget, .label chosen, machine⟩, inner, nodes =>
    ∃ within, nodes = within ++ [.case chosen] ∧
      Enters ⟨budget, .expr chosen.label, machine⟩ inner within
  | _, _, ⟨budget + 1, .body statements, machine⟩, inner, nodes =>
    Enters ⟨budget, .block statements, machine⟩ inner nodes
  | _, _, ⟨0, .body _, _⟩, _, _ => False
  | _, _, ⟨_, .handler _, _⟩, _, _ => False

/-- **The way to what raises a fault goes on from every stage** that is put together. -/
theorem Enters.goes (h : Enters stage inner nodes) (raises : Raises inner raised) :
    stage.Goes inner nodes := by
  cases h with
  | here =>
    cases raises
    rfl
  | first h => exact .inl h
  | second ran h => exact .inr ⟨_, _, ran, h⟩
  | enclosed h | body h => exact h
  | expr _ h | stmt _ h | label h => exact ⟨_, rfl, h⟩

/-- **There is one way only** to what raises a fault. -/
theorem Enters.unique {δ : Type} {other : Stage δ} {raised' : Fault} {nodes' : List Node}
    (h : Enters stage inner nodes) (raises : Raises inner raised)
    (h' : Enters stage other nodes') (raises' : Raises other raised') : nodes = nodes' := by
  have goes := h'.goes raises'
  induction h generalizing nodes' with
  | here =>
    cases raises
    exact Eq.symm goes
  | first h ih =>
    rcases goes with further | ⟨_, _, ran, -⟩
    · exact ih raises further (further.goes raises')
    · exact absurd ran (h.not_ok raises)
  | second ran h ih =>
    rcases goes with further | ⟨_, _, ran', further⟩
    · exact absurd ran (further.not_ok raises')
    · cases ran.symm.trans ran'
      exact ih raises further (further.goes raises')
  | enclosed _ ih | body _ ih => exact ih raises goes (goes.goes raises')
  | expr _ _ ih | stmt _ _ ih | label _ ih =>
    obtain ⟨within, rfl, further⟩ := goes
    rw [ih raises further (further.goes raises')]

/-- **The nodes that a fault passes through are determined by the stage.** -/
theorem Passes.unique {fault' : Fault} {nodes' : List Node} (passes : Passes stage fault nodes)
    (passes' : Passes stage fault' nodes') : nodes = nodes' := by
  obtain ⟨enters, raises, -⟩ := passes
  obtain ⟨enters', raises', -⟩ := passes'
  exact enters.unique raises enters' raises'

/-! ## Blame -/

/-- **A node of a program is to blame for a fault**: the fault passed through nodes of the program
on its way out, and its place is that of the innermost of them. -/
def Blames (program : List Stmt) (stage : Stage α) (fault : Fault) : Prop :=
  ∃ innermost outer, Passes stage fault (innermost :: outer) ∧
    (∀ node ∈ innermost :: outer, node.StandsIn program) ∧ fault.span = innermost.span

/-- **A fault is accounted for**: all that it passed through are nodes of the program. -/
def Traces (program : List Stmt) (stage : Stage α) (fault : Fault) : Prop :=
  ∃ nodes, Passes stage fault nodes ∧ ∀ node ∈ nodes, node.StandsIn program

/-- What is accounted for on the inside is accounted for on the outside. -/
theorem Traces.outwards (traces : Traces program middle fault) (h : Enters stage middle around)
    (inside : ∀ node ∈ around, node.StandsIn program) :
    Traces program stage (fault.through around) := by
  obtain ⟨nodes, passes, standing⟩ := traces
  refine ⟨nodes ++ around, passes.outwards h, fun node mem => ?_⟩
  rcases List.mem_append.mp mem with mem | mem
  · exact standing node mem
  · exact inside node mem

/-- **A fault with a place that is accounted for was blamed on a node**, if the nodes of the program
have places. -/
theorem Traces.blames (traces : Traces program stage fault)
    (places : ∀ node : Node, node.StandsIn program → node.span.isKnown = true)
    (known : fault.span.isKnown = true) : Blames program stage fault := by
  obtain ⟨nodes, passes, standing⟩ := traces
  cases nodes with
  | nil =>
    rw [passes.span_eq_unknown] at known
    cases known
  | cons innermost outer =>
    refine ⟨innermost, outer, passes, standing, passes.span_eq ?_⟩
    exact places innermost (standing innermost List.mem_cons_self)

/-! ## Handlers -/

/-- **A stage runs a handler**, itself or through a handler that it runs; what the handler does is
another stage, on the machine in the context of the handler. -/
inductive Handles : {α : Type} → Stage α → Pending → Stage Flow → Prop
  /-- The stage comes to run the handler. -/
  | direct {α : Type} {stage : Stage α} {budget : Nat} {handler : Pending} {machine : Machine}
      {nodes : List Node} (h : Enters stage ⟨budget, .handler handler, machine⟩ nodes) :
    Handles stage handler
      ⟨budget, .body handler.body, { machine with context := handler.context }⟩
  /-- The stage runs a handler that runs the handler. -/
  | inside {α : Type} {stage : Stage α} {outer handler : Pending} {middle inner : Stage Flow}
      (h : Handles stage outer middle) (h' : Handles middle handler inner) :
    Handles stage handler inner

/-- What a stage comes to runs its handlers for it. -/
theorem Handles.outwards {handler : Pending} {body : Stage Flow}
    (handles : Handles middle handler body) (h : Enters stage middle around) :
    Handles stage handler body := by
  induction handles with
  | direct enters => exact .direct (h.trans enters)
  | inside _ rest ih => exact .inside (ih h) rest

/-- **A failure is recorded for a handler of the program** in the course of a stage: the handler was
run, and a node of the program is to blame for the fault that ended it. -/
def Records (program : List Stmt) (stage : Stage α) (failure : HandlerFailure) : Prop :=
  ∃ handler body, Handles stage handler body ∧ failure.label = handler.label ∧
    Node.HandlerIn program handler.body ∧ Blames program body failure.fault

/-- What is recorded on the inside is recorded on the outside. -/
theorem Records.outwards {failure : HandlerFailure} (records : Records program middle failure)
    (h : Enters stage middle around) : Records program stage failure := by
  obtain ⟨handler, body, handles, rest⟩ := records
  exact ⟨handler, body, handles.outwards h, rest⟩

end ReactiveScript
