import ReactiveScript.Proofs.Reactive.Mutation
import ReactiveScript.Proofs.Reactive.Recording

/-! # What every machine has recorded

An interpreter is started fresh and made to evaluate one thing after the other, each of which ends
however it ends (`Machine.Lived`). All the while it has recorded exactly what statements have
registered: `registrations_recorded` says so of the tables, of every course of single steps, and of
every machine that an interpreter comes to. -/

namespace ReactiveScript

open Eval

/-- **What an interpreter can be made to evaluate**, as a whole or, in the midst of that, in part,
with its plan within a budget. -/
inductive Evaluable : {α : Type} → Eval α → Nat → Plan α → Prop
  /-- An expression. -/
  | expression (budget : Nat) (expression : Expr) :
    Evaluable (exprWithin budget expression) budget (.expr expression)
  /-- A statement. -/
  | statement (budget : Nat) (statement : Stmt) :
    Evaluable (stmtWithin budget statement) budget (.stmt statement)
  /-- The body of a function or handler. -/
  | body (budget : Nat) (body : List Stmt) :
    Evaluable (bodyWithin budget body) budget (.body body)
  /-- A source text. -/
  | source (budget : Nat) (text : String) :
    Evaluable (Eval.source budget text) budget (.source text)
  /-- The handlers in line. -/
  | settle (budget : Nat) : Evaluable (waitForHandlers budget) budget (.settle budget)

variable {α : Type} {action : Eval α} {budget : Nat} {plan : Plan α}

/-- Carrying out the plan is the evaluation. -/
theorem Evaluable.toEval_eq (h : Evaluable action budget plan) : plan.toEval budget = action := by
  cases h with
  | expression | statement | body => rfl
  | source _ text => exact Plan.toEval_source _ text
  | settle => exact Plan.toEval_settle _ _

/-- **Whatever an interpreter is made to evaluate logs what it registers.** -/
theorem Evaluable.logs (h : Evaluable action budget plan) : Logs budget plan := by
  cases h with
  | expression _ expression => exact .expression (.bodyWithin budget) expression
  | statement _ statement => exact .statement (.bodyWithin budget) statement
  | body _ body => exact .bodyWithin budget body
  | source _ text => exact .source budget text
  | settle => exact .settle (.bodyWithin budget) budget

namespace Machine

/-- **The machines that an interpreter comes to** after it was started fresh, with the registrations
that were made on the way by statements that were executed. -/
inductive Lived (config : Config) (world : World) : Machine → (Registration → Prop) → Prop
  /-- Nothing has happened. -/
  | fresh : Lived config world (.initial config world) fun _ => False
  /-- Something was evaluated. -/
  | evaluate {machine : Machine} {made : Registration → Prop} {α : Type} {action : Eval α}
      {budget : Nat} {plan : Plan α} (lived : Lived config world machine made)
      (evaluable : Evaluable action budget plan) :
    Lived config world (machine.perform action).machine
      fun registration => made registration ∨ Makes ⟨budget, plan, machine⟩ registration
  /-- Something has happened aside, such as that a call or a handler was entered or left. -/
  | aside {machine after : Machine} {made : Registration → Prop}
      (lived : Lived config world machine made) (h : machine.Aside after) :
    Lived config world after made

/-- **The life of an interpreter is a course of single steps**, in which only those registrations
are granted that executed statements make. -/
theorem Lived.course {config : Config} {world : World} {machine : Machine}
    {made : Registration → Prop} (lived : Lived config world machine made) :
    machine.HostFree ∧ ∃ log, (Machine.initial config world).Course log machine ∧
      ∀ registration ∈ log, made registration := by
  induction lived with
  | fresh => exact ⟨hostFree_initial config world, [], .refl, List.forall_mem_nil _⟩
  | evaluate _ evaluable ih =>
    obtain ⟨free, log, course, before⟩ := ih
    obtain ⟨free', more, course', makes⟩ := evaluable.logs _ free
    rw [Stage.after, evaluable.toEval_eq] at free' course'
    refine ⟨free', log ++ more, course.trans course', fun registration mem => ?_⟩
    exact (List.mem_append.mp mem).imp (before registration) (makes registration)
  | aside _ h ih =>
    obtain ⟨free, log, course, before⟩ := ih
    exact ⟨h.hostFree free, log, course.before_aside h, before⟩

end Machine

/-- **The tables and the notes record exactly what was registered.** Whatever registrations are
attempted on new tables, the tables record those that were granted: which declarations and
attachments are refused, and which bodies wait for what, in which order. On a machine a statement
that asks for a registration gets it if the tables grant it, and changes nothing if it fails.
Wherever single steps lead from a fresh machine, whichever line of evaluation takes them, the tables
record what was granted on the way, every container has its notes under different names, and each of
these was named by a watch. What an interpreter is made to evaluate takes such steps, and what is
granted in them was registered by statements that were executed. -/
theorem registrations_recorded :
    (∀ attempts : List Registration,
      (Registry.empty.attempt attempts).2.Records (Registry.empty.attempt attempts).1) ∧
    (∀ (statement : Stmt) (action : Eval Unit), statement.Asks action → ∀ machine : Machine,
      (∀ registration registry, statement.Registers machine registration →
        machine.registry.enter registration = .ok registry →
          ∃ after, action machine = .ok () after ∧ after.registry = registry) ∧
      ∀ stop after, action machine = .error stop after → after = machine) ∧
    (∀ (config : Config) (world : World) (log : List Registration) (machine : Machine),
      (Machine.initial config world).Course log machine → machine.Recorded log) ∧
    ∀ (config : Config) (world : World) (machine : Machine) (made : Registration → Prop),
      Machine.Lived config world machine made →
        ∃ log, (Machine.initial config world).Course log machine ∧ machine.Recorded log ∧
          ∀ registration ∈ log, made registration := by
  refine ⟨Registry.records_attempts, fun statement action asks machine => ⟨?_, ?_⟩,
    fun config world log machine course => course.recorded,
    fun config world machine made lived => ?_⟩
  · exact fun registration registry => asks.recorded
  · exact fun stop after => asks.refused
  · obtain ⟨-, log, course, before⟩ := lived.course
    exact ⟨log, course, course.recorded, before⟩

/-- Of four attempts on new tables two are granted. On a fresh machine a signal is declared, and a
body cannot be made to wait for a signal that was not. A watch of a variable that holds a list is
recorded, and the list is noted under the name of the variable. -/
theorem watched_list_recorded :
    (Registry.empty.attempt [.handler "s" hitBody, .signal "s", .signal "s",
      .handler "s" hitBody]).2.Records [.signal "s", .handler "s" hitBody] ∧
    (∃ after registry, declareSignal "s" (.initial .standard .bare) = .ok () after ∧
      Registry.empty.enter (.signal "s") = .ok registry ∧ after.registry = registry ∧
      after.Recorded [.signal "s"]) ∧
    (∃ stop, attachHandler "s" hitBody (.initial .standard .bare) =
      .error stop (.initial .standard .bare)) ∧
    ∃ log, (Machine.initial .standard .bare).Course log watchedMachine ∧
      watchedMachine.Recorded log ∧ watchedMachine.store.noted (.list 0) = ["xs"] ∧
      .watch "xs" 0 hitBody ∈ log := by
  obtain ⟨attempted, asked, courses, lives⟩ := registrations_recorded
  refine ⟨attempted _, ?_, ?_, ?_⟩
  · have registers : Stmt.Registers (.initial .standard .bare) (.signal (.at 1 1) "s")
        (.signal "s") := .signal _ _
    obtain ⟨after, declared, recorded⟩ :=
      (asked _ _ (.signal (.at 1 1) "s") (.initial .standard .bare)).1 _ _ registers rfl
    have course : (Machine.initial .standard .bare).Course [.signal "s"]
        (Machine.withRegistry (.initial .standard .bare) ⟨⟨Table.empty.insert "s" []⟩, .empty⟩) :=
      .single (.enter rfl)
    refine ⟨after, _, declared, rfl, recorded, ?_⟩
    cases declared
    exact courses _ _ _ _ course
  · have refused : ∃ stop after, attachHandler "s" hitBody (.initial .standard .bare) =
        .error stop after := ⟨_, _, rfl⟩
    obtain ⟨stop, after, ended⟩ := refused
    obtain rfl := (asked _ _ (.when (.at 1 1) "s" hitBody) (.initial .standard .bare)).2 _ _ ended
    exact ⟨stop, ended⟩
  · have lived : Machine.Lived .standard .bare watchedMachine _ :=
      .evaluate (.evaluate .fresh (.statement 0 _)) (.statement 0 _)
    obtain ⟨log, course, recorded, -⟩ := lives _ _ _ _ lived
    refine ⟨log, course, recorded, rfl, mem_bodiesAt.mp ?_⟩
    rw [← recorded.registry.matching]
    exact List.mem_singleton_self hitBody

end ReactiveScript
