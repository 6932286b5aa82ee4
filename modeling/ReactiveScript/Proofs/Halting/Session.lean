import ReactiveScript.Proofs.Evaluation.Program
import ReactiveScript.Proofs.Halting.Latch
import ReactiveScript.Proofs.Place.Source

/-! # Programs that follow each other

A program that fails stops the machine where it failed: what would have come behind the fault is not
run, and whatever a host asks of the machine later finds it as it was left. A program that neither
fails nor leaves is followed by the next as if both were one. `program_halts` puts this together. -/

namespace ReactiveScript

open Eval

/-- What a host may demand of a machine. -/
inductive Demand where
  /-- To run a program. -/
  | run (statements : List Stmt)
  /-- To read and run a source text. -/
  | source (text : String)
  /-- To evaluate an expression. -/
  | evaluate (expression : Expr)

namespace Demand

/-- What is done for a demand. -/
def action (budget : Nat) : Demand → Eval Value
  | .run statements => program budget statements
  | .source text => Eval.source budget text
  | .evaluate expression => exprWithin budget expression

/-- How a machine that is not running answers a demand: nothing comes of it, but a text that is no
program is refused all the same. -/
def idleAnswer : Demand → Except Stop Value
  | .run _ => .ok .void
  | .source text =>
    match readProgram text with
    | .ok _ => .ok .void
    | .error fault => .error (.fault fault)
  | .evaluate _ => .ok .void

end Demand

/-- The answers to demands one after the other, and the machine after them. -/
def Machine.session (machine : Machine) (budget : Nat) :
    List Demand → List (Except Stop Value) × Machine
  | [] => ([], machine)
  | demand :: rest =>
    let outcome := machine.perform (demand.action budget)
    let (answers, final) := outcome.machine.session budget rest
    (outcome.result :: answers, final)

/-! ## Machines that are not running -/

namespace Machine

variable {machine : Machine} {budget : Nat}

/-- On a machine that is not running a program does nothing. -/
theorem topLevel_of_stopped (stopped : machine.running = false) (statements : List Stmt) :
    topLevel budget .void statements machine = .ok .void machine := by
  induction statements with
  | nil => rfl
  | cons first rest ih =>
    have idle : stmtWithin budget first machine = .ok (.next .void) machine :=
      stmt_of_stopped stopped first
    simp only [topLevel, Bind.bind, EStateM.bind, idle]
    exact ih

/-- **A machine that is not running stays as it is**, whatever it is asked. -/
theorem perform_of_stopped (stopped : machine.running = false) (demand : Demand) :
    machine.perform (demand.action budget) = ⟨demand.idleAnswer, machine⟩ := by
  have ran (statements : List Stmt) : program budget statements machine = .ok .void machine := by
    simp only [program, halting, topLevel_of_stopped stopped]
  cases demand with
  | run statements =>
    simp only [Demand.action, perform, ran]
    rfl
  | source text =>
    simp only [Demand.action, Eval.source, Demand.idleAnswer]
    cases readProgram text with
    | ok statements => simp only [perform, ran]
    | error fault =>
      -- The latch is cleared once more.
      have same : { machine with running := false } = machine := by rw [← stopped]
      have halted : halting (throw (.fault fault) : Eval Value) machine =
          .error (.fault fault) { machine with running := false } := rfl
      simp only [perform, halted, same]
  | evaluate expression =>
    have idle : exprWithin budget expression machine = .ok .void machine :=
      expr_of_stopped stopped expression
    simp only [Demand.action, perform, idle]
    rfl

/-- A machine that is not running stays as it is through every session. -/
theorem session_of_stopped (stopped : machine.running = false) (demands : List Demand) :
    machine.session budget demands = (demands.map Demand.idleAnswer, machine) := by
  induction demands with
  | nil => rfl
  | cons demand rest ih => simp only [session, perform_of_stopped stopped, ih, List.map_cons]

end Machine

/-! ## Programs one after the other -/

namespace Eval

variable {budget : Nat} {machine middle after : Machine} {first second : List Stmt}
  {last value : Value}

/-- What stops a program stops it before whatever follows. -/
theorem topLevel_append_of_error {stop : Stop}
    (h : topLevel budget last first machine = .error stop after) (second : List Stmt) :
    topLevel budget last (first ++ second) machine = .error stop after := by
  induction first generalizing last machine with
  | nil => cases h
  | cons statement rest ih =>
    simp only [List.cons_append, topLevel, Bind.bind, EStateM.bind] at h ⊢
    cases ended : stmtWithin budget statement machine with
    | error reason final => simpa only [ended] using h
    | ok flow final =>
      rw [ended] at h
      cases flow with
      | leave result => cases h
      | next result => exact ih h

/-- Where a program comes to its end without leaving, what follows goes on from there. -/
theorem topLevel_append_of_ok (h : topLevel budget last first machine = .ok value middle)
    (stays : ∀ result after, block (bodyWithin budget) budget first machine ≠
      .ok (.leave result) after) (second : List Stmt) :
    topLevel budget last (first ++ second) machine = topLevel budget value second middle := by
  induction first generalizing last machine with
  | nil =>
    cases h
    rfl
  | cons statement rest ih =>
    simp only [List.cons_append, topLevel, block, Bind.bind, EStateM.bind] at h stays ⊢
    have same : stmt (bodyWithin budget) budget statement = stmtWithin budget statement := rfl
    rw [same] at stays
    cases ended : stmtWithin budget statement machine with
    | error reason final =>
      rw [ended] at h
      cases h
    | ok flow final =>
      rw [ended] at h stays
      cases flow with
      | leave result => exact absurd rfl (stays result final)
      | next result => exact ih h stays

/-- A program that fails has failed in its statements, and stops the machine. -/
theorem program_eq_fault {statements : List Stmt} {fault : Fault}
    (h : program budget statements machine = .error (.fault fault) after) :
    ∃ final, topLevel budget .void statements machine = .error (.fault fault) final ∧
      after = { final with running := false } := by
  unfold program halting at h
  cases ended : topLevel budget .void statements machine with
  | ok value final =>
    rw [ended] at h
    cases h
  | error stop final =>
    rw [ended] at h
    cases stop with
    | fault problem =>
      cases h
      exact ⟨final, rfl, rfl⟩
    | exhausted => cases h

/-- A program that ends well has ended in its statements. -/
theorem program_eq_ok {statements : List Stmt}
    (h : program budget statements machine = .ok value after) :
    topLevel budget .void statements machine = .ok value after := by
  unfold program halting at h
  cases ended : topLevel budget .void statements machine with
  | ok value final =>
    rw [ended] at h
    exact h
  | error stop final =>
    rw [ended] at h
    cases stop <;> cases h

end Eval

/-- A text that is no program has a syntax error. -/
theorem kind_of_readProgram_eq_error {text : String} {fault : Fault}
    (h : readProgram text = .error fault) : fault.kind = .syntaxError := by
  rw [readProgram] at h
  obtain ⟨stream, read, placed⟩ | ⟨problem, refused, kind, _⟩ := ofSource_within text
  · rw [read] at h
    have parsed : stream.program = .error fault := h
    obtain ⟨program, spelled, _⟩ | ⟨problem, failed, kind, _⟩ := placed.program
    · rw [spelled] at parsed
      cases parsed
    · rw [failed] at parsed
      cases parsed
      exact kind
  · rw [refused] at h
    cases h
    exact kind

/-- **The first fault halts a machine, and nothing else does.** A program that fails fails the same
way whatever follows it, the machine is not running afterwards, and no session changes anything of
it: programs and expressions come to nothing, and so do texts, but for those that have a syntax
error. A program that ends well without leaving goes on into the next as if both were one program.
Neither an expression nor a handler nor waiting for handlers changes whether the machine is
running, however it ends. -/
theorem program_halts (budget : Nat) (machine : Machine) (first second : List Stmt) :
    (∀ fault after, program budget first machine = .error (.fault fault) after →
      program budget (first ++ second) machine = .error (.fault fault) after ∧
      after.running = false ∧
      ∀ later demands,
        after.session later demands = (demands.map Demand.idleAnswer, after)) ∧
    (∀ text fault, readProgram text = .error fault → fault.kind = .syntaxError) ∧
    (∀ value middle, program budget first machine = .ok value middle →
      (∀ result after, bodyWithin (budget + 1) first machine ≠ .ok (.leave result) after) →
      second ≠ [] →
      program budget (first ++ second) machine = program budget second middle) ∧
    (∀ expression, (machine.perform (exprWithin budget expression)).machine.running =
      machine.running) ∧
    (∀ handler, (machine.perform (runHandler (bodyWithin budget) handler)).machine.running =
      machine.running) ∧
    (machine.perform (waitForHandlers budget)).machine.running = machine.running := by
  refine ⟨?_, fun _ _ => kind_of_readProgram_eq_error, ?_, ?_, ?_, ?_⟩
  · intro fault after failed
    obtain ⟨final, ended, rfl⟩ := program_eq_fault failed
    refine ⟨?_, rfl, fun later demands => Machine.session_of_stopped rfl demands⟩
    simp only [program, halting, topLevel_append_of_error ended second]
  · intro value middle ran stays more
    have joined := topLevel_append_of_ok (program_eq_ok ran) stays second
    -- The value of the first program is given up for that of the first statement of the second.
    obtain ⟨statement, rest, rfl⟩ := List.exists_cons_of_ne_nil more
    have fresh : topLevel budget value (statement :: rest) middle =
        topLevel budget .void (statement :: rest) middle := rfl
    simp only [program, halting, joined, fresh]
  · intro expression
    exact (Regime.latch_exprWithin budget expression machine).running_perform
  · intro handler
    exact (Regime.latch_runHandler (Regime.latch_bodyWithin budget) handler
      machine).running_perform
  · exact (Regime.latch_waitForHandlers budget machine).running_perform

/-- A declaration of a variable. -/
def declareA : Stmt := .declaration (.at 1 1) .int "a" (some (.literal (.at 1 9) (.int 1)))

/-- An assignment to the variable. -/
def assignA (value : Expr) : Stmt := .assignment (.at 2 1) "a" value

/-- A program that reads a variable which is not there fails before its last assignment, and a
session later does not change the machine; without the bad assignment the program goes on. -/
theorem undeclared_halts :
    (∃ fault after,
      program 1 [declareA, assignA (.var (.at 2 5) "b")] (.initial .standard .bare) =
        .error (.fault fault) after ∧
      program 1 [declareA, assignA (.var (.at 2 5) "b"), assignA (.literal (.at 3 5) (.int 2))]
        (.initial .standard .bare) = .error (.fault fault) after ∧
      after.running = false ∧
      after.session 1 [.run [assignA (.literal (.at 3 5) (.int 3))],
        .evaluate (.var (.at 4 1) "a")] = ([.ok .void, .ok .void], after)) ∧
    ∃ value middle, program 1 [declareA] (.initial .standard .bare) = .ok value middle ∧
      program 1 [declareA, assignA (.literal (.at 3 5) (.int 2))] (.initial .standard .bare) =
        program 1 [assignA (.literal (.at 3 5) (.int 2))] middle := by
  constructor
  · obtain ⟨halts, _⟩ := program_halts 1 (.initial .standard .bare)
      [declareA, assignA (.var (.at 2 5) "b")] [assignA (.literal (.at 3 5) (.int 2))]
    obtain ⟨same, stopped, idle⟩ := halts _ _ rfl
    exact ⟨_, _, rfl, same, stopped, idle 1 _⟩
  · obtain ⟨_, _, goesOn, _⟩ := program_halts 1 (.initial .standard .bare) [declareA]
      [assignA (.literal (.at 3 5) (.int 2))]
    have stays : ∀ result after, bodyWithin 2 [declareA] (.initial .standard .bare) ≠
        .ok (.leave result) after := by
      intro result after left
      cases left
    exact ⟨_, _, rfl, goesOn _ _ rfl stays (List.cons_ne_nil _ _)⟩

end ReactiveScript
