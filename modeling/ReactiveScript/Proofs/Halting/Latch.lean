import ReactiveScript.Proofs.Regime.Lasting

/-! # The running latch

Whether a machine is running is looked at before every statement and every expression, and decided
nowhere but at the top of a program. So no expression, statement, call or handler changes it,
however it ends (`Regime.latch`), and on a machine that is not running none of them does
anything. -/

namespace ReactiveScript

open Eval

/-- The regime of evaluations that leave it alone whether the machine is running. -/
def Regime.latch : Regime where
  Ready _ := True
  May before after := after.running = before.running
  Cut before after := after.running = before.running
  ready_of_may _ := trivial
  trans first second := second.trans first
  cut_trans first second := second.trans first
  cut_of_may _ _ := rfl
  orderly _ := .inl rfl
  enlarge _ h _ := congrArg Footing.running h.gentle.footing

namespace Regime

variable {machine : Machine} {run : Runner}

/-- The regime is broad. -/
theorem latch_broad : Regime.latch.Broad where
  gentle _ h _ := congrArg Footing.running h.footing
  cut_gentle cut h := (congrArg Footing.running h.footing).trans cut
  hang h := h
  write _ _ := rfl
  define _ _ := rfl
  note _ _ := rfl
  modules _ := .inl rfl

/-- **Whatever is evaluated leaves the latch alone.** -/
theorem latch_lasting : Regime.latch.Lasting where
  broad := latch_broad
  ready _ := trivial
  cut_iff := Iff.rfl
  turn _ _ := rfl
  restore _ _ _ := rfl

/-- A handler leaves the latch alone: a fault that ends it is only noted. -/
theorem latch_runHandler (runs : ∀ body machine, Regime.latch.Obeys (run body) machine)
    (handler : Pending) (machine : Machine) :
    Regime.latch.Obeys (runHandler run handler) machine :=
  latch_lasting.runHandler runs handler machine

/-- Every body leaves the latch alone. -/
theorem latch_bodyWithin (budget : Nat) (body : List Stmt) (machine : Machine) :
    Regime.latch.Obeys (bodyWithin budget body) machine :=
  latch_lasting.bodyWithin budget body machine

/-- Every statement leaves the latch alone. -/
theorem latch_stmtWithin (budget : Nat) (statement : Stmt) (machine : Machine) :
    Regime.latch.Obeys (stmtWithin budget statement) machine :=
  latch_lasting.stmtWithin budget statement machine

/-- Every expression leaves the latch alone. -/
theorem latch_exprWithin (budget : Nat) (expression : Expr) (machine : Machine) :
    Regime.latch.Obeys (exprWithin budget expression) machine :=
  latch_lasting.exprWithin budget expression machine

/-- Waiting for the handlers that are in line leaves the latch alone. -/
theorem latch_waitForHandlers (budget : Nat) (machine : Machine) :
    Regime.latch.Obeys (waitForHandlers budget) machine :=
  latch_lasting.waitForHandlers budget machine

/-- Whether the machine is running after an evaluation that leaves the latch alone. -/
theorem Obeys.running_perform {α : Type} {action : Eval α} (h : Regime.latch.Obeys action machine) :
    (machine.perform action).machine.running = machine.running :=
  latch_lasting.perform h

end Regime

namespace Eval

variable {run : Runner} {rounds : Nat} {machine : Machine}

/-- On a machine that is not running a statement does nothing. -/
theorem stmt_of_stopped (stopped : machine.running = false) (statement : Stmt) :
    stmt run rounds statement machine = .ok (.next .void) machine := by
  cases statement with
  | declaration span type name value => cases value <;> exact located_of_stopped stopped
  | leave span value => cases value <;> exact located_of_stopped stopped
  | branch span condition thenBody elseBody => cases elseBody <;> exact located_of_stopped stopped
  | choice span subject cases fallback => cases fallback <;> exact located_of_stopped stopped
  | _ => exact located_of_stopped stopped

/-- On a machine that is not running an expression does nothing and has no value. -/
theorem expr_of_stopped (stopped : machine.running = false) (expression : Expr) :
    expr run rounds expression machine = .ok .void machine := by
  cases expression with
  | range span first last step inclusive => cases step <;> exact located_of_stopped stopped
  | _ => exact located_of_stopped stopped

end Eval

end ReactiveScript
