import Mathlib.Data.List.Nodup
import Mathlib.Logic.Relation
import ReactiveScript.Proofs.Regime.Statement

/-! # What lasts through everything

Some regimes allow whatever a program does: entering and leaving functions and handlers, too, and
being cut off anywhere. Everything obeys such a lasting regime (`Regime.Lasting.bodyWithin` and what
follows it). The narrowest of them is made of single steps: one machine comes after another if steps
lead from one to the other (`Machine.Onward`). So whatever a step cannot undo lasts, in every run
and between any two of its moments: the names of functions (`Machine.Onward.functions`) and the list
of imported files, in which no file is noted twice (`Machine.Onward.imported`). -/

namespace ReactiveScript

open Eval

/-! ## Lasting regimes -/

namespace Regime

variable {R : Regime} {machine : Machine} {run : Runner} {α : Type}

/-- **A lasting regime** is a broad one that can be kept to anywhere, however an evaluation ends,
and that allows the context to be changed and any function to be put under any name. -/
structure Lasting (R : Regime) : Prop where
  /-- The regime is broad. -/
  broad : R.Broad
  /-- It can be kept to anywhere. -/
  ready (machine : Machine) : R.Ready machine
  /-- What is cut off may have done what ends may have done. -/
  cut_iff {before after : Machine} : R.Cut before after ↔ R.May before after
  /-- The context may be changed. -/
  turn (machine : Machine) (context : Context) : R.May machine { machine with context }
  /-- Any function may be put under any name. -/
  restore (machine : Machine) (name : String) (function : Function) :
    R.May machine { machine with functions := machine.functions.insert name function }

/-- What an evaluation that obeys a lasting regime has done, however it has ended. -/
theorem Lasting.perform (lasting : R.Lasting) {action : Eval α} (h : R.Obeys action machine) :
    R.May machine (machine.perform action).machine := by
  unfold Obeys at h
  unfold Machine.perform
  cases ended : action machine with
  | ok value after =>
    rw [ended] at h
    exact h
  | error stop after =>
    rw [ended] at h
    cases stop with
    | fault fault => exact h
    | exhausted => exact lasting.cut_iff.mp h

namespace Lasting

variable (lasting : R.Lasting)

include lasting

/-- Evaluations may be cut off anywhere. -/
theorem cut (machine : Machine) : R.Cut machine machine :=
  lasting.cut_iff.mpr (refl (lasting.ready machine))

/-- What is gentle is allowed anywhere. -/
theorem gentle {before after : Machine} (h : before.Gentle after) : R.May before after :=
  lasting.broad.gentle (lasting.ready before) h (.inl (lasting.cut before))

/-- Nothing needs to be known of the bodies that are run. -/
theorem trusts (run : Runner) : R.Trusts run := .inl lasting.cut

/-- What obeys does what it may, also where it is cut off. -/
theorem stays {action : Eval α} (h : R.Obeys action machine) : R.Stays action machine := by
  unfold Obeys at h
  unfold Stays Keeps
  cases ended : action machine with
  | ok value after =>
    rw [ended] at h
    exact ⟨h, trivial⟩
  | error stop after =>
    rw [ended] at h
    cases stop with
    | fault fault => exact h
    | exhausted => exact lasting.cut_iff.mp h

/-- Entering a function opens a scope in another context. -/
theorem enter (machine : Machine) (function : Function) :
    R.May machine (machine.enter function) := by
  have turned := lasting.turn machine (machine.enter function).context
  exact R.trans turned (lasting.gentle (.of_eq rfl rfl rfl))

/-- Leaving a function closes a scope, restores the function and goes back to the context. -/
theorem leave (machine : Machine) (caller : Context) (name : String) (function : Function) :
    R.May machine (machine.leave caller name function) := by
  have turned := lasting.turn machine (machine.leave caller name function).context
  have restored := lasting.restore
    { machine with context := (machine.leave caller name function).context } name function
  exact R.trans (R.trans turned restored) (lasting.gentle (.of_eq rfl rfl rfl))

/-- A handler obeys if bodies do: a fault that ends it is only noted. -/
theorem runHandler (runs : ∀ body machine, R.Obeys (run body) machine) (handler : Pending)
    (machine : Machine) : R.Obeys (Eval.runHandler run handler) machine := by
  have entered := lasting.turn machine handler.context
  have ran := runs handler.body { machine with context := handler.context }
  have noted (after : Machine) (failures : List HandlerFailure) :
      R.May after { after with context := machine.context, failures } :=
    R.trans (lasting.turn after machine.context) (lasting.gentle (.of_eq rfl rfl rfl))
  unfold Obeys at ran ⊢
  unfold Eval.runHandler
  cases ended : run handler.body { machine with context := handler.context } with
  | ok flow after =>
    rw [ended] at ran
    exact R.trans (R.trans entered ran) (lasting.turn after machine.context)
  | error stop after =>
    rw [ended] at ran
    cases stop with
    | fault fault => exact R.trans (R.trans entered ran) (noted after _)
    | exhausted =>
      have stopped := R.trans entered (lasting.cut_iff.mp ran)
      exact lasting.cut_iff.mpr (R.trans stopped (lasting.turn after machine.context))

/-- Waiting for handlers obeys if bodies do. -/
theorem settle (runs : ∀ body machine, R.Obeys (run body) machine) (rounds : Nat)
    (machine : Machine) : R.Obeys (Eval.settle run rounds) machine := by
  induction rounds generalizing machine with
  | zero =>
    refine Obeys.get ?_
    split
    · exact Obeys.pure (lasting.ready machine)
    · exact Obeys.exhausted (lasting.cut machine)
  | succ rounds ih =>
    refine Obeys.get ?_
    split
    · exact Obeys.pure (lasting.ready machine)
    · refine Obeys.change_bind (lasting.gentle (.of_eq rfl rfl rfl)) ?_
      exact (lasting.runHandler runs _ _).andThen fun _ _ _ _ => ih _

/-- Calls obey if bodies do. -/
theorem calls (runs : ∀ body machine, R.Obeys (run body) machine) (rounds : Nat) :
    R.Calls run rounds where
  native _ _ _ has _ := by
    refine lasting.broad.returning ?_
    exact lasting.broad.native (lasting.ready _) has (.inl (lasting.cut _)) fun _ =>
      lasting.stays (lasting.settle runs rounds _)
  invoke {_ after name function _} _ _ _ has := by
    have entered := lasting.enter after function
    have left {final : Machine} (ran : R.May (after.enter function) final) :
        R.May after (final.leave after.context name function) :=
      R.trans (R.trans entered ran) (lasting.leave final after.context name function)
    -- The bounds inside the body are those outside, since the regime knows no depth.
    refine lasting.broad.invoke (lasting.trusts run) (lasting.ready after) has
      (fun _ => ⟨lasting.ready _, .inl (lasting.cut _)⟩) (fun _ _ => runs function.body _) left
      fun stopped => ?_
    exact lasting.cut_iff.mpr (left (lasting.cut_iff.mp stopped))

/-- **Every body obeys.** -/
theorem bodyWithin (budget : Nat) (body : List Stmt) (machine : Machine) :
    R.Obeys (Eval.bodyWithin budget body) machine := by
  induction budget generalizing body machine with
  | zero => exact Obeys.exhausted (lasting.cut machine)
  | succ budget ih =>
    exact lasting.broad.block (lasting.calls ih budget) (lasting.trusts _) body
      (lasting.ready machine) (.inl (lasting.cut machine))

/-- **Every statement obeys.** -/
theorem stmtWithin (budget : Nat) (statement : Stmt) (machine : Machine) :
    R.Obeys (Eval.stmtWithin budget statement) machine :=
  lasting.broad.stmt (lasting.calls (lasting.bodyWithin budget) budget) (lasting.trusts _)
    statement (lasting.ready machine) (.inl (lasting.cut machine))

/-- **Every expression obeys.** -/
theorem exprWithin (budget : Nat) (expression : Expr) (machine : Machine) :
    R.Obeys (Eval.exprWithin budget expression) machine :=
  (lasting.calls (lasting.bodyWithin budget) budget).expr (lasting.trusts _) expression
    (lasting.ready machine) (.inl (lasting.cut machine))

/-- Waiting for the handlers that are in line obeys. -/
theorem waitForHandlers (budget : Nat) (machine : Machine) :
    R.Obeys (Eval.waitForHandlers budget) machine :=
  lasting.settle (lasting.bodyWithin budget) budget machine

/-- The statements of a program obey. -/
theorem topLevel (budget : Nat) (last : Value) (statements : List Stmt) (machine : Machine) :
    R.Obeys (Eval.topLevel budget last statements) machine :=
  lasting.broad.topLevel (lasting.calls (lasting.bodyWithin budget) budget) (lasting.trusts _)
    statements (lasting.ready machine) (.inl (lasting.cut machine))

end Lasting

end Regime

/-! ## Steps -/

namespace Machine

variable {machine middle before after later : Machine}

/-- **What a machine may do at a time.** -/
inductive Step : Machine → Machine → Prop
  /-- Nothing that others rely on changes. -/
  | steady {before after : Machine} (h : before.Steady after) : Step before after
  /-- The context changes: a function or a handler is entered or left. -/
  | turn {machine : Machine} (context : Context) : Step machine { machine with context }
  /-- A function is put under a name. -/
  | define {machine : Machine} (name : String) (function : Function) :
    Step machine { machine with functions := machine.functions.insert name function }
  /-- A file that was not imported before is noted as imported. -/
  | note {machine : Machine} {found : String} (new : found ∉ machine.imported) :
    Step machine { machine with imported := machine.imported ++ [found] }
  /-- A file is written. -/
  | write {machine : Machine} (files : FileTree) :
    Step machine { machine with
      world := { machine.world with files, revisions := machine.world.revisions ++ [files] } }
  /-- The machine is stopped. -/
  | halt {machine : Machine} : Step machine { machine with running := false }

/-- A machine comes after another if steps lead to it. -/
def Onward : Machine → Machine → Prop := Relation.ReflTransGen Step

/-- No step takes the name of a function away. -/
theorem Step.functions (h : Step before after) {name : String}
    (known : before.functions.contains name = true) : after.functions.contains name = true := by
  cases h with
  | steady h =>
    have same : after.functions = before.functions := congrArg Footing.functions h.footing
    rw [same]
    exact known
  | define other function =>
    unfold Table.contains at known ⊢
    rw [Table.find?_insert]
    by_cases same : name = other
    · rw [if_pos same]
      rfl
    · rw [if_neg same]
      exact known
  | turn | note | write | halt => exact known

/-- A step notes at most one file, which was not noted before. -/
theorem Step.imported (h : Step before after) :
    ∃ files, after.imported = before.imported ++ files ∧ files.Nodup ∧
      List.Disjoint before.imported files := by
  have unchanged (same : after.imported = before.imported) :
      ∃ files, after.imported = before.imported ++ files ∧ files.Nodup ∧
        List.Disjoint before.imported files :=
    ⟨[], by rw [same, List.append_nil], List.nodup_nil, List.disjoint_nil_right _⟩
  cases h with
  | note new =>
    refine ⟨[_], rfl, List.nodup_singleton _, ?_⟩
    exact List.disjoint_singleton.mpr new
  | steady h => exact unchanged (congrArg Footing.imported h.footing)
  | turn | define | write | halt => exact unchanged rfl

namespace Onward

/-- Every machine comes after itself. -/
theorem refl (machine : Machine) : Onward machine machine := Relation.ReflTransGen.refl

/-- What comes after a later machine comes after an earlier one. -/
theorem trans (first : Onward before middle) (second : Onward middle after) :
    Onward before after := Relation.ReflTransGen.trans first second

/-- One step. -/
theorem of_step (h : Step before after) : Onward before after := Relation.ReflTransGen.single h

/-- **The names of functions last.** -/
theorem functions (h : Onward machine later) {name : String}
    (known : machine.functions.contains name = true) : later.functions.contains name = true := by
  induction h with
  | refl => exact known
  | tail _ step ih => exact step.functions ih

/-- **No file is noted twice**: what was imported stays at the head of the list, and what joins it
later is new. -/
theorem imported (h : Onward machine later) :
    ∃ files, later.imported = machine.imported ++ files ∧ files.Nodup ∧
      List.Disjoint machine.imported files := by
  induction h with
  | refl => exact ⟨[], (List.append_nil _).symm, List.nodup_nil, List.disjoint_nil_right _⟩
  | tail _ step ih =>
    obtain ⟨files, grown, distinct, apart⟩ := ih
    obtain ⟨more, further, distinct', apart'⟩ := step.imported
    rw [grown] at apart' further
    -- What the step notes is new against the start and against what was noted since.
    obtain ⟨apartBefore, apartFiles⟩ := List.disjoint_append_left.mp apart'
    refine ⟨files ++ more, ?_, ?_, ?_⟩
    · rw [further, List.append_assoc]
    · exact List.nodup_append'.mpr ⟨distinct, distinct', apartFiles⟩
    · exact List.disjoint_append_right.mpr ⟨apart, apartBefore⟩

end Onward

end Machine

/-! ## Everything goes by steps -/

open Machine

/-- The regime of evaluations that go by steps. -/
def Regime.onward : Regime where
  Ready _ := True
  May := Onward
  Cut := Onward
  ready_of_may _ := trivial
  trans := .trans
  cut_trans := .trans
  cut_of_may _ _ := .refl _
  orderly _ := .inl (.refl _)
  enlarge _ h _ := .of_step (.steady h.gentle.steady)

/-- **Whatever is evaluated goes by steps.** -/
theorem Regime.onward_lasting : Regime.onward.Lasting where
  broad :=
    { gentle := fun _ h _ => .of_step (.steady h.steady)
      cut_gentle := fun cut h => cut.trans (.of_step (.steady h.steady))
      hang := fun reached => reached.trans (.of_step (.steady (hang_steady _)))
      write := fun files _ => .of_step (.write files)
      define := fun _ _ => .of_step (.define _ _)
      note := fun _ new => .of_step (.note new)
      modules := fun _ => .inl (.refl _) }
  ready _ := trivial
  cut_iff := Iff.rfl
  turn _ context := .of_step (.turn context)
  restore _ name function := .of_step (.define name function)

/-- An evaluation whose fault stops the machine goes by steps if the evaluation does. -/
theorem Regime.onward_halting {α : Type} {action : Eval α} {machine : Machine}
    (h : Regime.onward.Obeys action machine) : Regime.onward.Obeys (halting action) machine := by
  unfold Obeys halting at *
  cases ended : action machine with
  | ok value after =>
    rw [ended] at h
    exact h
  | error stop after =>
    rw [ended] at h
    cases stop with
    | fault fault => exact Onward.trans h (.of_step .halt)
    | exhausted => exact h

end ReactiveScript
