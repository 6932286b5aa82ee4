import ReactiveScript.Proofs.Halting.Latch

/-! # Evaluations that end alike

Two machines may differ in the place of what was evaluated last and in nothing else; two faults may
differ in their places. Evaluations agree if, started on such machines that are running, they end
alike: with the same value, with faults of one kind and wording, or both cut off, and on such
machines again. Whatever is evaluated at a place of its own agrees with itself, because it forgets
where the machine was before (`Eval.Forgets`). -/

namespace ReactiveScript

open Eval

/-- The second machine is the first at another place. -/
def Machine.Elsewhere (machine other : Machine) : Prop :=
  ∃ span, other = movedTo machine span

/-- Every machine is where it is. -/
theorem Machine.Elsewhere.refl (machine : Machine) : machine.Elsewhere machine :=
  ⟨machine.context.current, rfl⟩

/-- A machine is elsewhere seen from where it is now. -/
theorem Machine.Elsewhere.symm {machine other : Machine} (h : machine.Elsewhere other) :
    other.Elsewhere machine := by
  obtain ⟨span, rfl⟩ := h
  exact ⟨machine.context.current, rfl⟩

namespace Fault

/-- Two faults of one kind and wording. -/
def Alike (first second : Fault) : Prop :=
  first.kind = second.kind ∧ first.message = second.message

/-- Being alike passes on. -/
theorem Alike.trans {first second third : Fault} (h : Alike first second)
    (h' : Alike second third) : Alike first third :=
  ⟨h.1.trans h'.1, h.2.trans h'.2⟩

/-- Faults are alike either way round. -/
theorem Alike.symm {first second : Fault} (h : Alike first second) : Alike second first :=
  ⟨h.1.symm, h.2.symm⟩

/-- Blaming a place changes neither the kind nor the wording. -/
theorem alike_orAt (fault : Fault) (span : Span) : Alike fault (fault.orAt span) := by
  unfold orAt
  split
  · exact ⟨rfl, rfl⟩
  · exact ⟨rfl, rfl⟩

/-- Faults remain alike whatever places are blamed for them. -/
theorem Alike.orAt {first second : Fault} (h : Alike first second) (span other : Span) :
    Alike (first.orAt span) (second.orAt other) :=
  (alike_orAt first span).symm.trans (h.trans (alike_orAt second other))

end Fault

/-- **Two evaluations end alike**: with one value, with faults of one kind and wording, or both cut
off, and on machines that differ in the current place at most. -/
inductive EndsAlike {α : Type} :
    EStateM.Result Stop Machine α → EStateM.Result Stop Machine α → Prop
  | value {value : α} {after other : Machine} (place : after.Elsewhere other) :
    EndsAlike (.ok value after) (.ok value other)
  | fault {fault fault' : Fault} {after other : Machine} (alike : fault.Alike fault')
    (place : after.Elsewhere other) :
    EndsAlike (.error (.fault fault) after) (.error (.fault fault') other)
  | cutOff {after other : Machine} (place : after.Elsewhere other) :
    EndsAlike (.error .exhausted after) (.error .exhausted other)

namespace EndsAlike

variable {α β : Type} {machine other : Machine}

/-- Every ending is like itself. -/
theorem refl (result : EStateM.Result Stop Machine α) : EndsAlike result result := by
  cases result with
  | ok value after => exact .value (.refl after)
  | error stop after =>
    cases stop with
    | fault fault => exact .fault ⟨rfl, rfl⟩ (.refl after)
    | exhausted => exact .cutOff (.refl after)

/-- Endings are alike either way round. -/
theorem symm {result result' : EStateM.Result Stop Machine α} (h : EndsAlike result result') :
    EndsAlike result' result := by
  cases h with
  | value place => exact .value place.symm
  | fault alike place => exact .fault alike.symm place.symm
  | cutOff place => exact .cutOff place.symm

/-- Evaluations in a row end alike if the first ones do and the second ones do from there. -/
theorem bind {first first' : Eval α} {next next' : α → Eval β}
    (h : EndsAlike (first machine) (first' other))
    (rest : ∀ {value after}, first machine = .ok value after → ∀ span,
      EndsAlike (next value after) (next' value (movedTo after span))) :
    EndsAlike ((first >>= next) machine) ((first' >>= next') other) := by
  simp only [Bind.bind, EStateM.bind]
  generalize first machine = result at h rest
  generalize first' other = result' at h
  cases h with
  | value place =>
    obtain ⟨span, rfl⟩ := place
    exact rest rfl span
  | fault alike place => exact .fault alike place
  | cutOff place => exact .cutOff place

/-- Endings remain alike whatever places are blamed for faults. -/
theorem blaming {action action' : Eval α} (h : EndsAlike (action machine) (action' other))
    (span span' : Span) :
    EndsAlike (Eval.blaming span action machine) (Eval.blaming span' action' other) := by
  unfold Eval.blaming
  generalize action machine = result at h
  generalize action' other = result' at h
  cases h with
  | value place => exact .value place
  | fault alike place => exact .fault (alike.orAt span span') place
  | cutOff place => exact .cutOff place

/-- Blaming a place on one side only. -/
theorem blaming_right {action action' : Eval α} (h : EndsAlike (action machine) (action' other))
    (span : Span) : EndsAlike (action machine) (Eval.blaming span action' other) := by
  unfold Eval.blaming
  generalize action machine = result at h
  generalize action' other = result' at h
  cases h with
  | value place => exact .value place
  | fault alike place => exact .fault (alike.trans (Fault.alike_orAt _ span)) place
  | cutOff place => exact .cutOff place

/-- Blaming a place for faults of the first evaluation only. -/
theorem blaming_bind (action : Eval α) (next : α → Eval β) (span : Span) :
    EndsAlike ((action >>= next) machine) ((Eval.blaming span action >>= next) machine) := by
  simp only [Bind.bind, EStateM.bind, Eval.blaming]
  cases action machine with
  | ok value after => exact .refl _
  | error stop after =>
    cases stop with
    | fault fault => exact .fault (fault.alike_orAt span) (.refl after)
    | exhausted => exact .refl _

end EndsAlike

namespace Eval

/-- A machine at a place has the scopes that it had. -/
@[simp] theorem movedTo_scopes (machine : Machine) (span : Span) :
    (movedTo machine span).scopes = machine.scopes := rfl

/-- A machine is where it was moved last. -/
@[simp] theorem movedTo_movedTo (machine : Machine) (span place : Span) :
    movedTo (movedTo machine span) place = movedTo machine place := rfl

/-- **Evaluations that forget** where a machine that is running was before. -/
def Forgets {α : Type} (action : Eval α) : Prop :=
  ∀ machine : Machine, machine.running = true → ∀ place,
    action (movedTo machine place) = action machine

namespace Forgets

variable {α β : Type} {run : Runner} {rounds : Nat}

/-- Whatever follows an evaluation that forgets. -/
theorem bind {first : Eval α} (h : first.Forgets) (next : α → Eval β) :
    Forgets (first >>= next) := by
  intro machine running place
  simp only [Bind.bind, EStateM.bind, h machine running place]

/-- What is evaluated at a place of its own forgets the place before. -/
theorem located (span : Span) (idle : α) (action : Eval α) :
    Forgets (Eval.located span idle action) := by
  intro machine running place
  have still : (movedTo machine place).running = true := running
  rw [located_of_running running, located_of_running still]
  rfl

/-- Expressions forget. -/
theorem expr (expression : Expr) : Forgets (Eval.expr run rounds expression) := by
  cases expression with
  | range span first last step inclusive => cases step <;> exact located _ _ _
  | _ => exact located _ _ _

/-- Statements forget. -/
theorem stmt (statement : Stmt) : Forgets (Eval.stmt run rounds statement) := by
  cases statement with
  | declaration span type name value => cases value <;> exact located _ _ _
  | leave span value => cases value <;> exact located _ _ _
  | branch span condition thenBody elseBody => cases elseBody <;> exact located _ _ _
  | choice span subject cases fallback => cases fallback <;> exact located _ _ _
  | _ => exact located _ _ _

end Forgets

end Eval

/-- **Evaluations agree** if they end alike wherever the machine is, as long as it is running. -/
def Agree {α : Type} (first second : Eval α) : Prop :=
  ∀ machine span, machine.running = true →
    EndsAlike (first machine) (second (movedTo machine span))

namespace Agree

variable {α β : Type} {first second : Eval α}

/-- Evaluations agree either way round. -/
theorem symm (h : Agree first second) : Agree second first := by
  intro machine span running
  have moved : (movedTo machine span).running = true := running
  exact (h (movedTo machine span) machine.context.current moved).symm

/-- A value that is given at once. -/
theorem pure (value : α) : Agree (Pure.pure value) (Pure.pure value) :=
  fun _ span _ => .value ⟨span, rfl⟩

/-- An evaluation that is cut off at once. -/
theorem exhausted : Agree (Eval.exhausted : Eval α) Eval.exhausted :=
  fun _ span _ => .cutOff ⟨span, rfl⟩

/-- **One evaluation after the other**, where the first leaves the machine running. -/
theorem bind {next next' : α → Eval β} (keeps : ∀ machine, Regime.latch.Obeys first machine)
    (h : Agree first second)
    (rest : ∀ value, Agree (next value) (next' value)) :
    Agree (first >>= next) (second >>= next') := by
  intro machine span running
  refine (h machine span running).bind fun {value after} ran place => ?_
  have kept := keeps machine
  unfold Regime.Obeys at kept
  rw [ran] at kept
  have same : after.running = machine.running := kept
  exact rest value after place (same.trans running)

/-- Evaluations that agree do so at places of their own. -/
theorem located {span span' : Span} {idle : α} (h : Agree first second) :
    Agree (Eval.located span idle first) (Eval.located span' idle second) := by
  intro machine place running
  have still : (movedTo machine place).running = true := running
  rw [located_of_running running, located_of_running still]
  exact (h (movedTo machine span) span' running).blaming span span'

/-- One of the evaluations may stand at a place of its own. -/
theorem located_right {span : Span} {idle : α} (h : Agree first second) :
    Agree first (Eval.located span idle second) := by
  intro machine place running
  have still : (movedTo machine place).running = true := running
  rw [located_of_running still]
  exact (h machine span running).blaming_right span

/-- The other one may stand at a place of its own, too. -/
theorem located_left {span : Span} {idle : α} (h : Agree first second) :
    Agree (Eval.located span idle first) second :=
  h.symm.located_right.symm

/-- What forgets where the machine was agrees with itself. -/
theorem of_forgets (h : first.Forgets) : Agree first first := by
  intro machine place running
  rw [h machine running place]
  exact .refl _

/-- What follows an expression agrees if it does for every value. -/
theorem after_expr {budget : Nat} (expression : Expr) {next next' : Value → Eval β}
    (h : ∀ value, Agree (next value) (next' value)) :
    Agree (Eval.expr (bodyWithin budget) budget expression >>= next)
      (Eval.expr (bodyWithin budget) budget expression >>= next') :=
  bind (Regime.latch_exprWithin budget expression) (of_forgets (.expr expression)) h

/-- A statement that leaves ends what it stands in; any other is followed by the rest. -/
theorem unlessLeaves {first second : Eval Flow} {next next' : Flow → Eval Flow}
    (keeps : ∀ machine, Regime.latch.Obeys first machine) (h : Agree first second)
    (leaves : ∀ value, next (.leave value) = Pure.pure (.leave value))
    (leaves' : ∀ value, next' (.leave value) = Pure.pure (.leave value))
    (rest : ∀ value, Agree (next (.next value)) (next' (.next value))) :
    Agree (first >>= next) (second >>= next') := by
  refine bind keeps h fun flow => ?_
  cases flow with
  | leave value =>
    rw [leaves, leaves']
    exact pure _
  | next value => exact rest value

/-- Statements in order agree with themselves. -/
theorem block (budget : Nat) (statements : List Stmt) :
    Agree (Eval.block (bodyWithin budget) budget statements)
      (Eval.block (bodyWithin budget) budget statements) := by
  induction statements with
  | nil => exact pure _
  | cons first rest ih =>
    rw [Eval.block]
    exact unlessLeaves (Regime.latch_stmtWithin budget first) (of_forgets (.stmt first))
      (fun _ => rfl) (fun _ => rfl) fun _ => ih

section Loops

variable {body body' : Eval Flow} (keeps : ∀ machine, Regime.latch.Obeys body machine)
  (h : Agree body body')

include keeps h

/-- Bodies that agree do so a number of times. -/
theorem repeatBody (count : Nat) : Agree (Eval.repeatBody body count)
    (Eval.repeatBody body' count) := by
  induction count with
  | zero => exact pure _
  | succ count ih => exact unlessLeaves keeps h (fun _ => rfl) (fun _ => rfl) fun _ => ih

/-- **Loops agree if their tests and bodies do**, however often they go round. -/
theorem loopWhile {test test' : Eval Bool} (tests : Agree test test')
    (keepsTest : ∀ machine, Regime.latch.Obeys test machine) (rounds : Nat) :
    Agree (Eval.loopWhile test body rounds) (Eval.loopWhile test' body' rounds) := by
  induction rounds with
  | zero => exact exhausted
  | succ rounds ih =>
    refine bind keepsTest tests fun holds => ?_
    cases holds with
    | true => exact unlessLeaves keeps h (fun _ => rfl) (fun _ => rfl) fun _ => ih
    | false => exact pure _

end Loops

end Agree

end ReactiveScript
