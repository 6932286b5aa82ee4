import ReactiveScript.Proofs.Evaluation.Program
import ReactiveScript.Proofs.Regime.Rule

/-! # Expressions under a regime

Apart from calls an expression reads the machine and adds containers, which every regime allows. So
an expression obeys a regime wherever calls do, and an expression without calls obeys every regime
(`Regime.expr`). That the operations on what the operands give come to an end is seen from what is
known of their values: these are in the store, and no container of it is inside itself. -/

namespace ReactiveScript

open Eval

namespace Expr

mutual

/-- Whether all calls in an expression are by names that are admitted. -/
def callsOnly (admits : String → Bool) : Expr → Bool
  | .literal .. => true
  | .var .. => true
  | .binary _ _ left right => left.callsOnly admits && right.callsOnly admits
  | .logical _ _ left right => left.callsOnly admits && right.callsOnly admits
  | .comparison _ _ left right => left.callsOnly admits && right.callsOnly admits
  | .unary _ _ operand => operand.callsOnly admits
  | .cast _ _ operand => operand.callsOnly admits
  | .call _ name arguments => admits name && allCallOnly admits arguments
  | .range _ first last none _ => first.callsOnly admits && last.callsOnly admits
  | .range _ first last (some step) _ =>
    first.callsOnly admits && (last.callsOnly admits && step.callsOnly admits)
  | .list _ items => allCallOnly admits items
  | .dict _ entries => entriesCallOnly admits entries
  | .index _ target position => target.callsOnly admits && position.callsOnly admits

/-- Whether all calls in some expressions are by names that are admitted. -/
def allCallOnly (admits : String → Bool) : List Expr → Bool
  | [] => true
  | first :: rest => first.callsOnly admits && allCallOnly admits rest

/-- Whether all calls in the entries of a dictionary are by names that are admitted. -/
def entriesCallOnly (admits : String → Bool) : List (Expr × Expr) → Bool
  | [] => true
  | (key, value) :: rest =>
    key.callsOnly admits && (value.callsOnly admits && entriesCallOnly admits rest)

end

/-- Whether there is no call in an expression. -/
def isCallFree (expression : Expr) : Bool := expression.callsOnly fun _ => false

/-- Whether there is no call of `append` in an expression. -/
def isAppendFree (expression : Expr) : Bool := expression.callsOnly (· != "append")

end Expr

/-- A name behind a label is not that of `append`. -/
theorem labelled_ne_append (label name : String) : labelled label name ≠ "append" := by
  intro same
  have mark : '_' ∈ (labelled label name).toList := by simp [labelled]
  rw [same] at mark
  revert mark
  decide

/-- A call means `append` only by its own name. -/
theorem Machine.resolve_ne_append {name : String} (other : name ≠ "append") (machine : Machine) :
    machine.resolve name ≠ "append" := by
  unfold resolve
  split
  · split
    · exact labelled_ne_append _ _
    · exact other
  · exact other

namespace Regime

variable {R : Regime} {machine after : Machine} {run : Runner} {rounds : Nat}

/-- **Calls obey a regime.** A function is looked up before its arguments are evaluated, and called
on the machine after that. -/
structure Calls (R : Regime) (run : Runner) (rounds : Nat) : Prop where
  /-- The built-in functions obey. -/
  native {machine after : Machine} {name : String} {native : Native} {values : List Value} :
    R.Ready machine → machine.natives.find? name = some native → R.May machine after →
    R.Has after values → R.Bears after (name ≠ "append") →
    R.Obeys (returning (Eval.native (settle run rounds) native ⟨name, values⟩)) after
  /-- The declared functions obey. -/
  invoke {machine after : Machine} {name : String} {function : Function} {values : List Value} :
    R.Ready machine → machine.functions.find? name = some function → R.May machine after →
    R.Has after values → R.Obeys (Eval.invoke run name function values) after

/-- There are no calls, or calls obey a regime and none is of `append` where evaluations may not be
cut off. -/
def Admits (R : Regime) (run : Runner) (rounds : Nat) (machine : Machine)
    (callFree appendFree : Bool) : Prop :=
  callFree = true ∨ R.Calls run rounds ∧ R.Bears machine (appendFree = true)

namespace Admits

variable {first second first' second' : Bool}

/-- What holds of two parts holds of the first. -/
theorem left (h : R.Admits run rounds machine (first && second) (first' && second')) :
    R.Admits run rounds machine first first' :=
  h.imp (fun free => (Bool.and_eq_true_iff.mp free).1) fun h => ⟨h.1, h.2.left⟩

/-- What holds of two parts holds of the second. -/
theorem right (h : R.Admits run rounds machine (first && second) (first' && second')) :
    R.Admits run rounds machine second second' :=
  h.imp (fun free => (Bool.and_eq_true_iff.mp free).2) fun h => ⟨h.1, h.2.right⟩

/-- What holds on a machine holds later. -/
theorem later (h : R.Admits run rounds machine first first') (reached : R.May machine after) :
    R.Admits run rounds after first first' := h.imp_right fun h => ⟨h.1, h.2.later reached⟩

end Admits

/-- The bodies that are run take single steps on the memory, or evaluations may be cut off
anywhere. -/
def Trusts (R : Regime) (run : Runner) : Prop :=
  (∀ machine, R.Cut machine machine) ∨ Discipline.soundness.Runs run

/-- Where bodies are trusted, what follows from it on machines in order is borne. -/
theorem Trusts.bears {known : Prop} (trusts : R.Trusts run) (ready : R.Ready machine)
    (h : Discipline.soundness.Runs run → machine.Orderly → known) : R.Bears machine known := by
  rcases trusts with cut | runs
  · exact .inl (cut machine)
  · exact (R.orderly ready).imp_right (h runs)

section Operands

variable {β : Type} (trusts : R.Trusts run)

include trusts

/-- The value of an expression is in the store that the evaluation leads to. -/
theorem evaluating {expression : Expr} {next : Value → Eval β} (ready : R.Ready machine)
    (obeys : R.Obeys (Eval.expr run rounds expression) machine)
    (h : ∀ value {after}, R.Ready after → R.May machine after →
      R.Bears after (machine.Advances after) → R.Has after [value] →
      R.Obeys (next value) after) :
    R.Obeys (Eval.expr run rounds expression >>= next) machine := by
  have keeps := trusts.bears ready fun runs orderly =>
    Discipline.soundness.expr runs rounds expression orderly.good
  refine obeys.knowing keeps fun value after ready reached known => ?_
  exact h value ready reached (known.imp_right And.left) (.of_bears (known.imp_right And.right))

/-- The values of expressions in order are in the store that the evaluation leads to. -/
theorem evaluatingAll {expressions : List Expr} {next : List Value → Eval β}
    (ready : R.Ready machine) (obeys : R.Obeys (Eval.exprs run rounds expressions) machine)
    (h : ∀ values {after}, R.Ready after → R.May machine after → R.Has after values →
      R.Obeys (next values) after) :
    R.Obeys (Eval.exprs run rounds expressions >>= next) machine := by
  have keeps := trusts.bears ready fun runs orderly =>
    Discipline.soundness.exprs runs rounds expressions orderly.good
  refine obeys.knowing keeps fun values after ready reached known => ?_
  exact h values ready reached (known.imp_right And.right)

/-- The keys and values of a dictionary that is written out are in the store. -/
theorem evaluatingEntries {entries : List (Expr × Expr)} {next : List (Value × Value) → Eval β}
    (ready : R.Ready machine) (obeys : R.Obeys (Eval.entryExprs run rounds [] entries) machine)
    (h : ∀ values {after}, R.Ready after → R.Has after (entryValues values) →
      R.Obeys (next values) after) :
    R.Obeys (Eval.entryExprs run rounds [] entries >>= next) machine := by
  have first : ∀ value ∈ entryValues [], machine.store.Holds value := by simp [entryValues]
  have keeps := trusts.bears ready fun runs orderly =>
    Discipline.soundness.entryExprs runs rounds entries orderly.good first
  refine obeys.knowing keeps fun values after ready _ known => ?_
  exact h values ready (known.imp_right And.right)

/-- An operator on two operands. -/
theorem operands {left right : Expr} {next : Value → Value → Eval β} (ready : R.Ready machine)
    (first : R.Obeys (Eval.expr run rounds left) machine)
    (second : ∀ {after}, R.Ready after → R.May machine after →
      R.Obeys (Eval.expr run rounds right) after)
    (h : ∀ x y {after}, R.Ready after → R.Has after [x, y] → R.Obeys (next x y) after) :
    R.Obeys (do
      let x ← Eval.expr run rounds left
      let y ← Eval.expr run rounds right
      next x y) machine := by
  refine evaluating trusts ready first fun x middle ready reached _ has => ?_
  refine evaluating trusts ready (second ready reached) fun y after ready further steps has' => ?_
  exact h x y ready ((has.later further steps).append has')

end Operands

/-- The bound or step of a range. -/
theorem rangePart {β : Type} {role : String} {operand : Eval Value} {next : Int64 → Eval β}
    (h : R.Obeys operand machine)
    (rest : ∀ n {after}, R.Ready after → R.May machine after → R.Obeys (next n) after) :
    R.Obeys (do let n ← rangeBound role (← operand); next n) machine := by
  refine h.andThen fun value _ ready reached => ?_
  unfold rangeBound
  cases value.asInt? with
  | some n => exact rest n ready reached
  | none => exact Obeys.fail ready

mutual

/-- **Every expression obeys a regime** that calls obey, and every regime if it has no calls. -/
theorem expr (trusts : R.Trusts run) : ∀ (expression : Expr) {machine : Machine},
    R.Ready machine →
    R.Admits run rounds machine expression.isCallFree expression.isAppendFree →
    R.Obeys (Eval.expr run rounds expression) machine
  | .literal span value, machine, ready, _ => by
    rw [Eval.expr]
    exact Obeys.located ready fun ready _ => Obeys.pure ready
  | .var span name, machine, ready, _ => by
    rw [Eval.expr]
    exact Obeys.located ready fun ready _ => Obeys.reading ready
  | .binary span op left right, machine, ready, admits => by
    simp only [Expr.isCallFree, Expr.isAppendFree, Expr.callsOnly] at admits
    rw [Eval.expr]
    refine Obeys.located ready fun ready moved => ?_
    have admits := admits.later moved
    refine operands trusts ready (expr trusts left ready admits.left)
      (fun ready reached => expr trusts right ready (admits.right.later reached)) ?_
    exact fun x y _ ready has => Obeys.making (.binary op x y) ready has
  | .logical span op left right, machine, ready, admits => by
    simp only [Expr.isCallFree, Expr.isAppendFree, Expr.callsOnly] at admits
    rw [Eval.expr]
    refine Obeys.located ready fun ready moved => ?_
    have admits := admits.later moved
    refine operands trusts ready (expr trusts left ready admits.left)
      (fun ready reached => expr trusts right ready (admits.right.later reached)) ?_
    exact fun x y _ ready _ => Obeys.ofExcept ready
  | .comparison span op left right, machine, ready, admits => by
    simp only [Expr.isCallFree, Expr.isAppendFree, Expr.callsOnly] at admits
    rw [Eval.expr]
    refine Obeys.located ready fun ready moved => ?_
    have admits := admits.later moved
    refine operands trusts ready (expr trusts left ready admits.left)
      (fun ready reached => expr trusts right ready (admits.right.later reached)) ?_
    intro x y after ready _
    refine Obeys.looking_bind ready ((R.orderly ready).imp_right fun orderly => ?_)
      fun _ _ => Obeys.pure ready
    exact orderly.acyclic.compareValues_ne_exhausted op x y
  | .unary span op operand, machine, ready, admits => by
    simp only [Expr.isCallFree, Expr.isAppendFree, Expr.callsOnly] at admits
    rw [Eval.expr]
    refine Obeys.located ready fun ready moved => ?_
    refine (expr trusts operand ready (admits.later moved)).andThen fun value _ ready _ => ?_
    exact Obeys.reading ready
  | .cast span target operand, machine, ready, admits => by
    simp only [Expr.isCallFree, Expr.isAppendFree, Expr.callsOnly] at admits
    rw [Eval.expr]
    refine Obeys.located ready fun ready moved => ?_
    refine evaluating trusts ready (expr trusts operand ready (admits.later moved)) ?_
    exact fun value _ ready _ _ has => Obeys.making (.cast target value) ready has
  | .call span name arguments, machine, ready, admits => by
    simp only [Expr.isCallFree, Expr.isAppendFree, Expr.callsOnly] at admits
    obtain ⟨calls, bears⟩ := admits.resolve_left Bool.false_ne_true
    have other : R.Bears machine (name ≠ "append") :=
      bears.left.imp_right fun other => bne_iff_ne.mp other
    rw [Eval.expr]
    refine Obeys.located ready fun {moved} ready entered => Obeys.get ?_
    have values := exprs trusts arguments ready (.inr ⟨calls, bears.right.later entered⟩)
    dsimp only
    -- The function is looked up before the arguments are evaluated, and called after that.
    split
    · rename_i native found
      refine evaluatingAll trusts ready values fun values _ _ reached has => ?_
      refine calls.native ready found reached has ?_
      exact (other.later (R.trans entered reached)).imp_right fun other =>
        moved.resolve_ne_append other
    · split
      · rename_i function found
        refine evaluatingAll trusts ready values fun values _ _ reached has => ?_
        exact calls.invoke ready found reached has
      · exact Obeys.fail ready
  | .range span first last none inclusive, machine, ready, admits => by
    simp only [Expr.isCallFree, Expr.isAppendFree, Expr.callsOnly] at admits
    rw [Eval.expr]
    refine Obeys.located ready fun ready moved => ?_
    have admits := admits.later moved
    refine rangePart (expr trusts first ready admits.left) fun start _ ready reached => ?_
    refine rangePart (expr trusts last ready (admits.right.later reached)) ?_
    exact fun finish _ ready _ => Obeys.making (.range start finish 1 inclusive) ready .nil
  | .range span first last (some step) inclusive, machine, ready, admits => by
    simp only [Expr.isCallFree, Expr.isAppendFree, Expr.callsOnly] at admits
    rw [Eval.expr]
    refine Obeys.located ready fun ready moved => ?_
    have admits := admits.later moved
    refine rangePart (expr trusts first ready admits.left) fun start _ ready reached => ?_
    have admits := admits.right.later reached
    refine rangePart (expr trusts last ready admits.left) fun finish _ ready reached => ?_
    refine rangePart (expr trusts step ready (admits.right.later reached)) ?_
    exact fun size _ ready _ => Obeys.making (.range start finish size inclusive) ready .nil
  | .list span items, machine, ready, admits => by
    simp only [Expr.isCallFree, Expr.isAppendFree, Expr.callsOnly] at admits
    rw [Eval.expr]
    refine Obeys.located ready fun ready moved => ?_
    refine evaluatingAll trusts ready (exprs trusts items ready (admits.later moved)) ?_
    exact fun values _ ready _ has => Obeys.making (.list values) ready has
  | .dict span entries, machine, ready, admits => by
    simp only [Expr.isCallFree, Expr.isAppendFree, Expr.callsOnly] at admits
    rw [Eval.expr]
    refine Obeys.located ready fun ready moved => ?_
    refine evaluatingEntries trusts ready (entryExprs trusts entries ready (admits.later moved)) ?_
    exact fun values _ ready has => Obeys.making (.dict values) ready has
  | .index span target position, machine, ready, admits => by
    simp only [Expr.isCallFree, Expr.isAppendFree, Expr.callsOnly] at admits
    rw [Eval.expr]
    refine Obeys.located ready fun ready moved => ?_
    have admits := admits.later moved
    refine operands trusts ready (expr trusts target ready admits.left)
      (fun ready reached => expr trusts position ready (admits.right.later reached)) ?_
    exact fun x y _ ready has => Obeys.making (.index x y) ready has

/-- Expressions in order obey the regime. -/
theorem exprs (trusts : R.Trusts run) : ∀ (expressions : List Expr) {machine : Machine},
    R.Ready machine →
    R.Admits run rounds machine (Expr.allCallOnly (fun _ => false) expressions)
      (Expr.allCallOnly (· != "append") expressions) →
    R.Obeys (Eval.exprs run rounds expressions) machine
  | [], machine, ready, _ => by
    rw [Eval.exprs]
    exact Obeys.pure ready
  | first :: rest, machine, ready, admits => by
    simp only [Expr.allCallOnly] at admits
    rw [Eval.exprs]
    refine (expr trusts first ready admits.left).andThen fun value _ ready reached => ?_
    refine (exprs trusts rest ready (admits.right.later reached)).andThen fun values _ ready _ => ?_
    exact Obeys.pure ready

/-- The entries of a dictionary obey the regime. -/
theorem entryExprs (trusts : R.Trusts run) : ∀ (entries : List (Expr × Expr))
    {before : List (Value × Value)} {machine : Machine}, R.Ready machine →
    R.Admits run rounds machine (Expr.entriesCallOnly (fun _ => false) entries)
      (Expr.entriesCallOnly (· != "append") entries) →
    R.Obeys (Eval.entryExprs run rounds before entries) machine
  | [], before, machine, ready, _ => by
    rw [Eval.entryExprs]
    exact Obeys.pure ready
  | (key, value) :: rest, before, machine, ready, admits => by
    simp only [Expr.entriesCallOnly] at admits
    rw [Eval.entryExprs]
    refine (expr trusts key ready admits.left).andThen fun x _ ready reached => ?_
    have admits := admits.right.later reached
    refine (expr trusts value ready admits.left).andThen fun y after ready reached => ?_
    -- The keys are compared, which comes to an end where none has a container inside itself.
    refine Obeys.looking_bind ready ((R.orderly ready).imp_right fun orderly => ?_) ?_
    · have told := Store.isSome_setEntry y (orderly.acyclic.isCyclic_view x)
        fun entry (_ : entry ∈ before) => orderly.acyclic.isCyclic_view entry.1
      exact ended_ne_exhausted told
    · exact fun set _ => entryExprs trusts rest ready (admits.right.later reached)

end

end Regime

end ReactiveScript
