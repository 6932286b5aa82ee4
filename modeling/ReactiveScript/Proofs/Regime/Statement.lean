import ReactiveScript.Proofs.Regime.Import

/-! # Statements under a broad regime

Every statement obeys a broad regime that calls obey, provided that it is bounded or stands where
evaluations may be cut off (`Regime.Broad.stmt`). A call obeys a regime if the body obeys another
one from which the first follows on leaving the function (`Regime.Broad.invoke`). -/

namespace ReactiveScript

open Eval

namespace Regime

variable {R : Regime} {machine : Machine} {run : Runner} {rounds : Nat}

/-- An evaluation that is followed by the next statement. -/
theorem Obeys.goOn {α : Type} {action : Eval α} (h : R.Obeys action machine) :
    R.Obeys (do let _ ← action; return Flow.next .void) machine :=
  h.andThen fun _ _ ready _ => Obeys.pure ready

/-- An evaluation whose value is not looked at. -/
theorem Obeys.discards {α : Type} {action : Eval α} (h : R.Obeys action machine) :
    R.Obeys (discard action) machine :=
  h.andThen fun _ _ ready _ => Obeys.pure ready

/-- A statement that leaves ends what it stands in; any other is followed by the rest. -/
theorem Obeys.unlessLeaves {first : Eval Flow} {next : Flow → Eval Flow}
    (h : R.Obeys first machine) (leaves : ∀ value, next (.leave value) = Pure.pure (.leave value))
    (rest : ∀ value {after}, R.Ready after → R.May machine after →
      R.Obeys (next (.next value)) after) :
    R.Obeys (first >>= next) machine := by
  refine h.andThen fun flow _ ready reached => ?_
  cases flow with
  | leave value =>
    rw [leaves]
    exact Obeys.pure ready
  | next value => exact rest value ready reached

/-- What was chosen is the end of a choice; if there is nothing, what stands for it follows. -/
theorem Obeys.unlessChosen {first : Eval (Option Flow)} {next : Option Flow → Eval Flow}
    (h : R.Obeys first machine) (chosen : ∀ flow, next (some flow) = Pure.pure flow)
    (otherwise : ∀ {after}, R.Ready after → R.May machine after → R.Obeys (next none) after) :
    R.Obeys (first >>= next) machine := by
  refine h.andThen fun found _ ready reached => ?_
  cases found with
  | some flow =>
    rw [chosen]
    exact Obeys.pure ready
  | none => exact otherwise ready reached

/-- What a loop goes through. -/
theorem Obeys.itemsOf (value : Value) (ready : R.Ready machine) :
    R.Obeys (Eval.itemsOf value) machine := by
  cases value with
  | list handle => exact Obeys.get (Obeys.pure ready)
  | dict handle => exact Obeys.get (Obeys.pure ready)
  | text s => exact Obeys.pure ready
  | _ => exact Obeys.fail ready

/-- Where calls obey, expressions do. -/
theorem Calls.expr (calls : R.Calls run rounds) (trusts : R.Trusts run) (expression : Expr)
    (ready : R.Ready machine) (bears : R.Bears machine (expression.isAppendFree = true)) :
    R.Obeys (Eval.expr run rounds expression) machine :=
  Regime.expr trusts expression ready (.inr ⟨calls, bears⟩)

/-- The test of a loop or a branch, with what follows. -/
theorem test {β : Type} {next : Bool → Eval β} (calls : R.Calls run rounds) (trusts : R.Trusts run)
    (condition : Expr) (ready : R.Ready machine)
    (bears : R.Bears machine (condition.isAppendFree = true))
    (h : ∀ holds {after}, R.Ready after → R.May machine after → R.Obeys (next holds) after) :
    R.Obeys (do
      let holds ← truthy (← Eval.expr run rounds condition)
      next holds) machine :=
  (calls.expr trusts condition ready bears).andThen fun _ _ ready reached =>
    Obeys.get (h _ ready reached)

section Loops

variable {body : Eval Flow}

/-- A loop with a condition, where evaluations may be cut off. -/
theorem loopWhile {test : Eval Bool}
    (tests : ∀ {machine}, R.Ready machine → R.Cut machine machine → R.Obeys test machine)
    (bodies : ∀ {machine}, R.Ready machine → R.Cut machine machine → R.Obeys body machine)
    (rounds : Nat) (ready : R.Ready machine) (cut : R.Cut machine machine) :
    R.Obeys (Eval.loopWhile test body rounds) machine := by
  induction rounds generalizing machine with
  | zero => exact Obeys.exhausted cut
  | succ rounds ih =>
    refine (tests ready cut).andThen fun holds middle ready reached => ?_
    have cut := R.cut_of_may reached cut
    split
    · refine (bodies ready cut).unlessLeaves (fun _ => rfl) fun _ after ready further => ?_
      exact ih ready (R.cut_of_may further cut)
    · exact Obeys.pure ready

/-- A loop that runs its body a number of times, where evaluations may be cut off. -/
theorem repeatBody
    (bodies : ∀ {machine}, R.Ready machine → R.Cut machine machine → R.Obeys body machine)
    (count : Nat) (ready : R.Ready machine) (cut : R.Cut machine machine) :
    R.Obeys (Eval.repeatBody body count) machine := by
  induction count generalizing machine with
  | zero => exact Obeys.pure ready
  | succ count ih =>
    refine (bodies ready cut).unlessLeaves (fun _ => rfl) fun _ after ready reached => ?_
    exact ih ready (R.cut_of_may reached cut)

/-- A loop whose body runs a number of times before the first test, where evaluations may be cut
off. -/
theorem prerolled {test : Eval Bool} {next : Flow → Eval Flow}
    (tests : ∀ {machine}, R.Ready machine → R.Cut machine machine → R.Obeys test machine)
    (bodies : ∀ {machine}, R.Ready machine → R.Cut machine machine → R.Obeys body machine)
    (count : Nat) (leaves : ∀ value, next (.leave value) = Pure.pure (.leave value))
    (loops : ∀ value, next (.next value) = Eval.loopWhile test body rounds)
    (ready : R.Ready machine) (cut : R.Cut machine machine) :
    R.Obeys (Eval.repeatBody body count >>= next) machine := by
  refine (repeatBody bodies count ready cut).unlessLeaves leaves fun value _ ready reached => ?_
  rw [loops value]
  exact loopWhile tests bodies rounds ready (R.cut_of_may reached cut)

end Loops

namespace Broad

variable (broad : R.Broad) {value : Value}

include broad

/-! ## Variables, watches and elements -/

/-- A change of the variables that comes to an end and takes single steps on the memory. -/
theorem scoping {change : ScopeStack → Alloc (Value × ScopeStack)} (ready : R.Ready machine)
    (ends : R.Bears machine ((change machine.scopes).Ends machine.store fun _ _ => True))
    (keeps : R.Bears machine
      ((Eval.scoping change).Keeps Machine.Advances machine fun after => after.store.Holds)) :
    R.Obeys (Eval.scoping change) machine := by
  refine Obeys.scoping ready (ends.imp_right Alloc.Ends.ne_exhausted) ?_
  intro stored scopes store ran
  refine broad.gentle ready (.of_eq rfl rfl rfl) ?_
  refine (Bears.and (R.orderly ready) (Bears.and ends keeps)).imp_right ?_
  rintro ⟨orderly, ends, keeps⟩
  have steps := (keeps.of_eq_ok (scoping_of_run ran)).1
  exact ⟨⟨steps.hostFree, steps.sound⟩, ((ends.of_ok ran).2.1 orderly.allWhole).acyclic⟩

/-- A declaration. -/
theorem declare (name : String) (type : Ty) (ready : R.Ready machine)
    (has : R.Has machine [value]) : R.Obeys (Eval.declare name value type) machine := by
  have known := (known ready has).imp_right fun known =>
    And.intro known.1 (List.forall_mem_singleton.mp known.2)
  refine broad.scoping ready (known.imp_right ?_) (known.imp_right ?_)
  · exact fun ⟨orderly, held⟩ => machine.scopes.declare_ends name type (orderly.allWhole _ held)
  · exact fun ⟨orderly, held⟩ => Discipline.soundness.declare orderly.good held

/-- A declaration whose value is not looked at, with what follows. -/
theorem declaring {β : Type} {next : Unit → Eval β} (name : String) (type : Ty)
    (ready : R.Ready machine) (has : R.Has machine [value])
    (h : ∀ {after}, R.Ready after → R.May machine after → R.Bears after (machine.Advances after) →
      R.Obeys (next ()) after) :
    R.Obeys ((discard <| Eval.declare name value type) >>= next) machine := by
  have keeps := (known ready has).imp_right fun known =>
    Discipline.soundness.declares name type known.1.good (List.forall_mem_singleton.mp known.2)
  refine (broad.declare name type ready has).discards.knowing keeps ?_
  exact fun _ _ ready reached known => h ready reached (known.imp_right And.left)

/-- Noting that a variable holds a container. -/
theorem subscribe (name : String) (ready : R.Ready machine) (has : R.Has machine [value]) :
    R.Obeys (Eval.subscribe name value) machine := by
  cases value with
  | list handle =>
    have noted : R.Obeys (Eval.alloc (Alloc.listSubscribe handle name)) machine := by
      refine Obeys.alloc ready (.inr nofun) fun _ store ran => ?_
      refine broad.may_operation (.listSubscribe handle name) ready has ?_ ran
      cases ran
      exact Store.sheds_modifyList (List.Subset.refl _)
    exact noted
  | dict handle =>
    have noted : R.Obeys (Eval.alloc (Alloc.dictSubscribe handle name)) machine := by
      refine Obeys.alloc ready (.inr nofun) fun _ store ran => ?_
      refine broad.may_operation (.dictSubscribe handle name) ready has ?_ ran
      cases ran
      exact Store.sheds_modifyDict (List.Subset.refl _)
    exact noted
  | _ => exact Obeys.pure ready

/-- An assignment of a value, with what the watches are told. -/
theorem assigns (name : String) (ready : R.Ready machine) (has : R.Has machine [value]) :
    R.Obeys (put name value) machine := by
  have known := (known ready has).imp_right fun known =>
    And.intro known.1 (List.forall_mem_singleton.mp known.2)
  have keeps : R.Bears machine
      ((Eval.assign name value).Keeps Machine.Advances machine fun after => after.store.Holds) :=
    known.imp_right fun known => Discipline.soundness.assign known.1.good known.2
  have assigned : R.Obeys (Eval.assign name value) machine := by
    refine broad.scoping ready (known.imp_right ?_) keeps
    exact fun ⟨orderly, held⟩ => machine.scopes.assign_ends name (orderly.allWhole _ held)
  refine assigned.knowing keeps fun stored after ready _ given => Obeys.goOn (Obeys.get ?_)
  split
  · have has : R.Has after [stored] := .of_bears (given.imp_right And.right)
    refine (broad.subscribe name ready has).andThen fun _ after ready _ => ?_
    exact broad.change ready (Machine.notifyVariable_gentle name)
      (Machine.memory_notifyVariable name)
  · exact Obeys.pure ready

/-- Giving an element of a container a value, where evaluations may be cut off. -/
theorem setElement (container position value : Value) (ready : R.Ready machine)
    (cut : R.Cut machine machine) :
    R.Obeys (Eval.setElement container position value) machine := by
  have told (action : Alloc Unit) :
      R.Obeys (Eval.alloc action >>= fun _ => modify (·.notifyContainer container)) machine := by
    refine Obeys.andThen (Obeys.alloc ready (.inl cut) fun _ _ _ => ?_) fun _ _ ready _ => ?_
    · exact broad.gentle ready (.of_eq rfl rfl rfl) (.inl cut)
    · exact broad.change ready (Machine.notifyContainer_gentle container)
        (Machine.memory_notifyContainer container)
  cases container with
  | list handle => exact told (Alloc.listSet handle position value)
  | dict handle => exact told (Alloc.dictSet handle position value)
  | _ => exact Obeys.fail ready

/-- Letting a body wait for changes of a variable. -/
theorem registerWatch (name : String) (body : HandlerBody) (ready : R.Ready machine) :
    R.Obeys (Eval.registerWatch name body) machine := by
  refine Obeys.reading_bind ready fun depth _ => Obeys.reading_bind ready fun value held => ?_
  have registered := broad.may ready
    (.of_eq rfl rfl rfl : machine.Gentle
      { machine with watches := machine.watches.register name depth body }) rfl
  refine Obeys.change_bind registered ?_
  refine broad.subscribe name (R.ready_of_may registered) (.of_bears ?_)
  refine Bears.later ((R.orderly ready).imp_right fun orderly => ?_) registered
  exact Discipline.soundness.fair_of_lookup orderly.good held

/-- A loop over values that the store has. -/
theorem forEach {body : Eval Flow} {otherwise : Prop} {name : String} {type : Ty}
    (bodies : ∀ {machine}, R.Ready machine → R.Bears machine otherwise → R.Obeys body machine)
    (keeps : ∀ {machine}, R.Ready machine →
      R.Bears machine (body.Keeps Machine.Advances machine fun _ _ => True))
    (items : List Value) (ready : R.Ready machine) (bears : R.Bears machine otherwise)
    (has : R.Has machine items) :
    R.Obeys
      (Eval.forEach (fun item => discard <| Eval.declare name item type) body items) machine := by
  induction items generalizing machine with
  | nil => exact Obeys.pure ready
  | cons item items ih =>
    have first : R.Has machine [item] := has.of_subset (by simp)
    refine broad.declaring name type ready first fun ready reached steps => ?_
    have bears := bears.later reached
    -- The items that are left were in the store before the body ran, and still are.
    have has := (has.of_subset (List.subset_cons_self item items)).later reached steps
    refine (bodies ready bears).knowing (keeps ready) fun flow after ready further given => ?_
    cases flow with
    | leave value => exact Obeys.pure ready
    | next value =>
      exact ih ready (bears.later further) (has.later further (given.imp_right And.left))

/-! ## Statements -/

mutual

/-- **Every statement obeys a broad regime** that calls obey, if it is bounded or may be cut off. -/
theorem stmt (calls : R.Calls run rounds) (trusts : R.Trusts run) : ∀ (statement : Stmt)
    {machine : Machine}, R.Ready machine → R.Bears machine (statement.isBounded = true) →
    R.Obeys (Eval.stmt run rounds statement) machine
  | .expression span value, machine, ready, bears => by
    rw [Stmt.isBounded] at bears
    rw [Eval.stmt]
    refine Obeys.located ready fun ready moved => ?_
    refine (calls.expr trusts value ready (bears.later moved)).andThen fun _ _ ready _ => ?_
    exact Obeys.pure ready
  | .declaration span type name none, machine, ready, _ => by
    rw [Eval.stmt]
    refine Obeys.located ready fun {moved} ready _ => ?_
    have keeps : R.Bears moved (Discipline.soundness.Evaluates
        (Eval.alloc (Value.zeroOf type)) moved) :=
      (R.orderly ready).imp_right fun orderly =>
        Discipline.soundness.operation orderly.good (.zero type) (by simp)
    refine (Obeys.making (.zero type) ready .nil).knowing keeps fun value _ ready _ given => ?_
    exact (broad.declare name type ready (.of_bears (given.imp_right And.right))).discards.goOn
  | .declaration span type name (some value), machine, ready, bears => by
    rw [Stmt.isBounded] at bears
    rw [Eval.stmt]
    refine Obeys.located ready fun ready moved => ?_
    refine evaluating trusts ready (calls.expr trusts value ready (bears.later moved)) ?_
    exact fun initial _ ready _ _ has => (broad.declare name type ready has).discards.goOn
  | .assignment span name value, machine, ready, bears => by
    rw [Stmt.isBounded] at bears
    rw [Eval.stmt]
    refine Obeys.located ready fun ready moved => ?_
    refine evaluating trusts ready (calls.expr trusts value ready (bears.later moved)) ?_
    exact fun assigned _ ready _ _ has => broad.assigns name ready has
  | .compound span name op value, machine, ready, bears => by
    rw [Stmt.isBounded] at bears
    rw [Eval.stmt]
    refine Obeys.located ready fun {moved} ready entered => Obeys.reading_bind ready ?_
    intro old held
    -- The old value is looked up before the operand is evaluated.
    have hasOld : R.Has moved [old] := .of_bears ((R.orderly ready).imp_right fun orderly =>
      Discipline.soundness.fair_of_lookup orderly.good held)
    refine evaluating trusts ready (calls.expr trusts value ready (bears.later entered)) ?_
    intro operand after ready reached steps has
    have operands := (hasOld.later reached steps).append has
    have keeps : R.Bears after (Discipline.soundness.Evaluates
        (Eval.alloc (Value.binary op old operand)) after) :=
      (known ready operands).imp_right fun known =>
        Discipline.soundness.operation known.1.good (.binary op old operand) known.2
    refine (Obeys.making (.binary op old operand) ready operands).knowing keeps ?_
    exact fun updated _ ready _ given =>
      broad.assigns name ready (.of_bears (given.imp_right And.right))
  | .element span target position value, machine, ready, bears => by
    have cut : R.Cut machine machine := bears.resolve_right (by simp [Stmt.isBounded])
    rw [Eval.stmt]
    refine Obeys.located ready fun ready moved => ?_
    have cut := R.cut_of_may moved cut
    refine (calls.expr trusts target ready (.inl cut)).andThen fun container _ ready reached => ?_
    have cut := R.cut_of_may reached cut
    refine (calls.expr trusts position ready (.inl cut)).andThen fun index _ ready reached => ?_
    have cut := R.cut_of_may reached cut
    refine (calls.expr trusts value ready (.inl cut)).andThen fun assigned _ ready reached => ?_
    exact (broad.setElement container index assigned ready (R.cut_of_may reached cut)).goOn
  | .function span returns name params body, machine, ready, bears => by
    rw [Stmt.isBounded] at bears
    rw [Eval.stmt]
    refine Obeys.located ready fun ready reached => Obeys.goOn ?_
    exact Obeys.change (broad.define ready (bears.later reached))
  | .leave span none, machine, ready, _ => by
    rw [Eval.stmt]
    exact Obeys.located ready fun ready _ => Obeys.pure ready
  | .leave span (some value), machine, ready, bears => by
    rw [Stmt.isBounded] at bears
    rw [Eval.stmt]
    refine Obeys.located ready fun ready moved => ?_
    refine (calls.expr trusts value ready (bears.later moved)).andThen fun _ _ ready _ => ?_
    exact Obeys.pure ready
  | .raise span value, machine, ready, bears => by
    rw [Stmt.isBounded] at bears
    rw [Eval.stmt]
    refine Obeys.located ready fun ready moved => ?_
    refine (calls.expr trusts value ready (bears.later moved)).andThen fun thrown _ ready _ => ?_
    refine Obeys.looking_bind ready ((R.orderly ready).imp_right fun orderly => ?_) fun _ _ =>
      Obeys.fail ready
    exact ended_ne_exhausted (orderly.acyclic.isSome_render thrown)
  | .load span path label, machine, ready, _ => by
    rw [Eval.stmt]
    exact Obeys.located ready fun ready _ => (broad.load path label ready).goOn
  | .branch span condition thenBody none, machine, ready, bears => by
    rw [Stmt.isBounded] at bears
    rw [Eval.stmt]
    refine Obeys.located ready fun ready moved => ?_
    have bears := bears.later moved
    refine Regime.test calls trusts condition ready bears.left fun _ _ ready reached => ?_
    have bears := bears.right.later reached
    split
    · exact block calls trusts thenBody ready bears
    · exact Obeys.pure ready
  | .branch span condition thenBody (some elseBody), machine, ready, bears => by
    rw [Stmt.isBounded] at bears
    rw [Eval.stmt]
    refine Obeys.located ready fun ready moved => ?_
    have bears := bears.later moved
    refine Regime.test calls trusts condition ready bears.left fun _ _ ready reached => ?_
    have bears := bears.right.later reached
    split
    · exact block calls trusts thenBody ready bears.left
    · exact block calls trusts elseBody ready bears.right
  | .whileLoop span condition preroll body, machine, ready, bears => by
    have cut : R.Cut machine machine := bears.resolve_right (by simp [Stmt.isBounded])
    rw [Eval.stmt]
    refine Obeys.located ready fun ready moved => ?_
    refine prerolled (fun ready cut => ?_) (fun ready cut => ?_) preroll (fun _ => rfl)
      (fun _ => rfl) ready (R.cut_of_may moved cut)
    · refine Regime.test calls trusts condition ready (.inl cut) fun _ _ ready _ => ?_
      exact Obeys.get (Obeys.pure ready)
    · exact block calls trusts body ready (.inl cut)
  | .untilLoop span condition preroll body, machine, ready, bears => by
    have cut : R.Cut machine machine := bears.resolve_right (by simp [Stmt.isBounded])
    rw [Eval.stmt]
    refine Obeys.located ready fun ready moved => ?_
    refine prerolled (fun ready cut => ?_) (fun ready cut => ?_) preroll (fun _ => rfl)
      (fun _ => rfl) ready (R.cut_of_may moved cut)
    · refine Regime.test calls trusts condition ready (.inl cut) fun _ _ ready _ => ?_
      exact Obeys.get (Obeys.pure ready)
    · exact block calls trusts body ready (.inl cut)
  | .forLoop span first condition step body, machine, ready, bears => by
    have cut : R.Cut machine machine := bears.resolve_right (by simp [Stmt.isBounded])
    rw [Eval.stmt]
    refine Obeys.located ready fun ready moved => ?_
    have cut := R.cut_of_may moved cut
    have started := stmt calls trusts first ready (.inl cut)
    refine started.discards.andThen fun _ _ ready reached => ?_
    refine loopWhile (fun ready cut => ?_) (fun ready cut => ?_) rounds ready
      (R.cut_of_may reached cut)
    · refine (calls.expr trusts condition ready (.inl cut)).andThen fun value _ ready _ => ?_
      exact Obeys.get (Obeys.pure ready)
    · refine (block calls trusts body ready (.inl cut)).unlessLeaves (fun _ => rfl) ?_
      intro _ after ready reached
      have stepped := stmt calls trusts step ready (.inl (R.cut_of_may reached cut))
      exact stepped.discards.goOn
  | .forEach span type name iterable body, machine, ready, bears => by
    rw [Stmt.isBounded] at bears
    rw [Eval.stmt]
    refine Obeys.located ready fun ready moved => ?_
    have bears := bears.later moved
    refine evaluating trusts ready (calls.expr trusts iterable ready bears.left) ?_
    intro value middle ready reached _ has
    have keeps := (known ready has).imp_right fun known =>
      Discipline.soundness.items known.1.good (List.forall_mem_singleton.mp known.2)
    refine (Obeys.itemsOf value ready).knowing keeps fun items _ ready further given => ?_
    refine broad.forEach (fun ready bears => block calls trusts body ready bears) ?_ items ready
      (bears.right.later (R.trans reached further)) (given.imp_right And.right)
    exact fun ready => trusts.bears ready fun runs orderly =>
      (Discipline.soundness.block runs rounds body orderly.good).mono id fun _ _ => trivial
  | .choice span subject cases none, machine, ready, bears => by
    rw [Stmt.isBounded] at bears
    rw [Eval.stmt]
    refine Obeys.located ready fun ready moved => ?_
    have bears := bears.later moved
    refine (calls.expr trusts subject ready bears.left).andThen fun value _ ready reached => ?_
    have bears := bears.right.later reached
    refine (choose calls trusts value cases ready bears).unlessChosen (fun _ => rfl) ?_
    exact fun ready _ => Obeys.pure ready
  | .choice span subject cases (some body), machine, ready, bears => by
    rw [Stmt.isBounded] at bears
    rw [Eval.stmt]
    refine Obeys.located ready fun ready moved => ?_
    have bears := bears.later moved
    refine (calls.expr trusts subject ready bears.left).andThen fun value _ ready reached => ?_
    have bears := bears.right.later reached
    refine (choose calls trusts value cases ready bears.left).unlessChosen (fun _ => rfl) ?_
    exact fun ready further => block calls trusts body ready (bears.right.later further)
  | .signal span name, machine, ready, _ => by
    rw [Eval.stmt]
    refine Obeys.located ready fun ready _ => Obeys.goOn (Obeys.reading_bind ready fun _ _ => ?_)
    exact broad.change ready (.of_eq rfl rfl rfl) rfl
  | .emit span name, machine, ready, _ => by
    rw [Eval.stmt]
    refine Obeys.located ready fun ready _ => Obeys.goOn (Obeys.reading_bind ready fun _ _ => ?_)
    exact broad.change ready (Machine.startAll_gentle _ _) (Machine.memory_startAll _ _)
  | .when span name body, machine, ready, _ => by
    rw [Eval.stmt]
    refine Obeys.located ready fun ready _ => Obeys.goOn (Obeys.reading_bind ready fun _ _ => ?_)
    exact broad.change ready (.of_eq rfl rfl rfl) rfl
  | .watch span name body, machine, ready, _ => by
    rw [Eval.stmt]
    exact Obeys.located ready fun ready _ => (broad.registerWatch name body ready).goOn

/-- Statements in order obey the regime. -/
theorem block (calls : R.Calls run rounds) (trusts : R.Trusts run) : ∀ (statements : List Stmt)
    {machine : Machine}, R.Ready machine →
    R.Bears machine (Stmt.areBounded statements = true) →
    R.Obeys (Eval.block run rounds statements) machine
  | [], machine, ready, _ => by
    rw [Eval.block]
    exact Obeys.pure ready
  | first :: rest, machine, ready, bears => by
    rw [Stmt.areBounded] at bears
    rw [Eval.block]
    refine (stmt calls trusts first ready bears.left).unlessLeaves (fun _ => rfl) ?_
    intro _ after ready reached
    exact block calls trusts rest ready (bears.right.later reached)

/-- The cases of a choice obey the regime. -/
theorem choose (calls : R.Calls run rounds) (trusts : R.Trusts run) (subject : Value) :
    ∀ (cases : List (Case Stmt)) {machine : Machine}, R.Ready machine →
      R.Bears machine (Stmt.casesBounded cases = true) →
      R.Obeys (Eval.choose run rounds subject cases) machine
  | [], machine, ready, _ => by
    rw [Eval.choose]
    exact Obeys.pure ready
  | ⟨span, label, body⟩ :: rest, machine, ready, bears => by
    rw [Stmt.casesBounded] at bears
    rw [Eval.choose]
    have moved := R.moved ready span
    have bears := bears.later moved
    refine Obeys.change_bind moved ?_
    have labelled := calls.expr trusts label (R.ready_of_may moved) bears.left
    refine labelled.blaming.andThen fun candidate after ready reached => ?_
    have bears := bears.right.later reached
    refine Obeys.looking_bind ready ((R.orderly ready).imp_right fun orderly => ?_) ?_
    · exact ended_ne_exhausted (orderly.acyclic.isSome_same subject candidate)
    · intro same _
      split
      · refine (block calls trusts body ready bears.left).andThen fun _ _ ready _ => ?_
        exact Obeys.pure ready
      · exact choose calls trusts subject rest ready bears.right

end

/-! ## Calls and programs -/

/-- Binding parameters to arguments that the store has. -/
theorem bindParams (params : List Param) {arguments : List Value} (ready : R.Ready machine)
    (has : R.Has machine arguments) : R.Obeys (Eval.bindParams params arguments) machine := by
  induction params generalizing arguments machine with
  | nil => exact Obeys.pure ready
  | cons param params ih =>
    cases arguments with
    | nil => exact Obeys.pure ready
    | cons argument rest =>
      have first : R.Has machine [argument] := has.of_subset (by simp)
      refine broad.declaring param.name param.type ready first fun ready reached steps => ?_
      exact ih ready ((has.of_subset (List.subset_cons_self argument rest)).later reached steps)

/-- **A call obeys a regime** if its body obeys a broad one that is kept to on entering and whose
bounds, on leaving, are those of the first. -/
theorem invoke {outer : Regime} (trusts : outer.Trusts run) {name : String} {function : Function}
    {arguments : List Value} (ready : outer.Ready machine) (has : outer.Has machine arguments)
    (enters : machine.context.callDepth < machine.config.maxCallDepth →
      R.Ready (machine.enter function) ∧ R.Has (machine.enter function) arguments)
    (runs : ∀ {started}, R.Ready started → R.May (machine.enter function) started →
      R.Obeys (run function.body) started)
    (leaves : ∀ {final}, R.May (machine.enter function) final →
      outer.May machine (final.leave machine.context name function))
    (cut : ∀ {final}, R.Cut (machine.enter function) final →
      outer.Cut machine (final.leave machine.context name function)) :
    outer.Obeys (Eval.invoke run name function arguments) machine := by
  refine Obeys.get ?_
  split
  · exact Obeys.fail ready
  · rename_i shallow
    obtain ⟨entered, hasInside⟩ := enters (Nat.lt_of_not_le shallow)
    have body : R.Obeys (do
        Eval.bindParams function.params arguments
        run function.body) (machine.enter function) :=
      (broad.bindParams function.params entered hasInside).andThen fun _ _ ready reached =>
        runs ready reached
    have known := Bears.and (known ready has) (trusts.bears ready fun runs _ => runs)
    have keeps := known.imp_right fun ⟨⟨orderly, held⟩, runs⟩ =>
      Discipline.soundness.called runs name function orderly.good held
    refine (Obeys.bracket body leaves cut).knowing keeps fun flow _ ready _ given => ?_
    cases flow with
    | leave value =>
      exact Obeys.making (.convert function.returns value) ready
        (.of_bears (given.imp_right And.right))
    | next value => exact Obeys.pure ready

/-- The statements of a program obey the regime. -/
theorem topLevel {budget : Nat} (calls : R.Calls (bodyWithin budget) budget)
    (trusts : R.Trusts (bodyWithin budget)) (statements : List Stmt) {last : Value}
    (ready : R.Ready machine) (bears : R.Bears machine (Stmt.areBounded statements = true)) :
    R.Obeys (Eval.topLevel budget last statements) machine := by
  induction statements generalizing last machine with
  | nil => exact Obeys.pure ready
  | cons first rest ih =>
    rw [Stmt.areBounded] at bears
    refine (broad.stmt calls trusts first ready bears.left).andThen fun flow _ ready reached => ?_
    cases flow with
    | next value => exact ih ready (bears.right.later reached)
    | leave value => exact Obeys.pure ready

end Broad

end Regime

end ReactiveScript
