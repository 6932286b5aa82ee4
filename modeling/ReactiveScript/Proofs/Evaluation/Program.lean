import ReactiveScript.Machine.Run
import ReactiveScript.Proofs.Evaluation.Library

/-! # Programs under a discipline

Whatever discipline the single operations of a machine obey, every expression and every statement
obeys it, every body within every budget, and every program. The induction is on the tree of the
program, and inside calls and handlers on the budget. -/

namespace ReactiveScript

open Eval

namespace Discipline

variable (D : Discipline) {machine : Machine}

/-! ## Ways to put evaluations together -/

/-- An expression at a place of the program. -/
theorem located {span : Span} {action : Eval Value} (good : D.Good machine)
    (h : ∀ {moved}, D.Good moved → D.Evaluates action moved) :
    D.Evaluates (Eval.located span .void action) machine := by
  refine Keeps.get ?_
  split
  · have moved := D.calm_of_quiet good (machine.quiet_current span)
    exact Keeps.change_bind D.calm_trans moved (h (D.good_of_calm moved)).blaming
  · exact D.plain good rfl

/-- A statement at a place of the program. -/
theorem locatedFlow {span : Span} {action : Eval Flow} (good : D.Good machine)
    (h : ∀ {moved}, D.Good moved → D.Executes action moved) :
    D.Executes (Eval.located span (.next .void) action) machine := by
  refine Keeps.get ?_
  split
  · have moved := D.busy_of_calm (D.calm_of_quiet good (machine.quiet_current span))
    exact Keeps.change_bind D.busy_trans moved (h (D.good_of_busy moved)).blaming
  · exact Keeps.pure (D.busy_refl good) (D.fair_of_isPlain rfl)

/-- Going on to the next statement. -/
theorem goOn (good : D.Good machine) : D.Executes (pure (.next .void)) machine :=
  Keeps.pure (D.busy_refl good) (D.fair_of_isPlain rfl)

/-- A statement that does something and goes on. -/
theorem thenGoOn {α : Type} {action : Eval α} {gives : Machine → α → Prop}
    (h : action.Keeps D.Busy machine gives) :
    D.Executes (do let _ ← action; return .next .void) machine :=
  Keeps.bind D.busy_trans h fun _ _ reached _ => D.goOn (D.good_of_busy reached)

/-- An operator on two operands: the second is evaluated where the first has led. -/
theorem operands {β : Type} {left right : Eval Value} {next : Value → Value → Eval β}
    {promises : Machine → β → Prop} (first : D.Evaluates left machine)
    (second : ∀ {after}, D.Good after → D.Evaluates right after)
    (h : ∀ {after x y}, D.Good after → D.Fair after.store x → D.Fair after.store y →
      (next x y).Keeps D.Calm after promises) :
    Keeps (do let x ← left; let y ← right; next x y) D.Calm machine promises := by
  refine Keeps.bind D.calm_trans first fun middle x reached fairLeft => ?_
  refine Keeps.bind D.calm_trans (second (D.good_of_calm reached))
    fun after y further fairRight => ?_
  exact h (D.good_of_calm further) (D.fair_of_calm further fairLeft) fairRight

/-- The bound or step of a range: an operand that has to be an integer. -/
theorem rangePart {β : Type} {role : String} {operand : Eval Value} {next : Int64 → Eval β}
    {promises : Machine → β → Prop} (h : D.Evaluates operand machine)
    (rest : ∀ {after n}, D.Good after → (next n).Keeps D.Calm after promises) :
    Keeps (do let n ← rangeBound role (← operand); next n) D.Calm machine promises := by
  refine Keeps.bind D.calm_trans h fun after value reached _ => ?_
  have good := D.good_of_calm reached
  unfold rangeBound
  cases value.asInt? with
  | some n => exact rest good
  | none => exact Keeps.fail (D.calm_refl good)

/-- A statement that leaves ends what it stands in; any other is followed by the rest. -/
theorem unlessLeaves {first : Eval Flow} {next : Flow → Eval Flow} (h : D.Executes first machine)
    (leaves : ∀ value, next (.leave value) = pure (.leave value))
    (rest : ∀ {after value}, D.Busy machine after → D.Executes (next (.next value)) after) :
    D.Executes (first >>= next) machine := by
  refine Keeps.bind D.busy_trans h fun after flow reached fair => ?_
  cases flow with
  | leave value =>
    rw [leaves]
    exact Keeps.pure (D.busy_refl (D.good_of_busy reached)) fair
  | next value => exact rest reached

/-- What a loop goes through may be at hand. -/
theorem items {value : Value} (good : D.Good machine) (fair : D.Fair machine.store value) :
    D.EvaluatesAll (itemsOf value) machine := by
  have calm := D.calm_refl good
  cases value with
  | list handle => exact Keeps.get (Keeps.pure calm fun _ => D.fair_of_mem_itemsIn good fair)
  | dict handle => exact Keeps.get (Keeps.pure calm fun _ => D.fair_of_mem_itemsIn good fair)
  | text s =>
    refine Keeps.pure calm fun item mem => ?_
    obtain ⟨c, _, rfl⟩ := List.mem_map.mp mem
    exact D.fair_of_isPlain rfl
  | _ => exact Keeps.fail calm

/-! ## Watches and elements -/

/-- Noting that a variable holds a container. -/
theorem subscribe {name : String} {value : Value} (good : D.Good machine)
    (fair : D.Fair machine.store value) :
    (Eval.subscribe name value).Keeps D.Calm machine fun _ _ => True := by
  cases value with
  | list handle =>
    exact (D.operate good (.listSubscribe handle name) (D.fair_one fair)).mono id
      fun _ _ => trivial
  | dict handle =>
    exact (D.operate good (.dictSubscribe handle name) (D.fair_one fair)).mono id
      fun _ _ => trivial
  | _ => exact Keeps.pure (D.calm_refl good) trivial

/-- Telling the watches of a variable that it was given a value. -/
theorem afterAssignment {name : String} {value : Value} (good : D.Good machine)
    (fair : D.Fair machine.store value) :
    (Eval.afterAssignment name value).Keeps D.Calm machine fun _ _ => True := by
  refine Keeps.get ?_
  split
  · refine Keeps.bind D.calm_trans (D.subscribe good fair) fun after _ reached _ => ?_
    exact Keeps.change (D.calm_of_quiet (D.good_of_calm reached) (after.notifyVariable_quiet name))
      trivial
  · exact Keeps.pure (D.calm_refl good) trivial

/-- Letting a body wait for changes of a variable. -/
theorem registerWatch {name : String} {body : HandlerBody} (good : D.Good machine) :
    (Eval.registerWatch name body).Keeps D.Calm machine fun _ _ => True := by
  have calm := D.calm_refl good
  refine Keeps.reading_bind calm fun depth _ => Keeps.reading_bind calm fun value held => ?_
  have registered := D.calm_of_quiet good (machine.quiet_watches
    (machine.watches.register name depth body))
  refine Keeps.change_bind D.calm_trans registered ?_
  exact D.subscribe (D.good_of_calm registered)
    (D.fair_of_calm registered (D.fair_of_lookup good held))

/-- Giving an element of a container a value. -/
theorem setElement {container position value : Value} (good : D.Good machine)
    (fair : D.Fair machine.store container) (fair' : D.Fair machine.store position)
    (fair'' : D.Fair machine.store value) :
    (Eval.setElement container position value).Keeps D.Calm machine fun _ _ => True := by
  have operands := D.fair_three fair fair' fair''
  have told {gives : Machine → Unit → Prop} {action : Eval Unit}
      (h : action.Keeps D.Calm machine gives) :
      Keeps (do action; modify (·.notifyContainer container)) D.Calm machine
        fun _ _ => True := by
    refine Keeps.bind D.calm_trans h fun after _ reached _ => ?_
    exact Keeps.change (D.calm_of_quiet (D.good_of_calm reached)
      (after.notifyContainer_quiet container)) trivial
  cases container with
  | list handle => exact told (D.operate good (.listSet handle position value) operands)
  | dict handle => exact told (D.operate good (.dictSet handle position value) operands)
  | _ => exact Keeps.fail (D.calm_refl good)

/-! ## Handlers and calls -/

variable {run : Runner}

/-- A handler does what statements may do. -/
theorem runHandler (runs : D.Runs run) (handler : Pending) (good : D.Good machine) :
    (Eval.runHandler run handler).Keeps D.Busy machine fun _ _ => True := by
  have h := runs handler.body _ (D.good_handler handler.context good)
  unfold Executes Keeps at h
  unfold Keeps Eval.runHandler
  cases ended : run handler.body { machine with context := handler.context } with
  | ok flow after =>
    rw [ended] at h
    exact ⟨D.busy_handler after.failures h.1, trivial⟩
  | error stop after =>
    rw [ended] at h
    -- A fault of a handler is only noted; the evaluation that waits for it goes on.
    cases stop with
    | fault fault => exact ⟨D.busy_handler _ h, trivial⟩
    | exhausted => exact D.busy_handler after.failures h

/-- Waiting for the handlers does what statements may do. -/
theorem settle (runs : D.Runs run) (rounds : Nat) (good : D.Good machine) :
    (Eval.settle run rounds).Keeps D.Busy machine fun _ _ => True := by
  induction rounds generalizing machine with
  | zero =>
    refine Keeps.get ?_
    split
    · exact Keeps.pure (D.busy_refl good) trivial
    · exact Keeps.throw (D.busy_refl good)
  | succ rounds ih =>
    refine Keeps.get ?_
    split
    · exact Keeps.pure (D.busy_refl good) trivial
    · -- The handler leaves the line before it runs, and may put others into it.
      rename_i handler rest _
      have taken := D.busy_of_calm (D.calm_of_quiet good (machine.quiet_pending rest))
      refine Keeps.change_bind D.busy_trans taken ?_
      refine Keeps.bind D.busy_trans (D.runHandler runs handler (D.good_of_busy taken)) ?_
      exact fun after _ reached _ => ih (D.good_of_busy reached)

/-- A declaration whose value is not looked at. -/
theorem declares (name : String) (type : Ty) {value : Value} (good : D.Good machine)
    (fair : D.Fair machine.store value) :
    Keeps (discard <| Eval.declare name value type) D.Busy machine fun _ _ => True :=
  Keeps.bind D.busy_trans (D.declare good fair) fun _ _ reached _ =>
    Keeps.pure (D.busy_refl (D.good_of_busy reached)) trivial

/-- Binding parameters does what statements may do. -/
theorem bindParams (params : List Param) {arguments : List Value} (good : D.Good machine)
    (fair : ∀ value ∈ arguments, D.Fair machine.store value) :
    (Eval.bindParams params arguments).Keeps D.Busy machine fun _ _ => True := by
  induction params generalizing arguments machine with
  | nil => exact Keeps.pure (D.busy_refl good) trivial
  | cons param params ih =>
    cases arguments with
    | nil => exact Keeps.pure (D.busy_refl good) trivial
    | cons argument rest =>
      have declared := D.declares param.name param.type good (fair argument List.mem_cons_self)
      refine Keeps.bind D.busy_trans declared fun after _ reached _ => ?_
      refine ih (D.good_of_busy reached) fun value mem => ?_
      exact D.fair_of_busy reached (fair value (List.mem_cons_of_mem _ mem))

/-- The body of a call between entering and leaving the function, where the parameters are bound
inside the scope of the call. -/
theorem called (runs : D.Runs run) (name : String) (function : Function) {arguments : List Value}
    (good : D.Good machine) (fair : ∀ value ∈ arguments, D.Fair machine.store value) :
    (Eval.bracket (·.enter function) (·.leave machine.context name function) (do
      Eval.bindParams function.params arguments
      run function.body)).Keeps D.Calm machine fun after => D.FairFlow after.store := by
  have body : D.Executes (do
      Eval.bindParams function.params arguments
      run function.body) (machine.enter function) := by
    refine Keeps.bind D.busy_trans
      (D.bindParams function.params (D.good_enter function good) fair) ?_
    exact fun after _ reached _ => runs function.body after (D.good_of_busy reached)
  exact Keeps.bracket body (D.calm_leave good) fun _ flow => flow

/-- **A call obeys the discipline** whatever its body does: what the statements of the body did to
the machine is bracketed by entering and leaving the function. -/
theorem invoke (runs : D.Runs run) (name : String) (function : Function) {arguments : List Value}
    (good : D.Good machine) (fair : ∀ value ∈ arguments, D.Fair machine.store value) :
    D.Evaluates (Eval.invoke run name function arguments) machine := by
  refine Keeps.get ?_
  split
  · exact Keeps.fail (D.calm_refl good)
  · have called := D.called runs name function good fair
    refine Keeps.bind D.calm_trans called fun after flow reached given => ?_
    cases flow with
    | leave value =>
      exact D.operation (D.good_of_calm reached) (.convert function.returns value)
        (D.fair_one given)
    | next value => exact D.plain (D.good_of_calm reached) rfl

/-! ## Loops -/

/-- A loop with a condition. -/
theorem loopWhile {test : Eval Bool} {body : Eval Flow}
    (calm : ∀ {machine}, D.Good machine → test.Keeps D.Busy machine fun _ _ => True)
    (executes : ∀ {machine}, D.Good machine → D.Executes body machine) (rounds : Nat)
    (good : D.Good machine) : D.Executes (Eval.loopWhile test body rounds) machine := by
  induction rounds generalizing machine with
  | zero => exact Keeps.throw (D.busy_refl good)
  | succ rounds ih =>
    refine Keeps.bind D.busy_trans (calm good) fun after holds reached _ => ?_
    split
    · exact D.unlessLeaves (executes (D.good_of_busy reached)) (fun _ => rfl)
        fun further => ih (D.good_of_busy further)
    · exact D.goOn (D.good_of_busy reached)

/-- A loop that runs its body a number of times. -/
theorem repeatBody {body : Eval Flow}
    (executes : ∀ {machine}, D.Good machine → D.Executes body machine) (count : Nat)
    (good : D.Good machine) : D.Executes (Eval.repeatBody body count) machine := by
  induction count generalizing machine with
  | zero => exact D.goOn good
  | succ count ih =>
    exact D.unlessLeaves (executes good) (fun _ => rfl) fun reached => ih (D.good_of_busy reached)

/-- A loop over values. -/
theorem forEach {name : String} {type : Ty} {body : Eval Flow}
    (executes : ∀ {machine}, D.Good machine → D.Executes body machine) {items : List Value}
    (good : D.Good machine) (fair : ∀ item ∈ items, D.Fair machine.store item) :
    D.Executes
      (Eval.forEach (fun item => discard <| Eval.declare name item type) body items) machine := by
  induction items generalizing machine with
  | nil => exact D.goOn good
  | cons item items ih =>
    have declared := D.declares name type good (fair item List.mem_cons_self)
    refine Keeps.bind D.busy_trans declared fun middle _ first _ => ?_
    refine D.unlessLeaves (executes (D.good_of_busy first)) (fun _ => rfl) fun second => ?_
    -- The items that are left were at hand before the body ran, and still are.
    refine ih (D.good_of_busy second) fun other mem => ?_
    exact D.fair_of_busy (D.busy_trans first second) (fair other (List.mem_cons_of_mem _ mem))

/-! ## Expressions -/

/-- The result of an operator on one value is no container. -/
theorem isPlain_of_unary {store : Store} {op : UnaryOp} {operand result : Value}
    (h : Value.unary store op operand = .ok result) : result.isPlain = true := by
  cases op with
  | not =>
    cases h
    rfl
  | negate =>
    cases operand with
    | int n =>
      rw [Value.unary] at h
      exact Value.isPlain_of_intOr h
    | float x =>
      cases h
      rfl
    | complex re im =>
      cases h
      rfl
    | _ => cases h

/-- The result of a logical operator is no container. -/
theorem isPlain_of_logical {op : LogicalOp} {left right result : Value}
    (h : Value.logical op left right = .ok result) : result.isPlain = true := by
  unfold Value.logical at h
  split at h
  · cases h
    rfl
  · cases h

mutual

/-- **Every expression obeys the discipline.** -/
theorem expr (runs : D.Runs run) (rounds : Nat) : ∀ (expression : Expr) {machine : Machine},
    D.Good machine → D.Evaluates (Eval.expr run rounds expression) machine
  | .literal span value, machine, good => by
    rw [Eval.expr]
    refine D.located good fun good => D.plain good ?_
    cases value <;> rfl
  | .var span name, machine, good => by
    rw [Eval.expr]
    refine D.located good fun good => ?_
    exact Keeps.reading (D.calm_refl good) fun value found => D.fair_of_lookup good found
  | .binary span op left right, machine, good => by
    rw [Eval.expr]
    refine D.located good fun good => ?_
    refine D.operands (expr runs rounds left good) (expr runs rounds right) ?_
    intro after x y good fairLeft fairRight
    exact D.operation good (.binary op x y) (D.fair_two fairLeft fairRight)
  | .logical span op left right, machine, good => by
    rw [Eval.expr]
    refine D.located good fun good => ?_
    refine D.operands (expr runs rounds left good) (expr runs rounds right) ?_
    exact fun good _ _ => D.plainOutcome good fun _ => isPlain_of_logical
  | .comparison span op left right, machine, good => by
    rw [Eval.expr]
    refine D.located good fun good => ?_
    refine D.operands (expr runs rounds left good) (expr runs rounds right) ?_
    exact fun good _ _ => Keeps.looking_bind (D.calm_refl good) fun _ _ => D.plain good rfl
  | .unary span op operand, machine, good => by
    rw [Eval.expr]
    refine D.located good fun good => ?_
    refine Keeps.bind D.calm_trans (expr runs rounds operand good) fun after value reached _ => ?_
    exact D.plainOutcome (D.good_of_calm reached) fun _ => isPlain_of_unary
  | .cast span target operand, machine, good => by
    rw [Eval.expr]
    refine D.located good fun good => ?_
    refine Keeps.bind D.calm_trans (expr runs rounds operand good) ?_
    intro after value reached fair
    exact D.operation (D.good_of_calm reached) (.cast target value) (D.fair_one fair)
  | .call span name arguments, machine, good => by
    rw [Eval.expr]
    refine D.located good fun good => Keeps.get ?_
    -- The function is looked up before the arguments are evaluated and called after that.
    dsimp only
    split
    · rename_i native found
      refine Keeps.bind D.calm_trans (exprs runs rounds arguments good) ?_
      intro after values reached fair
      exact D.returning (D.native found good (D.settle runs rounds (D.good_of_calm reached))
        (D.good_of_calm reached) fair)
    · split
      · refine Keeps.bind D.calm_trans (exprs runs rounds arguments good) ?_
        exact fun after values reached fair => D.invoke runs _ _ (D.good_of_calm reached) fair
      · exact Keeps.fail (D.calm_refl good)
  | .range span first last none inclusive, machine, good => by
    rw [Eval.expr]
    refine D.located good fun good => ?_
    refine D.rangePart (expr runs rounds first good) fun {_ start} good => ?_
    refine D.rangePart (expr runs rounds last good) fun {_ finish} good => ?_
    exact D.operation good (.range start finish 1 inclusive) (by simp)
  | .range span first last (some step) inclusive, machine, good => by
    rw [Eval.expr]
    refine D.located good fun good => ?_
    refine D.rangePart (expr runs rounds first good) fun {_ start} good => ?_
    refine D.rangePart (expr runs rounds last good) fun {_ finish} good => ?_
    refine D.rangePart (expr runs rounds step good) fun {_ size} good => ?_
    exact D.operation good (.range start finish size inclusive) (by simp)
  | .list span items, machine, good => by
    rw [Eval.expr]
    refine D.located good fun good => ?_
    refine Keeps.bind D.calm_trans (exprs runs rounds items good)
      fun after values reached fair => ?_
    exact D.operation (D.good_of_calm reached) (.list values) fair
  | .dict span entries, machine, good => by
    rw [Eval.expr]
    refine D.located good fun good => ?_
    refine Keeps.bind D.calm_trans (entryExprs runs rounds entries good (by simp [entryValues])) ?_
    intro after values reached fair
    exact D.operation (D.good_of_calm reached) (.dict values) fair
  | .index span target position, machine, good => by
    rw [Eval.expr]
    refine D.located good fun good => ?_
    refine D.operands (expr runs rounds target good) (expr runs rounds position) ?_
    intro after x y good fairLeft fairRight
    exact D.operation good (.index x y) (D.fair_two fairLeft fairRight)

/-- Expressions in order obey the discipline. -/
theorem exprs (runs : D.Runs run) (rounds : Nat) : ∀ (expressions : List Expr) {machine : Machine},
    D.Good machine → D.EvaluatesAll (Eval.exprs run rounds expressions) machine
  | [], machine, good => by
    rw [Eval.exprs]
    exact Keeps.pure (D.calm_refl good) (by simp)
  | first :: rest, machine, good => by
    rw [Eval.exprs]
    refine Keeps.bind D.calm_trans (expr runs rounds first good) fun middle value reached fair => ?_
    refine Keeps.bind D.calm_trans (exprs runs rounds rest (D.good_of_calm reached)) ?_
    intro after values further given
    refine Keeps.pure (D.calm_refl (D.good_of_calm further)) ?_
    exact List.forall_mem_cons.mpr ⟨D.fair_of_calm further fair, given⟩

/-- The entries of a dictionary obey the discipline. -/
theorem entryExprs (runs : D.Runs run) (rounds : Nat) :
    ∀ (entries : List (Expr × Expr)) {before : List (Value × Value)} {machine : Machine},
      D.Good machine → (∀ value ∈ entryValues before, D.Fair machine.store value) →
      (Eval.entryExprs run rounds before entries).Keeps D.Calm machine fun after values =>
        ∀ value ∈ entryValues values, D.Fair after.store value
  | [], before, machine, good, fair => by
    rw [Eval.entryExprs]
    exact Keeps.pure (D.calm_refl good) fair
  | (key, value) :: rest, before, machine, good, fair => by
    rw [Eval.entryExprs]
    refine Keeps.bind D.calm_trans (expr runs rounds key good) fun middle x reached fairKey => ?_
    refine Keeps.bind D.calm_trans (expr runs rounds value (D.good_of_calm reached)) ?_
    intro after y further fairValue
    refine Keeps.looking_bind (D.calm_refl (D.good_of_calm further)) fun set done => ?_
    refine entryExprs runs rounds rest (D.good_of_calm further) ?_
    refine D.fair_setEntry (ended_eq_ok done) (D.fair_of_calm further fairKey) fairValue ?_
    intro old mem
    exact D.fair_of_calm (D.calm_trans reached further) (fair old mem)

end

/-! ## Statements -/

/-- A statement whose outcome is not looked at. -/
theorem discards {action : Eval Flow} (h : D.Executes action machine) :
    Keeps (discard action) D.Busy machine fun _ _ => True :=
  Keeps.bind D.busy_trans h fun _ _ reached _ =>
    Keeps.pure (D.busy_refl (D.good_of_busy reached)) trivial

/-- A statement that starts with the value of an expression. -/
theorem evaluating (runs : D.Runs run) (rounds : Nat) (expression : Expr)
    {next : Value → Eval Flow} (good : D.Good machine)
    (h : ∀ {after value}, D.Good after → D.Fair after.store value →
      D.Executes (next value) after) :
    D.Executes (Eval.expr run rounds expression >>= next) machine := by
  refine Keeps.bind D.busy_trans (D.busily (D.expr runs rounds expression good)) ?_
  exact fun after value reached fair => h (D.good_of_busy reached) fair

/-- The test of a loop. -/
theorem test (runs : D.Runs run) (rounds : Nat) (condition : Expr) {after : Bool → Eval Bool}
    (good : D.Good machine)
    (h : ∀ {machine} holds, D.Good machine → (after holds).Keeps D.Busy machine fun _ _ => True) :
    Keeps (do
      let holds ← truthy (← Eval.expr run rounds condition)
      after holds) D.Busy machine fun _ _ => True := by
  refine Keeps.bind D.busy_trans (D.busily (D.expr runs rounds condition good)) ?_
  intro middle value reached _
  exact Keeps.get (h _ (D.good_of_busy reached))

/-- An assignment of a value that is at hand, with what the watches are told. -/
theorem assigns (name : String) {value : Value} (good : D.Good machine)
    (fair : D.Fair machine.store value) :
    D.Executes (do
      let stored ← Eval.assign name value
      Eval.afterAssignment name stored
      return .next .void) machine := by
  refine Keeps.bind D.busy_trans (D.assign good fair) fun after stored reached given => ?_
  exact D.thenGoOn (D.busily (D.afterAssignment (D.good_of_busy reached) given))

mutual

/-- **Every statement obeys the discipline.** -/
theorem stmt (runs : D.Runs run) (rounds : Nat) : ∀ (statement : Stmt) {machine : Machine},
    D.Good machine → D.Executes (Eval.stmt run rounds statement) machine
  | .expression span value, machine, good => by
    rw [Eval.stmt]
    refine D.locatedFlow good fun good => ?_
    exact D.evaluating runs rounds value good fun good fair => Keeps.pure (D.busy_refl good) fair
  | .declaration span type name none, machine, good => by
    rw [Eval.stmt]
    refine D.locatedFlow good fun good => ?_
    refine Keeps.bind D.busy_trans (D.busily (D.operation good (.zero type) (by simp))) ?_
    intro after value reached fair
    exact D.thenGoOn (D.declares name type (D.good_of_busy reached) fair)
  | .declaration span type name (some value), machine, good => by
    rw [Eval.stmt]
    refine D.locatedFlow good fun good => ?_
    exact D.evaluating runs rounds value good fun good fair =>
      D.thenGoOn (D.declares name type good fair)
  | .assignment span name value, machine, good => by
    rw [Eval.stmt]
    refine D.locatedFlow good fun good => ?_
    exact D.evaluating runs rounds value good fun good fair => D.assigns name good fair
  | .compound span name op value, machine, good => by
    rw [Eval.stmt]
    refine D.locatedFlow good fun {moved} good => ?_
    refine Keeps.reading_bind (D.busy_refl good) fun old held => ?_
    -- The old value is looked up before the operand is evaluated, which may work on containers.
    have fairOld := D.fair_of_lookup good held
    refine Keeps.bind D.busy_trans (D.busily (D.expr runs rounds value good)) ?_
    intro after operand reached fair
    have operands := D.fair_two (D.fair_of_busy reached fairOld) fair
    refine Keeps.bind D.busy_trans
      (D.busily (D.operation (D.good_of_busy reached) (.binary op old operand) operands)) ?_
    exact fun after updated reached fair => D.assigns name (D.good_of_busy reached) fair
  | .element span target position value, machine, good => by
    rw [Eval.stmt]
    refine D.locatedFlow good fun good => ?_
    refine Keeps.bind D.busy_trans (D.busily (D.expr runs rounds target good)) ?_
    intro _ container first fair
    refine Keeps.bind D.busy_trans
      (D.busily (D.expr runs rounds position (D.good_of_busy first))) ?_
    intro _ index second fair'
    refine Keeps.bind D.busy_trans
      (D.busily (D.expr runs rounds value (D.good_of_busy second))) ?_
    intro _ assigned third fair''
    refine D.thenGoOn (D.busily (D.setElement (D.good_of_busy third) ?_ ?_ fair''))
    · exact D.fair_of_busy (D.busy_trans second third) fair
    · exact D.fair_of_busy third fair'
  | .function span returns name params body, machine, good => by
    rw [Eval.stmt]
    exact D.locatedFlow good fun good => D.thenGoOn (D.busily (D.quietly good (define_quiet _ _)))
  | .leave span none, machine, good => by
    rw [Eval.stmt]
    exact D.locatedFlow good fun good =>
      Keeps.pure (D.busy_refl good) (D.fair_of_isPlain rfl)
  | .leave span (some value), machine, good => by
    rw [Eval.stmt]
    refine D.locatedFlow good fun good => ?_
    exact D.evaluating runs rounds value good fun good fair => Keeps.pure (D.busy_refl good) fair
  | .raise span value, machine, good => by
    rw [Eval.stmt]
    refine D.locatedFlow good fun good => ?_
    exact D.evaluating runs rounds value good fun good _ =>
      Keeps.looking_bind (D.busy_refl good) fun _ _ => Keeps.fail (D.busy_refl good)
  | .load span path label, machine, good => by
    rw [Eval.stmt]
    exact D.locatedFlow good fun good => D.thenGoOn (D.busily (D.quietly good (load_quiet _ _ _)))
  | .branch span condition thenBody none, machine, good => by
    rw [Eval.stmt]
    refine D.locatedFlow good fun good => ?_
    refine D.evaluating runs rounds condition good fun good _ => Keeps.get ?_
    split
    · exact block runs rounds thenBody good
    · exact D.goOn good
  | .branch span condition thenBody (some elseBody), machine, good => by
    rw [Eval.stmt]
    refine D.locatedFlow good fun good => ?_
    refine D.evaluating runs rounds condition good fun good _ => Keeps.get ?_
    split
    · exact block runs rounds thenBody good
    · exact block runs rounds elseBody good
  | .whileLoop span condition preroll body, machine, good => by
    rw [Eval.stmt]
    refine D.locatedFlow good fun good => ?_
    refine D.unlessLeaves (D.repeatBody (block runs rounds body) preroll good) (fun _ => rfl)
      fun reached => ?_
    refine D.loopWhile (fun good => D.test runs rounds condition good ?_)
      (block runs rounds body) rounds (D.good_of_busy reached)
    exact fun _ good => Keeps.get (Keeps.pure (D.busy_refl good) trivial)
  | .untilLoop span condition preroll body, machine, good => by
    rw [Eval.stmt]
    refine D.locatedFlow good fun good => ?_
    refine D.unlessLeaves (D.repeatBody (block runs rounds body) preroll good) (fun _ => rfl)
      fun reached => ?_
    refine D.loopWhile (fun good => D.test runs rounds condition good ?_)
      (block runs rounds body) rounds (D.good_of_busy reached)
    exact fun _ good => Keeps.get (Keeps.pure (D.busy_refl good) trivial)
  | .forLoop span first condition step body, machine, good => by
    rw [Eval.stmt]
    refine D.locatedFlow good fun good => ?_
    refine Keeps.bind D.busy_trans (D.discards (stmt runs rounds first good)) ?_
    intro after _ reached _
    refine D.loopWhile (fun good => ?_) (fun good => ?_) rounds (D.good_of_busy reached)
    · refine Keeps.bind D.busy_trans (D.busily (D.expr runs rounds condition good)) ?_
      exact fun after value reached _ =>
        Keeps.get (Keeps.pure (D.busy_refl (D.good_of_busy reached)) trivial)
    · exact D.unlessLeaves (block runs rounds body good) (fun _ => rfl) fun reached =>
        D.thenGoOn (D.discards (stmt runs rounds step (D.good_of_busy reached)))
  | .forEach span type name iterable body, machine, good => by
    rw [Eval.stmt]
    refine D.locatedFlow good fun good => ?_
    refine D.evaluating runs rounds iterable good fun good fair => ?_
    refine Keeps.bind D.busy_trans (D.busily (D.items good fair)) ?_
    exact fun after items reached fair =>
      D.forEach (block runs rounds body) (D.good_of_busy reached) fair
  | .choice span subject cases none, machine, good => by
    rw [Eval.stmt]
    refine D.locatedFlow good fun good => ?_
    refine D.evaluating runs rounds subject good fun {_ value} good _ => ?_
    refine Keeps.bind D.busy_trans (choose runs rounds value cases good) ?_
    intro after chosen reached given
    cases chosen with
    | some flow => exact Keeps.pure (D.busy_refl (D.good_of_busy reached)) (given flow rfl)
    | none => exact D.goOn (D.good_of_busy reached)
  | .choice span subject cases (some body), machine, good => by
    rw [Eval.stmt]
    refine D.locatedFlow good fun good => ?_
    refine D.evaluating runs rounds subject good fun {_ value} good _ => ?_
    refine Keeps.bind D.busy_trans (choose runs rounds value cases good) ?_
    intro after chosen reached given
    cases chosen with
    | some flow => exact Keeps.pure (D.busy_refl (D.good_of_busy reached)) (given flow rfl)
    | none => exact block runs rounds body (D.good_of_busy reached)
  | .signal span name, machine, good => by
    rw [Eval.stmt]
    exact D.locatedFlow good fun good =>
      D.thenGoOn (D.busily (D.quietly good (declareSignal_quiet name _)))
  | .emit span name, machine, good => by
    rw [Eval.stmt]
    exact D.locatedFlow good fun good => D.thenGoOn (D.busily (D.quietly good (emit_quiet name _)))
  | .when span name body, machine, good => by
    rw [Eval.stmt]
    exact D.locatedFlow good fun good =>
      D.thenGoOn (D.busily (D.quietly good (attachHandler_quiet name body _)))
  | .watch span name body, machine, good => by
    rw [Eval.stmt]
    exact D.locatedFlow good fun good => D.thenGoOn (D.busily (D.registerWatch good))

/-- Statements in order obey the discipline. -/
theorem block (runs : D.Runs run) (rounds : Nat) : ∀ (statements : List Stmt) {machine : Machine},
    D.Good machine → D.Executes (Eval.block run rounds statements) machine
  | [], machine, good => by
    rw [Eval.block]
    exact D.goOn good
  | first :: rest, machine, good => by
    rw [Eval.block]
    exact D.unlessLeaves (stmt runs rounds first good) (fun _ => rfl) fun reached =>
      block runs rounds rest (D.good_of_busy reached)

/-- The cases of a choice obey the discipline. -/
theorem choose (runs : D.Runs run) (rounds : Nat) (subject : Value) :
    ∀ (cases : List (Case Stmt)) {machine : Machine}, D.Good machine →
      (Eval.choose run rounds subject cases).Keeps D.Busy machine fun after chosen =>
        ∀ flow, chosen = some flow → D.FairFlow after.store flow
  | [], machine, good => by
    rw [Eval.choose]
    exact Keeps.pure (D.busy_refl good) (by simp)
  | ⟨span, label, body⟩ :: rest, machine, good => by
    rw [Eval.choose]
    have moved := D.busy_of_calm (D.calm_of_quiet good (machine.quiet_current span))
    refine Keeps.change_bind D.busy_trans moved ?_
    refine Keeps.bind D.busy_trans
      (D.busily (D.expr runs rounds label (D.good_of_busy moved))).blaming ?_
    intro after candidate reached _
    refine Keeps.looking_bind (D.busy_refl (D.good_of_busy reached)) fun same _ => ?_
    split
    · refine Keeps.bind D.busy_trans (block runs rounds body (D.good_of_busy reached)) ?_
      intro final flow further fair
      refine Keeps.pure (D.busy_refl (D.good_of_busy further)) fun found same => ?_
      cases same
      exact fair
    · exact choose runs rounds subject rest (D.good_of_busy reached)

end

/-! ## Programs -/

/-- **Every body obeys the discipline, within every budget.** -/
theorem bodyWithin (budget : Nat) : D.Runs (Eval.bodyWithin budget) := by
  induction budget with
  | zero => exact fun body machine good => Keeps.throw (D.busy_refl good)
  | succ budget ih => exact fun body machine good => D.block ih budget body good

/-- An expression within a budget. -/
theorem exprWithin (budget : Nat) (expression : Expr) (good : D.Good machine) :
    D.Evaluates (Eval.exprWithin budget expression) machine :=
  D.expr (D.bodyWithin budget) budget expression good

/-- A statement within a budget. -/
theorem stmtWithin (budget : Nat) (statement : Stmt) (good : D.Good machine) :
    D.Executes (Eval.stmtWithin budget statement) machine :=
  D.stmt (D.bodyWithin budget) budget statement good

/-- The statements of a program. -/
theorem topLevel (budget : Nat) (statements : List Stmt) {last : Value} (good : D.Good machine) :
    (Eval.topLevel budget last statements).Keeps D.Busy machine fun _ _ => True := by
  induction statements generalizing last machine with
  | nil => exact Keeps.pure (D.busy_refl good) trivial
  | cons first rest ih =>
    refine Keeps.bind D.busy_trans (D.stmtWithin budget first good) fun _ flow reached _ => ?_
    cases flow with
    | next value => exact ih (D.good_of_busy reached)
    | leave value => exact Keeps.pure (D.busy_refl (D.good_of_busy reached)) trivial

/-- An evaluation whose fault stops the machine. -/
theorem halting {α : Type} {action : Eval α} {gives : Machine → α → Prop}
    (h : action.Keeps D.Busy machine gives) :
    (Eval.halting action).Keeps D.Busy machine gives := by
  unfold Keeps Eval.halting at *
  cases ended : action machine with
  | ok value after =>
    rw [ended] at h
    exact h
  | error stop after =>
    rw [ended] at h
    cases stop with
    | fault fault =>
      have stopped := D.calm_of_quiet (D.good_of_busy h) (after.quiet_running false)
      exact D.busy_trans h (D.busy_of_calm stopped)
    | exhausted => exact h

/-- A program. -/
theorem program (budget : Nat) (statements : List Stmt) (good : D.Good machine) :
    (Eval.program budget statements).Keeps D.Busy machine fun _ _ => True :=
  D.halting (D.topLevel budget statements good)

/-- **Every source text obeys the discipline**, whether it is a program or not. -/
theorem source (budget : Nat) (text : String) (good : D.Good machine) :
    (Eval.source budget text).Keeps D.Busy machine fun _ _ => True := by
  unfold Eval.source
  split
  · exact D.program budget _ good
  · exact D.halting (Keeps.throw (D.busy_refl good))

/-- Waiting for the handlers that are in line. -/
theorem waitForHandlers (budget : Nat) (good : D.Good machine) :
    (Eval.waitForHandlers budget).Keeps D.Busy machine fun _ _ => True :=
  D.settle (D.bodyWithin budget) budget good

end Discipline

/-- Surroundings with nothing in them. -/
def World.bare : World where
  arguments := []
  files := .empty "/"
  input := []
  output := ""
  clock := 0
  seed := 0

/-- A machine before any program that sees some source files and nothing else. -/
def Machine.amid (files : List (String × String)) : Machine :=
  .initial .standard { World.bare with
    files := ⟨"/d", ⟨files.map fun (name, text) => (name, .text text)⟩⟩ }

end ReactiveScript
