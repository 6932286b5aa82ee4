import ReactiveScript.Proofs.Module.Mirror

/-! # Bodies of a module side by side

Apart from calls an expression or statement looks at neither functions nor labels, so that it
mirrors itself wherever the calls in it do (`Labelling.Calls`). In a body of the module a call means
the function of the module on both machines, or the same built-in function; and a call of a function
mirrors itself if its body does. So the bodies of a module mirror themselves, within every budget
(`Labelling.Mirror.bodyWithin`). -/

namespace ReactiveScript

open Eval

/-- A call by a name, whose arguments are evaluated once the function is known. -/
def Eval.calling (run : Runner) (rounds : Nat) (name : String) (arguments : Eval (List Value)) :
    Eval Value := do
  let machine ← get
  let resolved := machine.resolve name
  match machine.natives.find? resolved with
  | some function =>
    let values ← arguments
    returning (native (settle run rounds) function ⟨resolved, values⟩)
  | none =>
    match machine.functions.find? resolved with
    | some function =>
      let values ← arguments
      invoke run resolved function values
    | none => fail (.undefinedFunction resolved)

/-- What a call gives, from how the body of the function ended. -/
def Eval.handBack (returns : Ty) : Flow → Eval Value
  | .leave value => alloc (value.coerce returns)
  | .next _ => pure .void

/-- What a call of a function does on a machine. -/
theorem Eval.invoke_eq (run : Runner) (name : String) (function : Function) (arguments : List Value)
    (machine : Machine) :
    invoke run name function arguments machine =
      (if machine.config.maxCallDepth ≤ machine.context.callDepth then
        fail (.callDepth machine.config.maxCallDepth name)
      else
        bracket (·.enter function) (·.leave machine.context name function)
          (bindParams function.params arguments >>= fun _ => run function.body) >>=
        handBack function.returns : Eval Value) machine := rfl

namespace Labelling

variable {M : Labelling} {here there : Option String} {run : Runner} {rounds : Nat}
  {allowed : String → Bool} {α : Type}

/-- **Calls of some names mirror themselves**, if their arguments do. -/
def Calls (M : Labelling) (here there : Option String) (run : Runner) (rounds : Nat)
    (allowed : String → Bool) : Prop :=
  ∀ name, allowed name = true → ∀ arguments, M.Mirror here there arguments arguments →
    M.Mirror here there (calling run rounds name arguments) (calling run rounds name arguments)

namespace Mirror

/-! ## Expressions -/

/-- The bound or step of a range. -/
theorem rangeBound (role : String) (value : Value) :
    M.Mirror here there (Eval.rangeBound role value) (Eval.rangeBound role value) := by
  unfold Eval.rangeBound
  cases value.asInt? with
  | some n => exact pure n
  | none => exact fail _

mutual

/-- **Every expression mirrors itself if the calls in it do.** -/
theorem expr (calls : M.Calls here there run rounds allowed) : ∀ (expression : Expr),
    expression.callsWithin allowed = true →
    M.Mirror here there (Eval.expr run rounds expression) (Eval.expr run rounds expression)
  | .literal span value, _ => by
    rw [Eval.expr]
    exact located span _ (pure _)
  | .var span name, _ => by
    rw [Eval.expr]
    exact located span _ (reading fun _ _ _ => rfl)
  | .binary span op left right, within => by
    obtain ⟨first, second⟩ := Bool.and_eq_true_iff.mp within
    rw [Eval.expr]
    refine located span _ (bind (expr calls left first) fun x => ?_)
    exact bind (expr calls right second) fun y => alloc _
  | .logical span op left right, within => by
    obtain ⟨first, second⟩ := Bool.and_eq_true_iff.mp within
    rw [Eval.expr]
    refine located span _ (bind (expr calls left first) fun x => ?_)
    exact bind (expr calls right second) fun y => ofExcept _
  | .comparison span op left right, within => by
    obtain ⟨first, second⟩ := Bool.and_eq_true_iff.mp within
    rw [Eval.expr]
    refine located span _ (bind (expr calls left first) fun x => ?_)
    refine bind (expr calls right second) fun y => ?_
    exact bind (looking _) fun _ => pure _
  | .unary span op operand, within => by
    rw [Eval.expr]
    refine located span _ (bind (expr calls operand within) fun value => ?_)
    exact reading fun _ _ _ => rfl
  | .cast span target operand, within => by
    rw [Eval.expr]
    exact located span _ (bind (expr calls operand within) fun value => alloc _)
  | .call span name arguments, within => by
    obtain ⟨known, inside⟩ := Bool.and_eq_true_iff.mp within
    rw [Eval.expr]
    -- Only here is a function looked up, on each side in its own table.
    exact located span _ (calls name known _ (exprs calls arguments inside))
  | .range span first last none inclusive, within => by
    obtain ⟨starts, stops⟩ := Bool.and_eq_true_iff.mp within
    rw [Eval.expr]
    refine located span _ (bind (expr calls first starts) fun x => ?_)
    refine bind (rangeBound _ x) fun start => bind (expr calls last stops) fun y => ?_
    exact bind (rangeBound _ y) fun bound => alloc _
  | .range span first last (some step) inclusive, within => by
    obtain ⟨starts, rest⟩ := Bool.and_eq_true_iff.mp within
    obtain ⟨stops, steps⟩ := Bool.and_eq_true_iff.mp rest
    rw [Eval.expr]
    refine located span _ (bind (expr calls first starts) fun x => ?_)
    refine bind (rangeBound _ x) fun start => bind (expr calls last stops) fun y => ?_
    refine bind (rangeBound _ y) fun bound => bind (expr calls step steps) fun z => ?_
    exact bind (rangeBound _ z) fun size => alloc _
  | .list span items, within => by
    rw [Eval.expr]
    exact located span _ (bind (exprs calls items within) fun values => alloc _)
  | .dict span entries, within => by
    rw [Eval.expr]
    exact located span _ (bind (entryExprs calls [] entries within) fun values => alloc _)
  | .index span target position, within => by
    obtain ⟨first, second⟩ := Bool.and_eq_true_iff.mp within
    rw [Eval.expr]
    refine located span _ (bind (expr calls target first) fun container => ?_)
    exact bind (expr calls position second) fun index => alloc _

/-- Expressions in order mirror themselves. -/
theorem exprs (calls : M.Calls here there run rounds allowed) : ∀ (expressions : List Expr),
    Expr.allCallWithin allowed expressions = true →
    M.Mirror here there (Eval.exprs run rounds expressions) (Eval.exprs run rounds expressions)
  | [], _ => by
    rw [Eval.exprs]
    exact pure _
  | first :: rest, within => by
    obtain ⟨head, tail⟩ := Bool.and_eq_true_iff.mp within
    rw [Eval.exprs]
    refine bind (expr calls first head) fun value => ?_
    exact bind (exprs calls rest tail) fun values => pure _

/-- The entries of a dictionary mirror themselves. -/
theorem entryExprs (calls : M.Calls here there run rounds allowed)
    (before : List (Value × Value)) : ∀ (entries : List (Expr × Expr)),
    Expr.entriesCallWithin allowed entries = true →
    M.Mirror here there (Eval.entryExprs run rounds before entries)
      (Eval.entryExprs run rounds before entries)
  | [], _ => by
    rw [Eval.entryExprs]
    exact pure _
  | (key, value) :: rest, within => by
    obtain ⟨head, tail⟩ := Bool.and_eq_true_iff.mp within
    obtain ⟨entry, others⟩ := Bool.and_eq_true_iff.mp tail
    rw [Eval.entryExprs]
    refine bind (expr calls key head) fun x => bind (expr calls value entry) fun y => ?_
    exact bind (looking _) fun set => entryExprs calls set rest others

end

/-! ## Statements -/

/-- Whether a value counts as true. -/
theorem truthy (value : Value) : M.Mirror here there (Eval.truthy value) (Eval.truthy value) :=
  get fun _ _ _ => pure _

/-- What a loop goes through. -/
theorem itemsOf (value : Value) :
    M.Mirror here there (Eval.itemsOf value) (Eval.itemsOf value) := by
  cases value with
  | list handle => exact get fun _ _ _ => pure _
  | dict handle => exact get fun _ _ _ => pure _
  | text s => exact pure _
  | _ => exact fail _

/-- A declaration whose value is not looked at. -/
theorem declares (name : String) (value : Value) (type : Ty) :
    M.Mirror here there (discard <| declare name value type)
      (discard <| declare name value type) :=
  bind (scoping _) fun _ => pure _

/-- A statement that leaves ends what it stands in; any other is followed by the rest. -/
theorem unlessLeaves {first : Eval Flow} {next : Flow → Eval Flow}
    (h : M.Mirror here there first first)
    (leaves : ∀ value, next (.leave value) = Pure.pure (.leave value))
    (rest : ∀ value, M.Mirror here there (next (.next value)) (next (.next value))) :
    M.Mirror here there (first >>= next) (first >>= next) := by
  refine bind h fun flow => ?_
  cases flow with
  | leave value =>
    rw [leaves]
    exact pure _
  | next value => exact rest value

/-- What was chosen is the end of a choice; if there is nothing, what stands for it follows. -/
theorem unlessChosen {first : Eval (Option Flow)} {next : Option Flow → Eval Flow}
    (h : M.Mirror here there first first)
    (chosen : ∀ flow, next (some flow) = Pure.pure flow)
    (otherwise : M.Mirror here there (next none) (next none)) :
    M.Mirror here there (first >>= next) (first >>= next) := by
  refine bind h fun found => ?_
  cases found with
  | some flow =>
    rw [chosen]
    exact pure _
  | none => exact otherwise

/-- The test of a loop or branch. -/
theorem test {α : Type} {condition : Eval Value} {next : Bool → Eval α}
    (conditions : M.Mirror here there condition condition)
    (h : ∀ holds, M.Mirror here there (next holds) (next holds)) :
    M.Mirror here there
      (do
        let holds ← Eval.truthy (← condition)
        next holds)
      (do
        let holds ← Eval.truthy (← condition)
        next holds) :=
  bind conditions fun value => bind (truthy value) h

section Loops

variable {body : Eval Flow} (bodies : M.Mirror here there body body)

include bodies

/-- A loop that runs its body a number of times. -/
theorem repeatBody (count : Nat) :
    M.Mirror here there (Eval.repeatBody body count) (Eval.repeatBody body count) := by
  induction count with
  | zero => exact pure _
  | succ count ih => exact unlessLeaves bodies (fun _ => rfl) fun _ => ih

/-- A loop with a condition. -/
theorem loopWhile {test : Eval Bool} (tests : M.Mirror here there test test) (rounds : Nat) :
    M.Mirror here there (Eval.loopWhile test body rounds) (Eval.loopWhile test body rounds) := by
  induction rounds with
  | zero => exact exhausted
  | succ rounds ih =>
    refine bind tests fun holds => ?_
    cases holds with
    | true => exact unlessLeaves bodies (fun _ => rfl) fun _ => ih
    | false => exact pure _

/-- A loop over values. -/
theorem forEach (name : String) (type : Ty) (items : List Value) :
    M.Mirror here there
      (Eval.forEach (fun item => discard <| declare name item type) body items)
      (Eval.forEach (fun item => discard <| declare name item type) body items) := by
  induction items with
  | nil => exact pure _
  | cons item items ih =>
    refine bind (declares name item type) fun _ => ?_
    exact unlessLeaves bodies (fun _ => rfl) fun _ => ih

end Loops

mutual

/-- **Every statement that keeps to some functions mirrors itself if the calls of these do.** -/
theorem stmt (calls : M.Calls here there run rounds allowed) : ∀ (statement : Stmt),
    statement.callsWithin allowed = true →
    M.Mirror here there (Eval.stmt run rounds statement) (Eval.stmt run rounds statement)
  | .expression span value, within => by
    rw [Eval.stmt]
    exact located span _ (bind (expr calls value within) fun _ => pure _)
  | .declaration span type name none, _ => by
    rw [Eval.stmt]
    refine located span _ (bind (alloc _) fun value => ?_)
    exact bind (declares name value type) fun _ => pure _
  | .declaration span type name (some value), within => by
    rw [Eval.stmt]
    refine located span _ (bind (expr calls value within) fun initial => ?_)
    exact bind (declares name initial type) fun _ => pure _
  | .assignment span name value, within => by
    rw [Eval.stmt]
    refine located span _ (bind (expr calls value within) fun assigned => ?_)
    refine bind (scoping _) fun stored => ?_
    exact bind (afterAssignment name stored) fun _ => pure _
  | .compound span name op value, within => by
    rw [Eval.stmt]
    refine located span _ (bind (reading fun _ _ _ => rfl) fun old => ?_)
    refine bind (expr calls value within) fun operand => bind (alloc _) fun updated => ?_
    refine bind (scoping _) fun stored => ?_
    exact bind (afterAssignment name stored) fun _ => pure _
  | .element span target position value, within => by
    obtain ⟨targets, rest⟩ := Bool.and_eq_true_iff.mp within
    obtain ⟨positions, values⟩ := Bool.and_eq_true_iff.mp rest
    rw [Eval.stmt]
    refine located span _ (bind (expr calls target targets) fun container => ?_)
    refine bind (expr calls position positions) fun index => ?_
    refine bind (expr calls value values) fun assigned => ?_
    exact bind (setElement container index assigned) fun _ => pure _
  | .leave span none, _ => by
    rw [Eval.stmt]
    exact located span _ (pure _)
  | .leave span (some value), within => by
    rw [Eval.stmt]
    exact located span _ (bind (expr calls value within) fun _ => pure _)
  | .raise span value, within => by
    rw [Eval.stmt]
    refine located span _ (bind (expr calls value within) fun thrown => ?_)
    exact bind (looking _) fun _ => fail _
  | .branch span condition thenBody none, within => by
    obtain ⟨conditions, bodies⟩ := Bool.and_eq_true_iff.mp within
    rw [Eval.stmt]
    refine located span _ (test (expr calls condition conditions) fun holds => ?_)
    cases holds with
    | true => exact block calls thenBody bodies
    | false => exact pure _
  | .branch span condition thenBody (some elseBody), within => by
    obtain ⟨conditions, rest⟩ := Bool.and_eq_true_iff.mp within
    obtain ⟨thens, elses⟩ := Bool.and_eq_true_iff.mp rest
    rw [Eval.stmt]
    refine located span _ (test (expr calls condition conditions) fun holds => ?_)
    cases holds with
    | true => exact block calls thenBody thens
    | false => exact block calls elseBody elses
  | .whileLoop span condition preroll body, within => by
    obtain ⟨conditions, bodies⟩ := Bool.and_eq_true_iff.mp within
    have round := block calls body bodies
    rw [Eval.stmt]
    refine located span _ (unlessLeaves (repeatBody round preroll) (fun _ => rfl) fun _ => ?_)
    -- Whether a machine is running is the same on both sides.
    refine loopWhile round (test (expr calls condition conditions) fun holds => ?_) rounds
    exact get fun _ _ _ => pure _
  | .untilLoop span condition preroll body, within => by
    obtain ⟨conditions, bodies⟩ := Bool.and_eq_true_iff.mp within
    have round := block calls body bodies
    rw [Eval.stmt]
    refine located span _ (unlessLeaves (repeatBody round preroll) (fun _ => rfl) fun _ => ?_)
    refine loopWhile round (test (expr calls condition conditions) fun holds => ?_) rounds
    exact get fun _ _ _ => pure _
  | .forLoop span first condition step body, within => by
    obtain ⟨heads, rest⟩ := Bool.and_eq_true_iff.mp within
    obtain ⟨firsts, conditions⟩ := Bool.and_eq_true_iff.mp heads
    obtain ⟨steps, bodies⟩ := Bool.and_eq_true_iff.mp rest
    rw [Eval.stmt]
    refine located span _ (bind (bind (stmt calls first firsts) fun _ => pure _) fun _ => ?_)
    refine loopWhile ?_ (bind (expr calls condition conditions) fun value => truthy value) rounds
    refine unlessLeaves (block calls body bodies) (fun _ => rfl) fun _ => ?_
    exact bind (bind (stmt calls step steps) fun _ => pure _) fun _ => pure _
  | .forEach span type name iterable body, within => by
    obtain ⟨iterables, bodies⟩ := Bool.and_eq_true_iff.mp within
    rw [Eval.stmt]
    refine located span _ (bind (expr calls iterable iterables) fun value => ?_)
    refine bind (itemsOf value) fun items => ?_
    exact forEach (block calls body bodies) name type items
  | .choice span subject cases none, within => by
    obtain ⟨subjects, branches⟩ := Bool.and_eq_true_iff.mp within
    rw [Eval.stmt]
    refine located span _ (bind (expr calls subject subjects) fun value => ?_)
    exact unlessChosen (choose calls value cases branches) (fun _ => rfl) (pure _)
  | .choice span subject cases (some body), within => by
    obtain ⟨subjects, rest⟩ := Bool.and_eq_true_iff.mp within
    obtain ⟨branches, bodies⟩ := Bool.and_eq_true_iff.mp rest
    rw [Eval.stmt]
    refine located span _ (bind (expr calls subject subjects) fun value => ?_)
    exact unlessChosen (choose calls value cases branches) (fun _ => rfl) (block calls body bodies)
  | .function .., within | .load .., within | .signal .., within | .emit .., within
  | .when .., within | .watch .., within => by cases within

/-- Statements in order mirror themselves. -/
theorem block (calls : M.Calls here there run rounds allowed) : ∀ (statements : List Stmt),
    Stmt.allCallWithin allowed statements = true →
    M.Mirror here there (Eval.block run rounds statements) (Eval.block run rounds statements)
  | [], _ => by
    rw [Eval.block]
    exact pure _
  | first :: rest, within => by
    obtain ⟨head, tail⟩ := Bool.and_eq_true_iff.mp within
    rw [Eval.block]
    exact unlessLeaves (stmt calls first head) (fun _ => rfl) fun _ => block calls rest tail

/-- The cases of a choice mirror themselves. -/
theorem choose (calls : M.Calls here there run rounds allowed) (subject : Value) :
    ∀ (cases : List (Case Stmt)), Stmt.casesCallWithin allowed cases = true →
      M.Mirror here there (Eval.choose run rounds subject cases)
        (Eval.choose run rounds subject cases)
  | [], _ => by
    rw [Eval.choose]
    exact pure _
  | ⟨span, label, body⟩ :: rest, within => by
    obtain ⟨labels, others⟩ := Bool.and_eq_true_iff.mp within
    obtain ⟨bodies, branches⟩ := Bool.and_eq_true_iff.mp others
    rw [Eval.choose]
    refine bind (moveTo span) fun _ => ?_
    refine bind (blaming span (expr calls label labels)) fun candidate => ?_
    refine bind (looking _) fun same => ?_
    cases same with
    | true => exact bind (block calls body bodies) fun _ => pure _
    | false => exact choose calls subject rest branches

end

/-! ## Calls -/

/-- Binding parameters. -/
theorem bindParams (params : List Param) (arguments : List Value) :
    M.Mirror here there (Eval.bindParams params arguments) (Eval.bindParams params arguments) := by
  induction params generalizing arguments with
  | nil => exact pure _
  | cons param params ih =>
    cases arguments with
    | nil => exact pure _
    | cons argument rest =>
      exact bind (declares param.name argument param.type) fun _ => ih rest

end Mirror

/-- A function of the module joins both tables. -/
theorem Mirrored.insert {names names' : List String} {first second : Table Function} {name : String}
    {function : Function} (h : M.Mirrored names first second) (owns : M.Owns function)
    (more : ∀ other, other ∈ names' ↔ other = name ∨ other ∈ names) :
    M.Mirrored names' (first.insert (labelled M.label name) (function.under M.label))
      (second.insert name function) where
  both other mem := by
    rw [Table.find?_insert, Table.find?_insert]
    by_cases same : other = name
    · subst same
      rw [if_pos rfl, if_pos rfl]
      exact ⟨function, owns, rfl, rfl⟩
    · rw [if_neg same, if_neg fun equal => same (labelled_right_inj equal)]
      exact h.both other (((more other).mp mem).resolve_left same)
  alone other missing := by
    have differs : other ≠ name := fun same => missing ((more other).mpr (.inl same))
    rw [Table.find?_insert, if_neg fun equal => differs (labelled_right_inj equal)]
    exact h.alone other fun mem => missing ((more other).mpr (.inr mem))

namespace Facing

variable {first second final final' : Machine} {name : String} {function : Function}

/-- Entering a function of the module from anywhere puts the first machine behind the label. -/
theorem enter (h : M.Facing here there first second) (owns : M.Owns function) :
    M.Facing (some M.label) none (first.enter (function.under M.label))
      (second.enter function) := by
  obtain ⟨⟨functions, pending, rfl⟩, _, mirrored, apart⟩ := h
  refine ⟨⟨functions, pending, ?_⟩, rfl, mirrored, apart⟩
  have plain : function.label = none := owns.label
  simp only [Machine.enter, Machine.facing, plain]

/-- Leaving it puts both machines where the call was. -/
theorem leave (h : M.Facing here there first second) (known : name ∈ M.names)
    (owns : M.Owns function) (inside : M.Facing (some M.label) none final final') :
    M.Facing here there
      (final.leave first.context (labelled M.label name) (function.under M.label))
      (final'.leave second.context name function) := by
  obtain ⟨⟨_, _, rfl⟩, label, _, _⟩ := h
  obtain ⟨⟨functions, pending, rfl⟩, _, mirrored, apart⟩ := inside
  -- Leaving puts the function back into the table, where it may have been replaced meanwhile.
  refine ⟨⟨functions.insert name function, pending, rfl⟩, label, ?_, apart⟩
  refine mirrored.insert owns fun other => ⟨.inr, ?_⟩
  rintro (rfl | mem)
  · exact known
  · exact mem

end Facing

namespace Mirror

/-- **A call of a function of the module mirrors itself** if its body does. -/
theorem invoke {name : String} {function : Function} (arguments : List Value)
    (known : name ∈ M.names) (owns : M.Owns function)
    (runs : M.Mirror (some M.label) none (run function.body) (run function.body)) :
    M.Mirror here there
      (Eval.invoke run (labelled M.label name) (function.under M.label) arguments)
      (Eval.invoke run name function arguments) := by
  intro first second facing
  rw [Eval.invoke_eq, Eval.invoke_eq]
  have settings : second.config = first.config := by rw [facing.eq_facing]; rfl
  have depth : second.context.callDepth = first.context.callDepth := by rw [facing.eq_facing]; rfl
  rw [settings, depth]
  by_cases deep : first.config.maxCallDepth ≤ first.context.callDepth
  · -- Here, and only here, the faults differ: each quotes the name that its machine knows.
    rw [if_pos deep, if_pos deep]
    exact .fault (.depth _ name .unknown) facing
  · rw [if_neg deep, if_neg deep]
    have body : M.Mirror (some M.label) none
        (Eval.bindParams function.params arguments >>= fun _ => run function.body)
        (Eval.bindParams function.params arguments >>= fun _ => run function.body) :=
      bind (bindParams function.params arguments) fun _ => runs
    have called := body _ _ (facing.enter owns)
    refine (called.bracket fun inside => facing.leave known owns inside).bind fun flow => ?_
    cases flow with
    | leave value => exact alloc _
    | next value => exact pure _

end Mirror

/-! ## What calls mean -/

section Meaning

variable {machine : Machine} {name resolved : String} {native : Native} {function : Function}
  (arguments : Eval (List Value))

/-- What a call by a name does on a machine. -/
theorem calling_eq (machine : Machine) (name : String) :
    calling run rounds name arguments machine =
      (match machine.natives.find? (machine.resolve name) with
        | some native => arguments >>= fun values =>
          returning (Eval.native (settle run rounds) native ⟨machine.resolve name, values⟩)
        | none => match machine.functions.find? (machine.resolve name) with
          | some function => arguments >>= fun values =>
            Eval.invoke run (machine.resolve name) function values
          | none => fail (.undefinedFunction (machine.resolve name)) : Eval Value) machine := rfl

/-- A call that means a built-in function. -/
theorem calling_of_native (means : machine.resolve name = resolved)
    (found : machine.natives.find? resolved = some native) :
    calling run rounds name arguments machine =
      (arguments >>= fun values =>
        returning (Eval.native (settle run rounds) native ⟨resolved, values⟩)) machine := by
  rw [calling_eq, means, found]

/-- A call that means a declared function. -/
theorem calling_of_function (means : machine.resolve name = resolved)
    (missing : machine.natives.find? resolved = none)
    (found : machine.functions.find? resolved = some function) :
    calling run rounds name arguments machine =
      (arguments >>= fun values => Eval.invoke run resolved function values) machine := by
  rw [calling_eq, means, missing]
  dsimp only
  rw [found]

/-- In the code of no module a name means itself. -/
theorem resolve_of_unlabelled (outside : machine.context.label = none) :
    machine.resolve name = name := by
  unfold Machine.resolve
  rw [outside]

/-- In the code of a module a name means itself unless a function has it behind the label. -/
theorem resolve_of_labelled {label : String} (inside : machine.context.label = some label) :
    machine.resolve name =
      if machine.hasFunction (labelled label name) then labelled label name else name := by
  unfold Machine.resolve
  rw [inside]

end Meaning

section Alike

variable {first second : Machine} {name : String} {arguments : Eval (List Value)}

/-- A function that is always there is called alike where its name means itself. -/
theorem calls_installed (facing : M.Facing here there first second)
    (h : M.Mirror here there arguments arguments) (installed : Native.isInstalled name = true)
    (means : first.resolve name = name) (means' : second.resolve name = name) :
    M.EndsFacing here there (calling run rounds name arguments first)
      (calling run rounds name arguments second) := by
  obtain ⟨entry, mem, same⟩ := List.any_eq_true.mp installed
  obtain rfl := beq_iff_eq.mp same
  have found := facing.natives.installed entry mem
  have found' := found
  rw [← facing.natives_eq] at found'
  rw [calling_of_native arguments means found, calling_of_native arguments means' found']
  exact h.bind (fun values => (Mirror.installed mem _ _).returning) first second facing

/-- A function of the module is called alike by what means it behind the label on the first machine
and by its name on the second. -/
theorem calls_known {called : String} (facing : M.Facing here there first second)
    (h : M.Mirror here there arguments arguments) (known : name ∈ M.names)
    (runs : ∀ body, Stmt.allCallWithin M.allows body = true →
      M.Mirror (some M.label) none (run body) (run body))
    (means : first.resolve called = labelled M.label name) (means' : second.resolve name = name) :
    M.EndsFacing here there (calling run rounds called arguments first)
      (calling run rounds name arguments second) := by
  obtain ⟨function, owns, found', found⟩ := facing.functions.both name known
  have missing' := facing.natives.names name known
  rw [← facing.natives_eq] at missing'
  rw [calling_of_function arguments means (facing.natives.behind name) found,
    calling_of_function arguments means' missing' found']
  exact h.bind (fun values => Mirror.invoke values known owns (runs _ owns.body)) first second
    facing

end Alike

/-- **Outside of every module** calls of functions that are always there mirror themselves. -/
theorem calls_outside (M : Labelling) (run : Runner) (rounds : Nat) :
    M.Calls none none run rounds Native.isInstalled := by
  intro name installed arguments h first second facing
  exact calls_installed facing h installed (resolve_of_unlabelled facing.label)
    (resolve_of_unlabelled facing.label_there)

/-- **Inside the module** the calls that it may make mirror themselves, if the bodies do that keep
to such calls. -/
theorem calls_inside
    (runs : ∀ body, Stmt.allCallWithin M.allows body = true →
      M.Mirror (some M.label) none (run body) (run body)) :
    M.Calls (some M.label) none run rounds M.allows := by
  intro name allowed arguments h first second facing
  have means : first.resolve name = if first.hasFunction (labelled M.label name) then
      labelled M.label name else name := resolve_of_labelled facing.label
  have means' : second.resolve name = name := resolve_of_unlabelled facing.label_there
  by_cases known : name ∈ M.names
  · -- The label leads the first machine to the function that the second finds by its name.
    obtain ⟨function, _, _, found⟩ := facing.functions.both name known
    have has : first.hasFunction (labelled M.label name) = true := by
      simp [Machine.hasFunction, Table.contains, found]
    rw [if_pos has] at means
    exact calls_known facing h known runs means means'
  · -- Nothing but functions of the module stands behind the label, so the name means itself.
    have installed : Native.isInstalled name = true := by
      simpa [allows, known] using allowed
    have lacks : ¬ first.hasFunction (labelled M.label name) = true := by
      simp [Machine.hasFunction, Table.contains, facing.functions.alone name known,
        facing.natives.behind name]
    rw [if_neg lacks] at means
    exact calls_installed facing h installed means means'

/-- **From outside**, a function of the module is called by its name behind the label on the first
machine and by its name on the second. -/
theorem Mirror.calling (rounds : Nat) {name : String} {arguments : Eval (List Value)}
    (known : name ∈ M.names) (h : M.Mirror none none arguments arguments)
    (runs : ∀ body, Stmt.allCallWithin M.allows body = true →
      M.Mirror (some M.label) none (run body) (run body)) :
    M.Mirror none none (calling run rounds (labelled M.label name) arguments)
      (calling run rounds name arguments) := by
  intro first second facing
  exact calls_known facing h known runs (resolve_of_unlabelled facing.label)
    (resolve_of_unlabelled facing.label_there)

/-- **The bodies of the module mirror themselves within every budget.** -/
theorem Mirror.bodyWithin (budget : Nat) (body : List Stmt)
    (within : Stmt.allCallWithin M.allows body = true) :
    M.Mirror (some M.label) none (Eval.bodyWithin budget body) (Eval.bodyWithin budget body) := by
  induction budget generalizing body with
  | zero => exact exhausted
  | succ budget ih => exact block (calls_inside fun body within => ih body within) body within

end Labelling

end ReactiveScript
