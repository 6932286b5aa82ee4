import ReactiveScript.Proofs.Regime.Broad

/-! # Two imports of a module side by side

A module is imported under a label on one machine and without one on another that is alike in all
else. A function of the module then goes by its name behind the label on the first machine and by
its name on the second, and its body runs with the label on the first machine and without one on the
second. `Labelling.Facing` says when two machines stand side by side like this. Evaluations on them
mirror each other (`Labelling.Mirror`) if they end the same way, side by side again: faults may
differ in the name that the bound on the depth of calls quotes. The rules follow the ways in which
evaluations are put together; the built-in functions that are always there mirror themselves, since
they look at neither the functions nor the handlers in line (`Labelling.Mirror.installed`). -/

namespace ReactiveScript

open Eval

/-! ## Bodies that keep to some names -/

namespace Expr

mutual

/-- Whether an expression calls functions of some names only. -/
def callsWithin (allowed : String → Bool) : Expr → Bool
  | .literal .. => true
  | .var .. => true
  | .binary _ _ left right => left.callsWithin allowed && right.callsWithin allowed
  | .logical _ _ left right => left.callsWithin allowed && right.callsWithin allowed
  | .comparison _ _ left right => left.callsWithin allowed && right.callsWithin allowed
  | .unary _ _ operand => operand.callsWithin allowed
  | .cast _ _ operand => operand.callsWithin allowed
  | .call _ name arguments => allowed name && allCallWithin allowed arguments
  | .range _ first last none _ => first.callsWithin allowed && last.callsWithin allowed
  | .range _ first last (some step) _ =>
    first.callsWithin allowed && (last.callsWithin allowed && step.callsWithin allowed)
  | .list _ items => allCallWithin allowed items
  | .dict _ entries => entriesCallWithin allowed entries
  | .index _ target position => target.callsWithin allowed && position.callsWithin allowed

/-- Whether some expressions call functions of some names only. -/
def allCallWithin (allowed : String → Bool) : List Expr → Bool
  | [] => true
  | first :: rest => first.callsWithin allowed && allCallWithin allowed rest

/-- Whether the entries of a dictionary call functions of some names only. -/
def entriesCallWithin (allowed : String → Bool) : List (Expr × Expr) → Bool
  | [] => true
  | (key, value) :: rest =>
    key.callsWithin allowed && (value.callsWithin allowed && entriesCallWithin allowed rest)

end

end Expr

namespace Stmt

mutual

/-- Whether a statement calls functions of some names only, and has in it no declaration of a
function, no import and nothing of signals and watches. -/
def callsWithin (allowed : String → Bool) : Stmt → Bool
  | .expression _ value => value.callsWithin allowed
  | .declaration _ _ _ none => true
  | .declaration _ _ _ (some value) => value.callsWithin allowed
  | .assignment _ _ value => value.callsWithin allowed
  | .compound _ _ _ value => value.callsWithin allowed
  | .element _ target position value =>
    target.callsWithin allowed && (position.callsWithin allowed && value.callsWithin allowed)
  | .leave _ none => true
  | .leave _ (some value) => value.callsWithin allowed
  | .raise _ value => value.callsWithin allowed
  | .branch _ condition thenBody none =>
    condition.callsWithin allowed && allCallWithin allowed thenBody
  | .branch _ condition thenBody (some elseBody) =>
    condition.callsWithin allowed && (allCallWithin allowed thenBody &&
      allCallWithin allowed elseBody)
  | .whileLoop _ condition _ body => condition.callsWithin allowed && allCallWithin allowed body
  | .untilLoop _ condition _ body => condition.callsWithin allowed && allCallWithin allowed body
  | .forLoop _ first condition step body =>
    (first.callsWithin allowed && condition.callsWithin allowed) &&
      (step.callsWithin allowed && allCallWithin allowed body)
  | .forEach _ _ _ iterable body => iterable.callsWithin allowed && allCallWithin allowed body
  | .choice _ subject cases none => subject.callsWithin allowed && casesCallWithin allowed cases
  | .choice _ subject cases (some body) =>
    subject.callsWithin allowed && (casesCallWithin allowed cases && allCallWithin allowed body)
  | .function .. => false
  | .load .. => false
  | .signal .. => false
  | .emit .. => false
  | .when .. => false
  | .watch .. => false

/-- Whether some statements keep to functions of some names. -/
def allCallWithin (allowed : String → Bool) : List Stmt → Bool
  | [] => true
  | first :: rest => first.callsWithin allowed && allCallWithin allowed rest

/-- Whether the cases of a choice keep to functions of some names. -/
def casesCallWithin (allowed : String → Bool) : List (Case Stmt) → Bool
  | [] => true
  | ⟨_, label, body⟩ :: rest =>
    label.callsWithin allowed && (allCallWithin allowed body && casesCallWithin allowed rest)

end

end Stmt

/-! ## Side by side -/

/-- Names behind one label are as different as they were. -/
theorem labelled_right_inj {label name name' : String}
    (h : labelled label name = labelled label name') : name = name' := by
  have same := congrArg String.toList h
  simp only [labelled, String.toList_append] at same
  exact String.toList_inj.mp (List.append_cancel_left same)

/-- Whether a function of some name is always there. -/
def Native.isInstalled (name : String) : Bool := Native.installed.any fun entry => entry.1 == name

/-- The machine with other functions and handlers in line, in the code of another module. -/
def Machine.facing (machine : Machine) (functions : Table Function) (pending : List Pending)
    (label : Option String) : Machine :=
  { machine with functions, pending, context := { machine.context with label } }

/-- A module that is imported under a label here and without one there. -/
structure Labelling where
  /-- The label. -/
  label : String
  /-- The names of the functions of the module. -/
  names : List String

namespace Labelling

/-- The functions that the module may call: its own and those that are always there. -/
def allows (M : Labelling) (name : String) : Bool :=
  M.names.contains name || Native.isInstalled name

/-- **A function of the module**, as it is known without a label: its body keeps to what the module
may call. -/
structure Owns (M : Labelling) (function : Function) : Prop where
  /-- It has no label. -/
  label : function.label = none
  /-- Its body keeps to what the module may call. -/
  body : Stmt.allCallWithin M.allows function.body = true

/-- **Functions of the module in two tables**: behind the label in the first, where nothing else
stands behind it, and by their names in the second. -/
structure Mirrored (M : Labelling) (names : List String) (first second : Table Function) :
    Prop where
  /-- Each of them stands in both. -/
  both : ∀ name ∈ names, ∃ function, M.Owns function ∧ second.find? name = some function ∧
    first.find? (labelled M.label name) = some (function.under M.label)
  /-- Nothing else stands behind the label. -/
  alone : ∀ name ∉ names, first.find? (labelled M.label name) = none

/-- The built-in functions keep apart from the module, and those that are always there are there. -/
structure Apart (M : Labelling) (natives : Table Native) : Prop where
  /-- None stands behind the label. -/
  behind : ∀ name, natives.find? (labelled M.label name) = none
  /-- None has the name of a function of the module. -/
  names : ∀ name ∈ M.names, natives.find? name = none
  /-- Those that are always there are there. -/
  installed : ∀ entry ∈ Native.installed, natives.find? entry.1 = some entry.2

/-- **Two machines side by side**, each in the code of a module or of none. -/
structure Facing (M : Labelling) (here there : Option String) (first second : Machine) : Prop where
  /-- They are alike but for the functions, the handlers in line and the label. -/
  same : ∃ functions pending, second = first.facing functions pending there
  /-- The label of the first. -/
  label : first.context.label = here
  /-- The functions of the module are known on both. -/
  functions : M.Mirrored M.names first.functions second.functions
  /-- The built-in functions keep apart. -/
  natives : M.Apart first.natives

end Labelling

/-- Two faults that differ at most in the name that the bound on the depth of calls quotes: behind
the label in the first, and without it in the second. -/
inductive Fault.Renamed (label : String) : Fault → Fault → Prop
  | same (fault : Fault) : Renamed label fault fault
  | depth (limit : Nat) (name : String) (span : Span) :
    Renamed label { (Cause.callDepth limit (labelled label name)).fault with span }
      { (Cause.callDepth limit name).fault with span }

/-- Blaming a place leaves faults as much alike. -/
theorem Fault.Renamed.orAt {label : String} {fault fault' : Fault} (h : Renamed label fault fault')
    (place : Span) : Renamed label (fault.orAt place) (fault'.orAt place) := by
  cases h with
  | same => exact .same _
  | depth limit name span =>
    by_cases known : span.isKnown = true
    · rw [Fault.orAt, Fault.orAt, if_pos known, if_pos known]
      exact .depth limit name span
    · rw [Fault.orAt, Fault.orAt, if_neg known, if_neg known]
      exact .depth limit name place

namespace Labelling

variable {M : Labelling} {here there : Option String} {α β : Type}

/-- **Two evaluations end the same way, side by side**: with one value, with faults that differ at
most in a name, or both cut off. -/
inductive EndsFacing (M : Labelling) (here there : Option String) :
    EStateM.Result Stop Machine α → EStateM.Result Stop Machine α → Prop
  | value {value : α} {first second : Machine} (h : M.Facing here there first second) :
    EndsFacing M here there (.ok value first) (.ok value second)
  | fault {fault fault' : Fault} {first second : Machine} (alike : fault.Renamed M.label fault')
    (h : M.Facing here there first second) :
    EndsFacing M here there (.error (.fault fault) first) (.error (.fault fault') second)
  | cutOff {first second : Machine} (h : M.Facing here there first second) :
    EndsFacing M here there (.error .exhausted first) (.error .exhausted second)

/-- **Two evaluations mirror each other** if they end the same way on machines side by side. -/
def Mirror (M : Labelling) (here there : Option String) (action action' : Eval α) : Prop :=
  ∀ first second, M.Facing here there first second →
    M.EndsFacing here there (action first) (action' second)

namespace Facing

variable {first second : Machine}

/-- A change that touches neither functions nor labels nor built-in functions, and is the same on
both machines, leaves them side by side. -/
theorem change (h : M.Facing here there first second) (alter : Machine → Machine)
    (same : ∀ functions pending, ∃ pending',
      alter (first.facing functions pending there) = (alter first).facing functions pending' there)
    (label : (alter first).context.label = first.context.label)
    (functions : (alter first).functions = first.functions)
    (natives : (alter first).natives = first.natives) :
    M.Facing here there (alter first) (alter second) := by
  obtain ⟨⟨table, pending, rfl⟩, labelled, mirrored, apart⟩ := h
  obtain ⟨pending', altered⟩ := same table pending
  refine ⟨⟨table, pending', altered⟩, label.trans labelled, ?_, ?_⟩
  · rw [functions, altered]
    exact mirrored
  · rw [natives]
    exact apart

/-- Machines side by side have the same containers, variables, settings and surroundings. -/
theorem eq_facing (h : M.Facing here there first second) :
    second = first.facing second.functions second.pending there := by
  obtain ⟨⟨functions, pending, rfl⟩, _⟩ := h
  rfl

/-- The label of the second machine. -/
theorem label_there (h : M.Facing here there first second) : second.context.label = there := by
  rw [h.eq_facing]
  rfl

/-- Machines side by side have the same built-in functions. -/
theorem natives_eq (h : M.Facing here there first second) : second.natives = first.natives := by
  rw [h.eq_facing]
  rfl

end Facing

namespace EndsFacing

variable {first second : Machine} {action action' : Eval α} {next next' : α → Eval β}

/-- Evaluations that end side by side are followed by others. -/
theorem bind (h : M.EndsFacing here there (action first) (action' second))
    (rest : ∀ value, M.Mirror here there (next value) (next' value)) :
    M.EndsFacing here there ((action >>= next) first) ((action' >>= next') second) := by
  simp only [Bind.bind, EStateM.bind]
  generalize action first = result at h
  generalize action' second = result' at h
  cases h with
  | value facing => exact rest _ _ _ facing
  | fault alike facing => exact .fault alike facing
  | cutOff facing => exact .cutOff facing

/-- Evaluations that stop for one reason. -/
theorem stop (stop : Stop) (facing : M.Facing here there first second) :
    M.EndsFacing here there (.error stop first : EStateM.Result Stop Machine α)
      (.error stop second) := by
  cases stop with
  | fault fault => exact .fault (.same fault) facing
  | exhausted => exact .cutOff facing

/-- Evaluations between changes of the machines and their undoing, which may put the machines into
the code of other modules meanwhile. -/
theorem bracket {inside inside' : Option String} {before before' after after' : Machine → Machine}
    (h : M.EndsFacing inside inside' (action (before first)) (action' (before' second)))
    (undo : ∀ {final final'}, M.Facing inside inside' final final' →
      M.Facing here there (after final) (after' final')) :
    M.EndsFacing here there (Eval.bracket before after action first)
      (Eval.bracket before' after' action' second) := by
  unfold Eval.bracket
  generalize action (before first) = result at h
  generalize action' (before' second) = result' at h
  cases h with
  | value facing => exact .value (undo facing)
  | fault alike facing => exact .fault alike (undo facing)
  | cutOff facing => exact .cutOff (undo facing)

end EndsFacing

namespace Mirror

variable {action action' : Eval α} {next next' : α → Eval β}

/-- A value that is given at once. -/
theorem pure (value : α) : M.Mirror here there (Pure.pure value) (Pure.pure value) :=
  fun _ _ h => .value h

/-- A fault of the program. -/
theorem fail (cause : Cause) : M.Mirror here there (Eval.fail cause : Eval α) (Eval.fail cause) :=
  fun _ _ h => .fault (.same _) h

/-- An evaluation that is cut off at once. -/
theorem exhausted : M.Mirror here there (Eval.exhausted : Eval α) Eval.exhausted :=
  fun _ _ h => .cutOff h

/-- An outcome that does not depend on the machine. -/
theorem ofExcept (outcome : Except Fault α) :
    M.Mirror here there (Eval.ofExcept outcome) (Eval.ofExcept outcome) := by
  intro first second h
  cases outcome with
  | error fault => exact .fault (.same fault) h
  | ok value => exact .value h

/-- **One evaluation after the other.** -/
theorem bind (h : M.Mirror here there action action')
    (rest : ∀ value, M.Mirror here there (next value) (next' value)) :
    M.Mirror here there (action >>= next) (action' >>= next') :=
  fun first second facing => (h first second facing).bind rest

/-- An evaluation that looks at the machine first. -/
theorem get {follow : Machine → Eval β}
    (h : ∀ (machine : Machine) (functions : Table Function) (pending : List Pending),
      M.Mirror here there (follow machine) (follow (machine.facing functions pending there))) :
    M.Mirror here there (MonadState.get >>= follow) (MonadState.get >>= follow) := by
  intro first second facing
  obtain ⟨functions, pending, rfl⟩ := facing.same
  exact h first functions pending first _ facing

/-- Something that is read off the machine, and not off its functions. -/
theorem reading {read : Machine → Except Fault α}
    (blind : ∀ machine functions pending,
      read (Machine.facing machine functions pending there) = read machine) :
    M.Mirror here there (Eval.reading read) (Eval.reading read) := by
  refine get fun machine functions pending => ?_
  rw [blind]
  exact ofExcept _

/-- A change of the machine that leaves machines side by side. -/
theorem change {alter : Machine → Machine}
    (h : ∀ first second, M.Facing here there first second →
      M.Facing here there (alter first) (alter second)) :
    M.Mirror here there (modify alter) (modify alter) :=
  fun first second facing => .value (h first second facing)

/-- An operation on the containers. -/
theorem alloc (operation : Alloc α) :
    M.Mirror here there (Eval.alloc operation) (Eval.alloc operation) := by
  intro first second facing
  obtain ⟨functions, pending, rfl⟩ := facing.same
  unfold Eval.alloc
  have same : (first.facing functions pending there).store = first.store := rfl
  rw [same]
  cases operation.run first.store with
  | error stop => exact .stop stop facing
  | ok result =>
    have changed := facing.change (fun machine => { machine with store := result.2 })
      (fun _ pending => ⟨pending, rfl⟩) rfl rfl rfl
    exact .value changed

/-- What is found by going through the containers. -/
theorem looking (look : Store → Except Stop α) :
    M.Mirror here there (Eval.looking look) (Eval.looking look) := by
  intro first second facing
  obtain ⟨functions, pending, rfl⟩ := facing.same
  unfold Eval.looking
  have same : (first.facing functions pending there).store = first.store := rfl
  rw [same]
  cases look first.store with
  | error stop => exact .stop stop facing
  | ok value => exact .value facing

/-- Evaluations of which it is noted if they do not return. -/
theorem returning (h : M.Mirror here there action action') :
    M.Mirror here there (Eval.returning action) (Eval.returning action') := by
  intro first second facing
  have ended := h first second facing
  unfold Eval.returning
  generalize action first = result at ended
  generalize action' second = result' at ended
  cases ended with
  | value facing => exact .value facing
  | fault alike facing => exact .fault alike facing
  | cutOff facing =>
    exact .cutOff (facing.change Machine.hang (fun _ pending => ⟨pending, rfl⟩) rfl rfl rfl)

/-- A change of the variables. -/
theorem scoping (change : ScopeStack → Alloc (Value × ScopeStack)) :
    M.Mirror here there (Eval.scoping change) (Eval.scoping change) := by
  refine get fun machine functions pending => ?_
  refine bind (alloc (change machine.scopes)) fun result => ?_
  refine bind (Mirror.change fun first second facing => ?_) fun _ => pure _
  exact facing.change (fun machine => { machine with scopes := result.2 })
    (fun _ pending => ⟨pending, rfl⟩) rfl rfl rfl

/-- Blaming a place for faults. -/
theorem blaming (span : Span) (h : M.Mirror here there action action') :
    M.Mirror here there (Eval.blaming span action) (Eval.blaming span action') := by
  intro first second facing
  have ended := h first second facing
  unfold Eval.blaming
  generalize action first = result at ended
  generalize action' second = result' at ended
  cases ended with
  | value facing => exact .value facing
  | fault alike facing => exact .fault (alike.orAt span) facing
  | cutOff facing => exact .cutOff facing

/-- Moving to another place. -/
theorem moveTo (span : Span) : M.Mirror here there (Eval.moveTo span) (Eval.moveTo span) := by
  refine Mirror.change fun first second facing => ?_
  exact facing.change
    (fun machine => { machine with context := { machine.context with current := span } })
    (fun _ pending => ⟨pending, rfl⟩) rfl rfl rfl

/-- An evaluation at a place of the program. -/
theorem located (span : Span) (idle : α) (h : M.Mirror here there action action') :
    M.Mirror here there (Eval.located span idle action) (Eval.located span idle action') := by
  intro first second facing
  obtain ⟨functions, pending, rfl⟩ := facing.same
  by_cases running : first.running = true
  · have running' : (first.facing functions pending there).running = true := running
    rw [located_of_running running, located_of_running running']
    have moved := facing.change (movedTo · span) (fun _ pending => ⟨pending, rfl⟩) rfl rfl rfl
    exact h.blaming span _ _ moved
  · have stopped : first.running = false := Bool.eq_false_iff.mpr running
    have stopped' : (first.facing functions pending there).running = false := stopped
    rw [located_of_stopped stopped, located_of_stopped stopped']
    exact .value facing

/-! ## Handlers in line -/

/-- Telling the watches of a variable puts handlers in line. -/
theorem notifyVariable (name : String) :
    M.Mirror here there (modify (·.notifyVariable name)) (modify (·.notifyVariable name)) := by
  refine Mirror.change fun first second facing => ?_
  simp only [Machine.notifyVariable_eq]
  exact facing.change (fun machine => machine.lined (machine.answers name))
    (fun _ _ => ⟨_, rfl⟩) rfl rfl rfl

/-- Telling the variables that hold a container puts handlers in line. -/
theorem notifyContainer (container : Value) :
    M.Mirror here there (modify (·.notifyContainer container))
      (modify (·.notifyContainer container)) := by
  refine Mirror.change fun first second facing => ?_
  simp only [Machine.notifyContainer_eq]
  exact facing.change
    (fun machine => machine.lined ((machine.told container).flatMap machine.answers))
    (fun _ _ => ⟨_, rfl⟩) rfl rfl rfl

/-- Noting in a container that a variable holds it. -/
theorem subscribe (name : String) (value : Value) :
    M.Mirror here there (Eval.subscribe name value) (Eval.subscribe name value) := by
  cases value with
  | list handle => exact alloc (Alloc.listSubscribe handle name)
  | dict handle => exact alloc (Alloc.dictSubscribe handle name)
  | _ => exact pure ()

/-- Telling the watches of a variable that it was given a value. -/
theorem afterAssignment (name : String) (value : Value) :
    M.Mirror here there (Eval.afterAssignment name value) (Eval.afterAssignment name value) := by
  refine get fun machine functions pending => ?_
  by_cases watched : machine.watches.isWatched name = true
  · have watched' : (machine.facing functions pending there).watches.isWatched name = true :=
      watched
    rw [if_pos watched, if_pos watched']
    exact bind (subscribe name value) fun _ => notifyVariable name
  · have watched' : ¬ (machine.facing functions pending there).watches.isWatched name = true :=
      watched
    rw [if_neg watched, if_neg watched']
    exact pure ()

/-- Giving an element of a container a value. -/
theorem setElement (container position value : Value) :
    M.Mirror here there (Eval.setElement container position value)
      (Eval.setElement container position value) := by
  have told (operation : Alloc Unit) : M.Mirror here there
      (Eval.alloc operation >>= fun _ => modify (·.notifyContainer container))
      (Eval.alloc operation >>= fun _ => modify (·.notifyContainer container)) :=
    bind (alloc operation) fun _ => notifyContainer container
  cases container with
  | list handle => exact told (Alloc.listSet handle position value)
  | dict handle => exact told (Alloc.dictSet handle position value)
  | _ => exact fail _

/-! ## Functions that are always there -/

/-- A change of what surrounds the program. -/
theorem surroundings (alter : World → World) :
    M.Mirror here there (modify fun machine => { machine with world := alter machine.world })
      (modify fun machine => { machine with world := alter machine.world }) := by
  refine Mirror.change fun first second facing => ?_
  exact facing.change (fun machine => { machine with world := alter machine.world })
    (fun _ pending => ⟨pending, rfl⟩) rfl rfl rfl

/-- Printing a text. -/
theorem prints (text : String) :
    M.Mirror here there (modify (·.print text)) (modify (·.print text)) :=
  surroundings fun world => { world with output := world.output ++ text }

/-- The texts of values. -/
theorem mapM_render (values : List Value) :
    M.Mirror here there (values.mapM render) (values.mapM render) := by
  induction values with
  | nil => exact pure []
  | cons value rest ih =>
    rw [List.mapM_cons]
    exact bind (looking _) fun _ => bind ih fun _ => pure _

/-- Reading a line. -/
theorem readLine : M.Mirror here there Eval.readLine Eval.readLine := by
  refine get fun machine functions pending => ?_
  have same : (machine.facing functions pending there).world = machine.world := rfl
  simp only [same]
  by_cases hungry : (machine.world.input.isEmpty && machine.world.moreInput) = true
  · rw [if_pos hungry]
    exact bind (surroundings fun _ => { machine.world with starved := true }) fun _ => exhausted
  · rw [if_neg hungry]
    exact bind (surroundings fun _ => { machine.world with
      input := (splitLine machine.world.input).2 }) fun _ => pure _

/-- The text of a file. -/
theorem readFile (path : String) :
    M.Mirror here there (Eval.readFile path) (Eval.readFile path) := by
  refine get fun machine functions pending => ?_
  have same : (machine.facing functions pending there).world.files = machine.world.files := rfl
  rw [same]
  cases machine.world.files.read path with
  | ok text => exact pure text
  | error problem => exact fail _

/-- Writing a file. -/
theorem writeFile (path text : String) :
    M.Mirror here there (Eval.writeFile path text) (Eval.writeFile path text) := by
  refine get fun machine functions pending => ?_
  have same : (machine.facing functions pending there).world.files = machine.world.files := rfl
  rw [same]
  cases machine.world.files.write path text with
  | ok files =>
    exact surroundings fun world => { world with files, revisions := world.revisions ++ [files] }
  | error problem => exact fail _

/-- The functions that talk to the outside. -/
theorem console (function : ConsoleFunction) (call : Call) :
    M.Mirror here there (Eval.console function call) (Eval.console function call) := by
  cases function with
  | print => exact bind (mapM_render call.arguments) fun texts => bind (prints _) fun _ => pure _
  | input =>
    unfold Eval.console Eval.input
    dsimp only
    split
    · exact bind (looking _) fun _ => bind (prints _) fun _ => readLine
    · exact readLine
  | read =>
    refine bind (ofExcept _) fun _ => bind (ofExcept _) fun path => ?_
    exact bind (readFile path) fun _ => pure _
  | write =>
    refine bind (ofExcept _) fun _ => bind (ofExcept _) fun path => ?_
    refine bind (ofExcept _) fun value => bind (looking _) fun text => ?_
    exact bind (writeFile path text) fun _ => pure _
  | args => exact get fun machine functions pending => alloc _
  | sleep =>
    refine bind (ofExcept _) fun _ => bind (ofExcept _) fun seconds => bind ?_ fun _ => pure _
    unfold pause
    split
    · exact fail _
    · split
      · exact fail _
      · exact surroundings fun world =>
          { world with clock := world.clock + (seconds * 1000).ceil.toUInt64.toNat }

/-- The functions on containers and scopes. -/
theorem collection (function : CollectionFunction) (call : Call) :
    M.Mirror here there (Eval.collection function call) (Eval.collection function call) := by
  cases function with
  | type =>
    refine bind (ofExcept _) fun _ => bind (ofExcept _) fun value => ?_
    exact get fun machine functions pending => pure _
  | length =>
    refine bind (ofExcept _) fun _ => bind (ofExcept _) fun value => ?_
    exact bind (reading fun _ _ _ => rfl) fun _ => pure _
  | append =>
    refine bind (ofExcept _) fun _ => bind (ofExcept _) fun handle => ?_
    refine bind (ofExcept _) fun item => bind (alloc _) fun _ => ?_
    exact bind (notifyContainer _) fun _ => pure _
  | remove =>
    refine bind (ofExcept _) fun _ => bind (ofExcept _) fun container => ?_
    refine bind (ofExcept _) fun value => bind (alloc _) fun _ => ?_
    exact bind (notifyContainer _) fun _ => pure _
  | contains =>
    refine bind (ofExcept _) fun _ => bind (ofExcept _) fun value => ?_
    exact bind (ofExcept _) fun container => bind (alloc _) fun _ => pure _
  | keys | values =>
    refine bind (ofExcept _) fun _ => get fun machine functions pending => ?_
    exact bind (ofExcept _) fun handle => alloc _
  | sort =>
    refine bind (ofExcept _) fun _ => get fun machine functions pending => ?_
    exact bind (ofExcept _) fun handle => bind (ofExcept _) fun items => alloc _
  | slice =>
    refine bind (ofExcept _) fun _ => bind (ofExcept _) fun first => ?_
    exact bind (ofExcept _) fun last => bind (ofExcept _) fun sequence => alloc _
  | localScope | globalScope => exact get fun machine functions pending => alloc _

/-- **The functions that are always there mirror themselves.** -/
theorem installed {entry : String × Native} (h : entry ∈ Native.installed) (settle : Eval Unit)
    (call : Call) :
    M.Mirror here there (Eval.native settle entry.2 call) (Eval.native settle entry.2 call) := by
  -- No function that waits for handlers is always there, so that no handler runs meanwhile.
  have kinds : ∀ entry ∈ Native.installed,
      (∃ function, entry.2 = .console function) ∨ ∃ function, entry.2 = .collection function := by
    simp [Native.installed]
  rcases kinds entry h with ⟨function, same⟩ | ⟨function, same⟩
  · rw [same]
    exact console function call
  · rw [same]
    exact collection function call

end Mirror

end Labelling

end ReactiveScript
