import ReactiveScript.Proofs.Blame.Unplaced
import ReactiveScript.Proofs.Reactive.Dispatch

/-! # Built-in functions raise faults without a place

A built-in function changes containers and surroundings, and puts in line at most what waits for
variables; it leaves the functions, the signals, the watches and the failures, and what it raises
has no place (`Eval.IsTame`). The one that waits for handlers is the exception. The main statement
is `IsTame.native`. -/

namespace ReactiveScript

/-- **A tame change of a machine**: no statements come into it, and of those that are in it only
what waits for variables is put in line. -/
structure Machine.Tame (before after : Machine) : Prop where
  /-- The functions are the same. -/
  functions : after.functions = before.functions
  /-- The signals are the same. -/
  signals : after.signals = before.signals
  /-- The watches are the same. -/
  watches : after.watches = before.watches
  /-- The built-in functions are the same. -/
  natives : after.natives = before.natives
  /-- The failures are the same. -/
  failures : after.failures = before.failures
  /-- What is in line was there, or waits for a variable. -/
  pending : ∀ handler ∈ after.pending, handler ∈ before.pending ∨
    ∃ name depth, handler.body ∈ before.watches.bodies name depth

namespace Machine

variable {before between after machine : Machine}

namespace Tame

/-- Doing nothing is tame. -/
theorem refl (machine : Machine) : Tame machine machine :=
  ⟨rfl, rfl, rfl, rfl, rfl, fun _ mem => .inl mem⟩

/-- Two tame changes are one. -/
theorem trans (first : Tame before between) (second : Tame between after) : Tame before after where
  functions := second.functions.trans first.functions
  signals := second.signals.trans first.signals
  watches := second.watches.trans first.watches
  natives := second.natives.trans first.natives
  failures := second.failures.trans first.failures
  pending handler mem := by
    rcases second.pending handler mem with mem | waits
    · exact first.pending handler mem
    · exact .inr (first.watches ▸ waits)

/-- Changing the containers is tame. -/
theorem store (machine : Machine) (store : Store) : Tame machine { machine with store } :=
  ⟨rfl, rfl, rfl, rfl, rfl, fun _ mem => .inl mem⟩

/-- Changing containers and variables is tame. -/
theorem scopes (machine : Machine) (store : Store) (scopes : ScopeStack) :
    Tame machine { machine with store, scopes } :=
  ⟨rfl, rfl, rfl, rfl, rfl, fun _ mem => .inl mem⟩

/-- Changing the surroundings is tame. -/
theorem world (machine : Machine) (world : World) : Tame machine { machine with world } :=
  ⟨rfl, rfl, rfl, rfl, rfl, fun _ mem => .inl mem⟩

/-- Changing the context is tame. -/
theorem context (machine : Machine) (context : Context) : Tame machine { machine with context } :=
  ⟨rfl, rfl, rfl, rfl, rfl, fun _ mem => .inl mem⟩

end Tame

/-- What a change of a variable puts in line waits for the variable. -/
theorem body_mem_of_answers {name : String} {handler : Pending}
    (mem : handler ∈ machine.answers name) :
    ∃ depth, handler.body ∈ machine.watches.bodies name depth := by
  unfold answers at mem
  split at mem
  · rename_i depth found
    obtain ⟨⟨body, place⟩, listed, rfl⟩ := List.mem_map.mp mem
    exact ⟨depth, List.fst_mem_of_mem_zipIdx listed⟩
  · cases mem

/-- Putting in line what waits for variables is tame. -/
theorem lined_tame {handlers : List Pending}
    (waits : ∀ handler ∈ handlers, ∃ name depth, handler.body ∈ machine.watches.bodies name depth) :
    machine.Tame (machine.lined handlers) :=
  ⟨rfl, rfl, rfl, rfl, rfl, fun handler mem =>
    (List.mem_append.mp mem).imp_right (waits handler)⟩

/-- Telling the watches of a variable is tame. -/
theorem notifyVariable_tame (machine : Machine) (name : String) :
    machine.Tame (machine.notifyVariable name) := by
  rw [notifyVariable_eq]
  exact lined_tame fun handler mem => ⟨name, body_mem_of_answers mem⟩

/-- Telling the variables that hold a container is tame. -/
theorem notifyContainer_tame (machine : Machine) (container : Value) :
    machine.Tame (machine.notifyContainer container) := by
  rw [notifyContainer_eq]
  refine lined_tame fun handler mem => ?_
  obtain ⟨name, -, mem⟩ := List.mem_flatMap.mp mem
  exact ⟨name, body_mem_of_answers mem⟩

end Machine

namespace Eval

variable {α β : Type} {machine : Machine} {action : Eval α} {next : α → Eval β}

/-- **A tame evaluation**: however it ends, what it does to the machine is tame, and its faults have
no place. -/
def IsTame (action : Eval α) (machine : Machine) : Prop :=
  match action machine with
  | .ok _ after => machine.Tame after
  | .error (.fault fault) after => machine.Tame after ∧ fault.span = .unknown
  | .error .exhausted after => machine.Tame after

namespace IsTame

/-- A value that is given at once. -/
theorem pure {value : α} : IsTame (Pure.pure value) machine := .refl machine

/-- A fault of the program. -/
theorem fail {cause : Cause} : IsTame (Eval.fail cause : Eval α) machine := ⟨.refl machine, rfl⟩

/-- An evaluation that is cut off at once. -/
theorem exhausted : IsTame (Eval.exhausted : Eval α) machine := .refl machine

/-- Looking at the machine. -/
theorem look : IsTame (MonadState.get : Eval Machine) machine := .refl machine

/-- One evaluation after the other. -/
theorem bind (first : IsTame action machine)
    (second : ∀ value after, machine.Tame after → IsTame (next value) after) :
    IsTame (action >>= next) machine := by
  unfold IsTame at first ⊢
  simp only [Bind.bind, EStateM.bind]
  cases ended : action machine with
  | error stop after =>
    rw [ended] at first
    cases stop <;> exact first
  | ok value between =>
    rw [ended] at first
    have rest := second value between first
    unfold IsTame at rest
    cases continued : next value between with
    | ok result after =>
      rw [continued] at rest
      simpa only [continued] using first.trans rest
    | error stop after =>
      rw [continued] at rest
      cases stop with
      | fault fault => simpa only [continued] using ⟨first.trans rest.1, rest.2⟩
      | exhausted => simpa only [continued] using first.trans rest

/-- An evaluation that looks at the machine first. -/
theorem get {follow : Machine → Eval β} (h : IsTame (follow machine) machine) :
    IsTame (MonadState.get >>= follow) machine := h

/-- The outcome of an operation that does not look at the machine. -/
theorem ofExcept {outcome : Except Fault α} (unplaced : Unplaced outcome) :
    IsTame (Eval.ofExcept outcome) machine := by
  cases outcome with
  | error fault => exact ⟨.refl machine, unplaced fault rfl⟩
  | ok value => exact .refl machine

/-- An evaluation after an outcome that does not look at the machine. -/
theorem ofExcept_bind {outcome : Except Fault α} (unplaced : Unplaced outcome)
    (h : ∀ value, IsTame (next value) machine) :
    IsTame (Eval.ofExcept outcome >>= next) machine := by
  cases outcome with
  | error fault => exact ⟨.refl machine, unplaced fault rfl⟩
  | ok value => exact h value

/-- Something that is read off the machine. -/
theorem reading {read : Machine → Except Fault α} (unplaced : Unplaced (read machine)) :
    IsTame (Eval.reading read) machine := ofExcept unplaced

/-- An evaluation after something that is read off the machine. -/
theorem reading_bind {read : Machine → Except Fault α} (unplaced : Unplaced (read machine))
    (h : ∀ value, IsTame (next value) machine) :
    IsTame (Eval.reading read >>= next) machine := ofExcept_bind unplaced h

/-- A tame change of the machine. -/
theorem change {alter : Machine → Machine} (tame : machine.Tame (alter machine)) :
    IsTame (modify alter) machine := tame

/-- A tame change of the machine followed by an evaluation. -/
theorem change_bind {alter : Machine → Machine} {follow : Unit → Eval β}
    (tame : machine.Tame (alter machine)) (h : IsTame (follow ()) (alter machine)) :
    IsTame (modify alter >>= follow) machine := by
  have first : IsTame (modify alter) machine := tame
  have ended : (modify alter : Eval Unit) machine = .ok () (alter machine) := rfl
  unfold IsTame at h ⊢
  rw [bind_of_ok ended]
  cases continued : follow () (alter machine) with
  | ok value after =>
    rw [continued] at h
    exact tame.trans h
  | error stop after =>
    rw [continued] at h
    cases stop with
    | fault fault => exact ⟨tame.trans h.1, h.2⟩
    | exhausted => exact tame.trans h

/-- An operation on the containers. -/
theorem alloc {operation : Alloc α} (unplaced : operation.Unplaced) :
    IsTame (Eval.alloc operation) machine := by
  unfold IsTame Eval.alloc
  cases ran : operation.run machine.store with
  | ok result => exact .store machine result.2
  | error stop =>
    cases stop with
    | fault fault => exact ⟨.refl machine, unplaced machine.store fault ran⟩
    | exhausted => exact .refl machine

/-- What is found by going through the containers. -/
theorem looking {look : Store → Except Stop α} (unplaced : StopsUnplaced (look machine.store)) :
    IsTame (Eval.looking look) machine := by
  unfold IsTame Eval.looking
  cases found : look machine.store with
  | ok value => exact .refl machine
  | error stop =>
    cases stop with
    | fault fault => exact ⟨.refl machine, unplaced fault found⟩
    | exhausted => exact .refl machine

/-- An evaluation after something is found by going through the containers. -/
theorem looking_bind {look : Store → Except Stop α} (unplaced : StopsUnplaced (look machine.store))
    (h : ∀ value, IsTame (next value) machine) : IsTame (Eval.looking look >>= next) machine := by
  have plain := looking unplaced
  unfold IsTame Eval.looking at plain
  unfold IsTame Eval.looking
  simp only [Bind.bind, EStateM.bind]
  cases found : look machine.store with
  | ok value => exact h value
  | error stop =>
    rw [found] at plain
    cases stop <;> exact plain

/-- A change of the variables. -/
theorem scoping {change : ScopeStack → Alloc (Value × ScopeStack)}
    (unplaced : (change machine.scopes).Unplaced) : IsTame (Eval.scoping change) machine := by
  change IsTame (Eval.alloc (change machine.scopes) >>= fun result =>
    modify ({ · with scopes := result.2 }) >>= fun _ => Pure.pure result.1) machine
  unfold IsTame
  simp only [Bind.bind, EStateM.bind, Eval.alloc]
  cases ran : (change machine.scopes).run machine.store with
  | ok result => exact .scopes machine result.2 result.1.2
  | error stop =>
    cases stop with
    | fault fault => exact ⟨.refl machine, unplaced machine.store fault ran⟩
    | exhausted => exact .refl machine

/-- Declaring a variable. -/
theorem declare (name : String) (value : Value) (type : Ty) :
    IsTame (Eval.declare name value type) machine :=
  scoping (machine.scopes.declare_unplaced name value type)

/-- Giving a variable a value. -/
theorem assign (name : String) (value : Value) : IsTame (Eval.assign name value) machine :=
  scoping (machine.scopes.assign_unplaced name value)

/-- Noting that a variable holds a container. -/
theorem subscribe (name : String) (value : Value) : IsTame (Eval.subscribe name value) machine := by
  cases value with
  | list handle => exact alloc (Alloc.listSubscribe_unplaced handle name)
  | dict handle => exact alloc (Alloc.dictSubscribe_unplaced handle name)
  | _ => exact pure

/-- Telling the watches of a variable that it was given a value. -/
theorem afterAssignment (name : String) (value : Value) :
    IsTame (Eval.afterAssignment name value) machine := by
  refine get ?_
  split
  · exact (subscribe name value).bind fun _ after _ => change (after.notifyVariable_tame name)
  · exact pure

/-- Giving an element of a container a value. -/
theorem setElement (container position value : Value) :
    IsTame (Eval.setElement container position value) machine := by
  cases container with
  | list handle =>
    refine (alloc (Alloc.listSet_unplaced handle position value)).bind fun _ after _ => ?_
    exact change (after.notifyContainer_tame _)
  | dict handle =>
    refine (alloc (Alloc.dictSet_unplaced handle position value)).bind fun _ after _ => ?_
    exact change (after.notifyContainer_tame _)
  | _ => exact fail

/-- What a loop goes through. -/
theorem itemsOf (value : Value) : IsTame (Eval.itemsOf value) machine := by
  cases value with
  | list handle => exact get pure
  | dict handle => exact get pure
  | text s => exact pure
  | _ => exact fail

/-- The bound or step of a range. -/
theorem rangeBound (role : String) (value : Value) :
    IsTame (Eval.rangeBound role value) machine := by
  unfold Eval.rangeBound
  split
  · exact pure
  · exact fail

/-! ## Built-in functions -/

section Natives

variable {call : Call}

/-- The text of a value. -/
theorem render (value : Value) : IsTame (Eval.render value) machine := looking (.ended _)

/-- The texts of values. -/
theorem mapM_render (values : List Value) : IsTame (values.mapM Eval.render) machine := by
  induction values generalizing machine with
  | nil => exact pure
  | cons value rest ih =>
    rw [List.mapM_cons]
    exact (render value).bind fun _ _ _ => ih.bind fun _ _ _ => pure

/-- Printing values. -/
theorem print : IsTame (Eval.print call) machine :=
  (mapM_render call.arguments).bind fun _ after _ => change_bind (.world after _) pure

/-- Reading a line. -/
theorem readLine : IsTame Eval.readLine machine := by
  refine get ?_
  dsimp only
  split
  · exact change_bind (.world machine _) exhausted
  · exact change_bind (.world machine _) pure

/-- Reading a file. -/
theorem readFile (path : String) : IsTame (Eval.readFile path) machine := by
  refine get ?_
  split
  · exact pure
  · exact fail

/-- Writing a file. -/
theorem writeFile (path text : String) : IsTame (Eval.writeFile path text) machine := by
  refine get ?_
  split
  · exact change (.world machine _)
  · exact fail

/-- Letting time pass. -/
theorem pause (seconds : Float) : IsTame (Eval.pause seconds) machine := by
  unfold Eval.pause
  split
  · exact fail
  · split
    · exact fail
    · exact change (.world machine _)

/-- The functions that talk to the outside. -/
theorem console (function : ConsoleFunction) : IsTame (Eval.console function call) machine := by
  cases function with
  | print => exact print
  | input =>
    have plain : IsTame Eval.readLine machine := readLine
    unfold Eval.console Eval.input
    dsimp only
    split
    · exact looking_bind (.ended _) fun _ => change_bind (.world machine _) readLine
    · exact plain
  | read =>
    refine ofExcept_bind (call.unplaced_expect 1) fun _ => ?_
    refine ofExcept_bind (call.unplaced_demand 0 _ _) fun path => ?_
    exact (readFile path).bind fun _ _ _ => pure
  | write =>
    refine ofExcept_bind (call.unplaced_expect 2) fun _ => ?_
    refine ofExcept_bind (call.unplaced_demand 0 _ _) fun path => ?_
    refine ofExcept_bind (call.unplaced_argument 1) fun value => ?_
    refine looking_bind (.ended _) fun text => ?_
    exact (writeFile path text).bind fun _ _ _ => pure
  | args => exact get (alloc .newList)
  | sleep =>
    refine ofExcept_bind (call.unplaced_expect 1) fun _ => ?_
    refine ofExcept_bind (call.unplaced_demand 0 _ _) fun seconds => ?_
    exact (pause seconds).bind fun _ _ _ => pure

/-- The functions on containers and scopes. -/
theorem collection (function : CollectionFunction) :
    IsTame (Eval.collection function call) machine := by
  cases function with
  | type =>
    refine ofExcept_bind (call.unplaced_expect 1) fun _ => ?_
    exact ofExcept_bind (call.unplaced_argument 0) fun value => get pure
  | length =>
    refine ofExcept_bind (call.unplaced_expect 1) fun _ => ?_
    refine ofExcept_bind (call.unplaced_argument 0) fun value => ?_
    exact reading_bind (unplaced_lengthOf machine.store value) fun _ => pure
  | append =>
    refine ofExcept_bind (call.unplaced_expect 2) fun _ => ?_
    refine ofExcept_bind (call.unplaced_demand 0 _ _) fun handle => ?_
    refine ofExcept_bind (call.unplaced_argument 1) fun item => ?_
    refine (alloc (Alloc.listPush_unplaced handle item)).bind fun _ after _ => ?_
    exact change_bind (after.notifyContainer_tame _) pure
  | remove =>
    refine ofExcept_bind (call.unplaced_expect 2) fun _ => ?_
    refine ofExcept_bind (call.unplaced_argument 0) fun container => ?_
    refine ofExcept_bind (call.unplaced_argument 1) fun value => ?_
    refine (alloc (Alloc.remove_unplaced container value)).bind fun _ after _ => ?_
    exact change_bind (after.notifyContainer_tame _) pure
  | contains =>
    refine ofExcept_bind (call.unplaced_expect 2) fun _ => ?_
    refine ofExcept_bind (call.unplaced_argument 1) fun value => ?_
    refine ofExcept_bind (call.unplaced_argument 0) fun container => ?_
    exact (alloc (Alloc.contains_unplaced container value)).bind fun _ _ _ => pure
  | keys | values =>
    refine ofExcept_bind (call.unplaced_expect 1) fun _ => get ?_
    exact ofExcept_bind (call.unplaced_demand 0 _ _) fun handle => alloc .newList
  | sort =>
    refine ofExcept_bind (call.unplaced_expect 1) fun _ => get ?_
    refine ofExcept_bind (call.unplaced_demand 0 _ _) fun handle => ?_
    exact ofExcept_bind (unplaced_sortValues _) fun items => alloc .newList
  | slice =>
    refine ofExcept_bind (call.unplaced_expect 3) fun _ => ?_
    refine ofExcept_bind (call.unplaced_demand 1 _ _) fun first => ?_
    refine ofExcept_bind (call.unplaced_demand 2 _ _) fun last => ?_
    refine ofExcept_bind (call.unplaced_argument 0) fun sequence => ?_
    exact alloc (Alloc.slice_unplaced sequence first last)
  | localScope | globalScope => exact get (alloc .newDict)

/-- The next random word. -/
theorem randomWord : IsTame Eval.randomWord machine :=
  get (change_bind (.world machine _) pure)

/-- The functions on numbers. -/
theorem math (function : MathFunction) : IsTame (Eval.math function call) machine := by
  cases function with
  | pi => exact pure
  | sqrt => exact ofExcept call.unplaced_root
  | pow => exact ofExcept call.unplaced_power
  | floor | ceil | round => exact ofExcept (call.unplaced_rounded _)
  | abs =>
    refine ofExcept_bind (call.unplaced_expect 1) fun _ => ?_
    exact ofExcept_bind (call.unplaced_argument 0) fun value => ofExcept (unplaced_magnitude value)
  | min | max => exact reading (unplaced_bestOf call.name _ _)
  | random => exact randomWord.bind fun _ _ _ => pure
  | randomInt =>
    refine ofExcept_bind (call.unplaced_expect 2) fun _ => ?_
    refine ofExcept_bind (call.unplaced_demand 0 _ _) fun low => ?_
    refine ofExcept_bind (call.unplaced_demand 1 _ _) fun high => ?_
    split
    · exact fail
    · exact randomWord.bind fun _ _ _ => pure

/-- The functions between values and documents. -/
theorem document (function : DocumentFunction) :
    IsTame (Eval.document function call) machine := by
  cases function with
  | toJson =>
    refine ofExcept_bind (call.unplaced_expect 1) fun _ => ?_
    refine ofExcept_bind (call.unplaced_argument 0) fun value => ?_
    exact looking_bind (machine.store.unplaced_document _ value) fun _ => pure
  | fromJson =>
    refine ofExcept_bind (call.unplaced_expect 1) fun _ => ?_
    refine ofExcept_bind (call.unplaced_demand 0 _ _) fun text => ?_
    exact alloc (Alloc.ofDocumentText_unplaced text)
  | readJson =>
    refine ofExcept_bind (call.unplaced_expect 1) fun _ => ?_
    refine ofExcept_bind (call.unplaced_demand 0 _ _) fun path => ?_
    exact (readFile path).bind fun text _ _ => alloc (Alloc.ofDocumentText_unplaced text)
  | writeJson =>
    refine ofExcept_bind (call.unplaced_expect 2) fun _ => ?_
    refine ofExcept_bind (call.unplaced_demand 0 _ _) fun path => ?_
    refine ofExcept_bind (call.unplaced_argument 1) fun value => ?_
    refine looking_bind (machine.store.unplaced_document _ value) fun document => ?_
    exact (writeFile path _).bind fun _ _ _ => pure

/-- The functions on texts. -/
theorem text (function : TextFunction) : IsTame (Eval.text function call) machine := by
  cases function with
  | «matches» =>
    refine ofExcept_bind (call.unplaced_expect 2) fun _ => ?_
    refine ofExcept_bind (call.unplaced_pattern 1) fun pattern => ?_
    exact ofExcept_bind (call.unplaced_demand 0 _ _) fun whole => pure
  | findAll =>
    refine ofExcept_bind (call.unplaced_expect 2) fun _ => ?_
    refine ofExcept_bind (call.unplaced_pattern 1) fun pattern => ?_
    exact ofExcept_bind (call.unplaced_demand 0 _ _) fun whole => alloc .newList
  | replace =>
    refine ofExcept_bind (call.unplaced_expect 3) fun _ => ?_
    refine ofExcept_bind (call.unplaced_pattern 1) fun pattern => ?_
    refine ofExcept_bind (call.unplaced_demand 0 _ _) fun whole => ?_
    exact ofExcept_bind (call.unplaced_demand 2 _ _) fun replacement => pure
  | split => exact ofExcept_bind call.unplaced_split fun pieces => alloc .newList
  | join =>
    refine ofExcept_bind (call.unplaced_expect 2) fun _ => ?_
    refine ofExcept_bind (call.unplaced_demand 0 _ _) fun handle => ?_
    refine ofExcept_bind (call.unplaced_demand 1 _ _) fun separator => ?_
    exact looking_bind (.ended _) fun texts => pure
  | upper | lower | trim => exact ofExcept (call.unplaced_changed _)

/-- The functions that read the clock. -/
theorem clock (function : ClockFunction) : IsTame (Eval.clock function call) machine := by
  cases function with
  | now | timestamp => exact get pure
  | elapsed =>
    refine get (ofExcept_bind (call.unplaced_expect 1) fun _ => ?_)
    exact ofExcept_bind (call.unplaced_demand 0 _ _) fun since => pure

/-- **Every built-in function is tame** but the one that waits for handlers, if those of a host
raise their faults without a place. -/
theorem native {settle : Eval Unit} {native : Native} (patient : native ≠ .settle)
    (host : ∀ run, native = .host run → ∀ call, (run call).Unplaced) :
    IsTame (Eval.native settle native call) machine := by
  cases native with
  | console function => exact console function
  | collection function => exact collection function
  | math function => exact math function
  | document function => exact document function
  | text function => exact text function
  | clock function => exact clock function
  | settle => exact absurd rfl patient
  | host run => exact alloc (host run rfl call)

end Natives

end IsTame

end Eval

end ReactiveScript
