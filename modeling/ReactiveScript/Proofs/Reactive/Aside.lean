import ReactiveScript.Proofs.Import.Trace
import ReactiveScript.Proofs.Reactive.Course

/-! # Evaluations that register and note nothing

Most of what an evaluation does leaves the tables of signals and watches and the notes in containers
alone (`Eval.IsAside`): looking at the machine, operations on containers but subscriptions, changes
of variables, handlers that get in line, imports, and every built-in function but the one that waits
for handlers (`IsAside.native`). -/

namespace ReactiveScript

namespace Machine

variable {before after : Machine}

/-- A change of a machine that keeps its tables, its containers and its built-in functions. -/
theorem aside_of_eq (registry : after.registry = before.registry)
    (store : after.store = before.store) (natives : after.natives = before.natives) :
    before.Aside after where
  registry := registry
  notes := store ▸ fun _ => rfl
  natives _ mem := .inl (natives ▸ mem)

/-- A change aside brings in no functions of a host. -/
theorem Aside.hostFree (h : before.Aside after) (free : before.HostFree) : after.HostFree :=
  free.of_natives h.natives

/-- A change of the containers that notes nothing, and of the variables. -/
theorem aside_memory {machine : Machine} {store : Store} (scopes : ScopeStack)
    (notes : machine.store.SameNotes store) : machine.Aside { machine with store, scopes } :=
  ⟨rfl, notes, fun _ mem => .inl mem⟩

/-- A change of what surrounds the program. -/
theorem aside_world (machine : Machine) (world : World) : machine.Aside { machine with world } :=
  aside_of_eq rfl rfl rfl

/-- Telling the watches of a variable. -/
theorem notifyVariable_aside (machine : Machine) (name : String) :
    machine.Aside (machine.notifyVariable name) := by
  rw [notifyVariable_eq]
  exact aside_of_eq rfl rfl rfl

/-- Telling the variables that hold a container. -/
theorem notifyContainer_aside (machine : Machine) (container : Value) :
    machine.Aside (machine.notifyContainer container) := by
  rw [notifyContainer_eq]
  exact aside_of_eq rfl rfl rfl

end Machine

namespace Eval

variable {α β : Type} {machine : Machine} {action : Eval α} {next : α → Eval β}

/-- **An evaluation that registers and notes nothing**, however it ends. -/
abbrev IsAside (action : Eval α) (machine : Machine) : Prop :=
  Keeps action Machine.Aside machine fun _ _ => True

namespace IsAside

/-- A value that is given at once. -/
theorem pure {value : α} : IsAside (Pure.pure value) machine := Keeps.pure (.refl machine) trivial

/-- An evaluation that stops at once. -/
theorem throw {stop : Stop} : IsAside (MonadExcept.throw stop : Eval α) machine :=
  Keeps.throw (.refl machine)

/-- One evaluation after the other. -/
theorem bind (first : IsAside action machine)
    (second : ∀ value after, IsAside (next value) after) : IsAside (action >>= next) machine :=
  Keeps.bind Machine.Aside.trans first fun after value _ _ => second value after

/-- An evaluation that looks at the machine first. -/
theorem get {follow : Machine → Eval β} (h : IsAside (follow machine) machine) :
    IsAside (MonadState.get >>= follow) machine := h

/-- The outcome of an operation that does not look at the machine. -/
theorem ofExcept {outcome : Except Fault α} : IsAside (Eval.ofExcept outcome) machine :=
  Keeps.ofExcept (.refl machine) fun _ _ => trivial

/-- An evaluation after an outcome that does not look at the machine. -/
theorem ofExcept_bind {outcome : Except Fault α} (h : ∀ value, IsAside (next value) machine) :
    IsAside (Eval.ofExcept outcome >>= next) machine :=
  Keeps.ofExcept_bind (.refl machine) fun value _ => h value

/-- Something that is read off the machine. -/
theorem reading {read : Machine → Except Fault α} : IsAside (Eval.reading read) machine := ofExcept

/-- An evaluation after something that is read off the machine. -/
theorem reading_bind {read : Machine → Except Fault α} (h : ∀ value, IsAside (next value) machine) :
    IsAside (Eval.reading read >>= next) machine := ofExcept_bind h

/-- A change of the machine. -/
theorem change {alter : Machine → Machine} (h : machine.Aside (alter machine)) :
    IsAside (modify alter) machine := Keeps.change h trivial

/-- A change of the machine followed by an evaluation. -/
theorem change_bind {alter : Machine → Machine} {follow : Unit → Eval β}
    (first : machine.Aside (alter machine)) (h : IsAside (follow ()) (alter machine)) :
    IsAside (modify alter >>= follow) machine := Keeps.change_bind Machine.Aside.trans first h

/-- An operation on the containers that notes nothing. -/
theorem alloc {operation : Alloc α} (h : operation.Along .sameNotes machine.store) :
    IsAside (Eval.alloc operation) machine :=
  Keeps.alloc (.refl machine) fun value store ran =>
    ⟨Machine.aside_memory machine.scopes (h value store ran), trivial⟩

/-- Declaring a variable. -/
theorem declare (name : String) (value : Value) (type : Ty) :
    IsAside (Eval.declare name value type) machine :=
  Keeps.scoping (.refl machine) fun stored scopes store ran => by
    obtain ⟨converted, _⟩ := ScopeStack.declare_eq_ok ran
    have notes : (value.coerce type).Along .sameNotes machine.store :=
      Value.coerce_along type value machine.store
    exact ⟨Machine.aside_memory scopes (notes _ _ converted), trivial⟩

/-- Giving a variable a value. -/
theorem assign (name : String) (value : Value) : IsAside (Eval.assign name value) machine :=
  Keeps.scoping (.refl machine) fun stored scopes store ran => by
    refine ⟨Machine.aside_memory scopes ?_, trivial⟩
    obtain ⟨binding, _, _, ⟨_, _, rfl⟩ | ⟨_, converted⟩⟩ := ScopeStack.assign_eq_ok ran
    · exact fun _ => rfl
    · have notes : (value.coerce (binding.value.typeIn machine.store)).Along .sameNotes
          machine.store := Value.coerce_along _ value machine.store
      exact notes _ _ converted

/-- Giving an element of a container a value. -/
theorem setElement (container position value : Value) :
    IsAside (Eval.setElement container position value) machine := by
  cases container with
  | list handle =>
    refine (alloc (Alloc.listSet_sameNotes position value)).bind fun _ after => ?_
    exact change (after.notifyContainer_aside _)
  | dict handle =>
    refine (alloc (Alloc.dictSet_sameNotes position value)).bind fun _ after => ?_
    exact change (after.notifyContainer_aside _)
  | _ => exact throw

/-- What a loop goes through. -/
theorem itemsOf (value : Value) : IsAside (Eval.itemsOf value) machine := by
  cases value with
  | list handle => exact get pure
  | dict handle => exact get pure
  | text s => exact pure
  | _ => exact throw

/-- The bound or step of a range. -/
theorem rangeBound (role : String) (value : Value) :
    IsAside (Eval.rangeBound role value) machine := by
  unfold Eval.rangeBound
  split
  · exact pure
  · exact throw

/-- The binding of parameters. -/
theorem bindParams (params : List Param) (arguments : List Value) :
    IsAside (Eval.bindParams params arguments) machine := by
  induction params generalizing arguments machine with
  | nil => exact pure
  | cons param params ih =>
    cases arguments with
    | nil => exact pure
    | cons argument arguments =>
      refine bind ?_ fun _ _ => ih arguments
      exact (declare param.name argument param.type).bind fun _ _ => pure

/-- What is found by going through the containers. -/
theorem looking {look : Store → Except Stop α} : IsAside (Eval.looking look) machine :=
  Keeps.looking (.refl machine) fun _ _ => trivial

/-- An evaluation after something is found by going through the containers. -/
theorem looking_bind {look : Store → Except Stop α} (h : ∀ value, IsAside (next value) machine) :
    IsAside (Eval.looking look >>= next) machine :=
  Keeps.looking_bind (.refl machine) fun value _ => h value

/-- The text of a value. -/
theorem render (value : Value) : IsAside (Eval.render value) machine := looking

/-- The texts of values. -/
theorem mapM_render (values : List Value) : IsAside (values.mapM Eval.render) machine := by
  induction values generalizing machine with
  | nil => exact pure
  | cons value rest ih =>
    rw [List.mapM_cons]
    exact (render value).bind fun _ _ => ih.bind fun _ _ => pure

/-- Emitting a signal: the bodies only get in line. -/
theorem emit (name : String) : IsAside (Eval.emit name) machine := by
  refine reading_bind fun bodies => change ?_
  rw [Machine.startAll_eq]
  exact Machine.aside_of_eq rfl rfl rfl

/-- Making a function known. -/
theorem define (function : Function) : IsAside (Eval.define function) machine :=
  change (Machine.aside_of_eq rfl rfl rfl)

/-- **An import**, whatever files it follows and whether it succeeds or not. -/
theorem load (path : String) (label : Option String) : IsAside (Eval.load path label) machine := by
  have quiet := load_quiet path label machine
  obtain ⟨reads, fault, after, ran, imports⟩ := load_follows path label machine
  unfold IsAside Keeps
  unfold IsQuiet Keeps at quiet
  rw [ran] at quiet ⊢
  have same : after.registry = machine.registry := by rw [imports.after_eq]; rfl
  cases fault with
  | none => exact ⟨⟨same, quiet.1.store ▸ fun _ => rfl, quiet.1.natives⟩, trivial⟩
  | some fault => exact ⟨same, quiet.store ▸ fun _ => rfl, quiet.natives⟩

/-! ## Built-in functions -/

section Natives

variable {call : Call}

/-- Printing values. -/
theorem print : IsAside (Eval.print call) machine :=
  (mapM_render call.arguments).bind fun _ after => change_bind (after.aside_world _) pure

/-- Reading a line. -/
theorem readLine : IsAside Eval.readLine machine := by
  refine get ?_
  dsimp only
  split
  · exact change_bind (machine.aside_world _) throw
  · exact change_bind (machine.aside_world _) pure

/-- Reading a file. -/
theorem readFile (path : String) : IsAside (Eval.readFile path) machine := by
  refine get ?_
  split
  · exact pure
  · exact throw

/-- Writing a file. -/
theorem writeFile (path text : String) : IsAside (Eval.writeFile path text) machine := by
  refine get ?_
  split
  · exact change (machine.aside_world _)
  · exact throw

/-- Letting time pass. -/
theorem pause (seconds : Float) : IsAside (Eval.pause seconds) machine := by
  unfold Eval.pause
  split
  · exact throw
  · split
    · exact throw
    · exact change (machine.aside_world _)

/-- The functions that talk to the outside. -/
theorem console (function : ConsoleFunction) : IsAside (Eval.console function call) machine := by
  cases function with
  | print => exact print
  | input =>
    have plain : IsAside Eval.readLine machine := readLine
    unfold Eval.console Eval.input
    dsimp only
    split
    · exact looking_bind fun _ => change_bind (machine.aside_world _) readLine
    · exact plain
  | read =>
    refine ofExcept_bind fun _ => ofExcept_bind fun path => ?_
    exact (readFile path).bind fun _ _ => pure
  | write =>
    refine ofExcept_bind fun _ => ofExcept_bind fun path => ofExcept_bind fun value => ?_
    exact looking_bind fun text => (writeFile path text).bind fun _ _ => pure
  | args => exact get (alloc .newList)
  | sleep =>
    refine ofExcept_bind fun _ => ofExcept_bind fun seconds => ?_
    exact (pause seconds).bind fun _ _ => pure

/-- The functions on containers and scopes: none of them notes anything. -/
theorem collection (function : CollectionFunction) :
    IsAside (Eval.collection function call) machine := by
  cases function with
  | type => exact ofExcept_bind fun _ => ofExcept_bind fun value => get pure
  | length =>
    exact ofExcept_bind fun _ => ofExcept_bind fun value => reading_bind fun _ => pure
  | append =>
    refine ofExcept_bind fun _ => ofExcept_bind fun handle => ofExcept_bind fun item => ?_
    refine (alloc (Alloc.listPush_sameNotes item)).bind fun _ after => ?_
    exact change_bind (after.notifyContainer_aside _) pure
  | remove =>
    refine ofExcept_bind fun _ => ofExcept_bind fun container => ofExcept_bind fun value => ?_
    refine (alloc (Alloc.remove_sameNotes container value)).bind fun _ after => ?_
    exact change_bind (after.notifyContainer_aside _) pure
  | contains =>
    refine ofExcept_bind fun _ => ofExcept_bind fun value => ofExcept_bind fun container => ?_
    exact (alloc (Alloc.contains_along container value)).bind fun _ _ => pure
  | keys | values =>
    exact ofExcept_bind fun _ => get (ofExcept_bind fun handle => alloc .newList)
  | sort =>
    refine ofExcept_bind fun _ => get (ofExcept_bind fun handle => ?_)
    exact ofExcept_bind fun items => alloc .newList
  | slice =>
    refine ofExcept_bind fun _ => ofExcept_bind fun first => ofExcept_bind fun last => ?_
    exact ofExcept_bind fun sequence => alloc (Alloc.slice_along sequence first last)
  | localScope | globalScope => exact get (alloc .newDict)

/-- The next random word. -/
theorem randomWord : IsAside Eval.randomWord machine :=
  get (change_bind (machine.aside_world _) pure)

/-- The functions on numbers. -/
theorem math (function : MathFunction) : IsAside (Eval.math function call) machine := by
  cases function with
  | pi => exact pure
  | sqrt | pow | floor | ceil | round => exact ofExcept
  | abs => exact ofExcept_bind fun _ => ofExcept_bind fun value => ofExcept
  | min | max => exact reading
  | random => exact randomWord.bind fun _ _ => pure
  | randomInt =>
    refine ofExcept_bind fun _ => ofExcept_bind fun low => ofExcept_bind fun high => ?_
    split
    · exact throw
    · exact randomWord.bind fun _ _ => pure

/-- The functions between values and documents. -/
theorem document (function : DocumentFunction) :
    IsAside (Eval.document function call) machine := by
  cases function with
  | toJson => exact ofExcept_bind fun _ => ofExcept_bind fun value => looking_bind fun _ => pure
  | fromJson =>
    exact ofExcept_bind fun _ => ofExcept_bind fun text => alloc (Alloc.ofDocumentText_along text _)
  | readJson =>
    refine ofExcept_bind fun _ => ofExcept_bind fun path => ?_
    exact (readFile path).bind fun text _ => alloc (Alloc.ofDocumentText_along text _)
  | writeJson =>
    refine ofExcept_bind fun _ => ofExcept_bind fun path => ofExcept_bind fun value => ?_
    exact looking_bind fun document => (writeFile path _).bind fun _ _ => pure

/-- The functions on texts. -/
theorem text (function : TextFunction) : IsAside (Eval.text function call) machine := by
  cases function with
  | «matches» =>
    exact ofExcept_bind fun _ => ofExcept_bind fun pattern => ofExcept_bind fun whole => pure
  | findAll =>
    refine ofExcept_bind fun _ => ofExcept_bind fun pattern => ofExcept_bind fun whole => ?_
    exact alloc .newList
  | replace =>
    refine ofExcept_bind fun _ => ofExcept_bind fun pattern => ofExcept_bind fun whole => ?_
    exact ofExcept_bind fun replacement => pure
  | split => exact ofExcept_bind fun pieces => alloc .newList
  | join =>
    refine ofExcept_bind fun _ => ofExcept_bind fun handle => ofExcept_bind fun separator => ?_
    exact looking_bind fun texts => pure
  | upper | lower | trim => exact ofExcept

/-- The functions that read the clock. -/
theorem clock (function : ClockFunction) : IsAside (Eval.clock function call) machine := by
  cases function with
  | now | timestamp => exact get pure
  | elapsed => exact get (ofExcept_bind fun _ => ofExcept_bind fun since => pure)

/-- **Every built-in function of the language registers and notes nothing** but the one that waits
for handlers. -/
theorem native {settle : Eval Unit} {native : Native} (patient : native ≠ .settle)
    (own : ∀ run, native ≠ .host run) : IsAside (Eval.native settle native call) machine := by
  cases native with
  | console function => exact console function
  | collection function => exact collection function
  | math function => exact math function
  | document function => exact document function
  | text function => exact text function
  | clock function => exact clock function
  | settle => exact absurd rfl patient
  | host run => exact absurd rfl (own run)

end Natives

end IsAside

end Eval

end ReactiveScript
