import Mathlib.Logic.Relation
import ReactiveScript.Proofs.Evaluation.Program
import ReactiveScript.Proofs.Store.Sound

/-! # Every reachable memory is well typed

The program and its handlers share a memory, and work on it in single steps: opening and closing
scopes, declarations, assignments, and operations on values that are at hand. A memory is
`Reachable` when some interleaving of such steps leads to it. The main statement is
`memory_wellTyped`: in every reachable memory all variables hold what they were declared to hold and
all containers hold what their tags say, and whatever an interpreter is made to run, its memory is
reachable. -/

namespace ReactiveScript

/-! ## Assignments -/

namespace Store

/-- A value that conforms to the type of a value which conforms to a declared type conforms to the
declared type as well. -/
theorem conforms_of_typeIn {before after : Store} {declared : Ty} {old new : Value}
    (definite : declared ≠ .any) (held : before.Conforms declared old)
    (h : after.Conforms (old.typeIn before) new) : after.Conforms declared new := by
  cases old with
  | list handle =>
    cases declared with
    | any => trivial
    | list element =>
      cases new with
      | list other =>
        -- The tag of the old list is the declared one unless that admits everything.
        rcases held with any | same
        · exact .inl any
        · exact h.imp (fun any => same ▸ any) fun tag => tag.trans same
      | _ => exact h.elim
    | _ => exact held.elim
  | dict handle =>
    cases declared with
    | any => trivial
    | dict key value =>
      cases new with
      | dict other =>
        obtain ⟨heldKey, heldValue⟩ := held
        refine h.imp ?_ ?_
        · rcases heldKey with any | same
          · exact fun _ => .inl any
          · exact Or.imp (fun any => same ▸ any) fun tag => tag.trans same
        · rcases heldValue with any | same
          · exact fun _ => .inl any
          · exact Or.imp (fun any => same ▸ any) fun tag => tag.trans same
      | _ => exact h.elim
    | _ => exact held.elim
  | _ =>
    -- The type of a scalar is the only definite one that the scalar conforms to.
    cases declared with
    | any => exact absurd rfl definite
    | _ => first
      | exact held.elim
      | exact h

end Store

namespace ScopeStack

/-- The bindings after a variable is given a value are those from before and the one that the name
means, with the new value. -/
theorem mem_updateIn {name : String} {value : Value} {scope : Scope} {entry : String × Binding} :
    ∀ {locals : List Scope}, scope ∈ updateIn name value locals → entry ∈ scope.entries →
      (∃ old ∈ locals, entry ∈ old.entries) ∨
        ∃ binding, locals.findSome? (·.find? name) = some binding ∧
          entry = (name, { binding with value })
  | first :: outer, mem, found => by
    unfold updateIn at mem
    split at mem
    · rename_i binding bound
      rcases List.mem_cons.mp mem with rfl | mem
      · rcases Table.mem_insert found with same | found
        · exact .inr ⟨binding, by rw [List.findSome?_cons, bound], same⟩
        · exact .inl ⟨first, List.mem_cons_self, found⟩
      · exact .inl ⟨scope, List.mem_cons_of_mem _ mem, found⟩
    · rename_i unbound
      rcases List.mem_cons.mp mem with rfl | mem
      · exact .inl ⟨scope, List.mem_cons_self, found⟩
      · rcases mem_updateIn mem found with ⟨old, mem, found⟩ | ⟨binding, bound, same⟩
        · exact .inl ⟨old, List.mem_cons_of_mem _ mem, found⟩
        · exact .inr ⟨binding, by rw [List.findSome?_cons, unbound, bound], same⟩

/-- The bindings after an assignment are those from before and the one that the name means, with the
new value. -/
theorem mem_update {scopes : ScopeStack} {name : String} {value : Value} {scope : Scope}
    {entry : String × Binding}
    (mem : scope ∈ (scopes.update name value).locals ++ [(scopes.update name value).globals])
    (found : entry ∈ scope.entries) :
    (∃ old ∈ scopes.locals ++ [scopes.globals], entry ∈ old.entries) ∨
      ∃ binding, scopes.binding? name = some binding ∧ entry = (name, { binding with value }) := by
  unfold update at mem
  split at mem
  · rcases List.mem_append.mp mem with mem | mem
    · rcases mem_updateIn mem found with ⟨old, mem, found⟩ | ⟨binding, bound, same⟩
      · exact .inl ⟨old, List.mem_append_left _ mem, found⟩
      · exact .inr ⟨binding, by rw [binding?, bound], same⟩
    · exact .inl ⟨scope, List.mem_append_right _ mem, found⟩
  · -- No local scope binds the name, so it means the variable of the whole program, if any.
    rename_i unbound
    have outside : scopes.locals.findSome? (·.find? name) = none := by
      rw [List.findSome?_eq_none_iff]
      intro other mem
      rw [Bool.not_eq_true, List.any_eq_false] at unbound
      simpa [Table.contains] using unbound other mem
    split at mem
    · rename_i binding bound
      rcases List.mem_append.mp mem with mem | mem
      · exact .inl ⟨scope, List.mem_append_left _ mem, found⟩
      · rw [List.mem_singleton] at mem
        subst mem
        rcases Table.mem_insert found with same | found
        · exact .inr ⟨binding, by rw [binding?, outside, bound], same⟩
        · exact .inl ⟨_, List.mem_append_right _ (List.mem_singleton.mpr rfl), found⟩
    · exact .inl ⟨scope, mem, found⟩

/-- The binding that a name means is a binding of one of the scopes. -/
theorem mem_of_binding? {scopes : ScopeStack} {name : String} {binding : Binding}
    (h : scopes.binding? name = some binding) :
    ∃ scope ∈ scopes.locals ++ [scopes.globals], (name, binding) ∈ scope.entries := by
  unfold binding? at h
  split at h
  · rename_i inner found
    cases h
    obtain ⟨scope, mem, bound⟩ := List.exists_of_findSome?_eq_some found
    exact ⟨scope, List.mem_append_left _ mem, Table.mem_of_find? bound⟩
  · exact ⟨scopes.globals, List.mem_append_right _ (List.mem_singleton.mpr rfl),
      Table.mem_of_find? h⟩

end ScopeStack

namespace Memory

/-! ## Single steps -/

/-- One step that the program or one of its handlers takes on the memory that they share. A step
that fails leaves the memory alone. -/
inductive Step : Memory → Memory → Prop
  /-- A call opens a scope. -/
  | push (memory : Memory) : Step memory { memory with scopes := memory.scopes.push }
  /-- The end of a call closes a scope. -/
  | pop (memory : Memory) : Step memory { memory with scopes := memory.scopes.pop }
  /-- A variable is declared. -/
  | declare {memory : Memory} {name : String} {value stored : Value} {type : Ty}
      {scopes : ScopeStack} {store : Store} (held : memory.store.Holds value)
      (ran : (memory.scopes.declare name value type).run memory.store =
        .ok ((stored, scopes), store)) :
    Step memory ⟨store, scopes⟩
  /-- A variable is given a value. -/
  | assign {memory : Memory} {name : String} {value stored : Value} {scopes : ScopeStack}
      {store : Store} (held : memory.store.Holds value)
      (ran : (memory.scopes.assign name value).run memory.store = .ok ((stored, scopes), store)) :
    Step memory ⟨store, scopes⟩
  /-- An operation on values that are at hand. -/
  | operate {memory : Memory} {α : Type} {action : Alloc α} {operands : List Value}
      {results : α → List Value} {result : α} {store : Store}
      (op : Operation memory action operands results)
      (held : ∀ value ∈ operands, memory.store.Holds value)
      (ran : action.run memory.store = .ok (result, store)) :
    Step memory { memory with store }

/-- Some interleaving of steps leads to a memory. -/
def Reachable : Memory → Prop := Relation.ReflTransGen Step .fresh

variable {memory after : Memory}

/-- The memory of a program that has not started is sound. -/
theorem sound_fresh : Sound .fresh where
  store := Store.sound_empty
  bindings scope mem entry found := by
    rw [List.mem_singleton.mp mem] at found
    cases found

/-- The bindings stay admitted while the store grows. -/
theorem Sound.grows {store : Store} (sound : memory.Sound) (grown : memory.store.Grows store)
    (store' : store.Sound) : Sound { memory with store } where
  store := store'
  bindings scope mem entry found := grown.admits (sound.bindings scope mem entry found)

/-- A declaration keeps a memory sound: the value was converted to the declared type. -/
theorem Sound.bind (sound : memory.Sound) {name : String} {binding : Binding}
    (admitted : memory.store.Admits binding.declared binding.value) :
    Sound { memory with scopes := memory.scopes.bind name binding } := by
  obtain ⟨store, ⟨locals, globals⟩⟩ := memory
  have inserted {scope : Scope} (mem : scope ∈ locals ++ [globals]) :
      ∀ entry ∈ (scope.insert name binding).entries,
        store.Admits entry.2.declared entry.2.value := by
    intro entry found
    rcases Table.mem_insert found with rfl | found
    · exact admitted
    · exact sound.bindings scope mem entry found
  refine ⟨sound.store, fun scope mem => ?_⟩
  cases locals with
  | nil =>
    rw [List.mem_singleton.mp mem]
    exact inserted List.mem_cons_self
  | cons innermost outer =>
    rcases List.mem_cons.mp mem with rfl | mem
    · exact inserted List.mem_cons_self
    · exact sound.bindings scope (List.mem_cons_of_mem _ mem)

/-- An assignment keeps a memory sound if the new value is admitted by the declared type of the
variable. -/
theorem Sound.update (sound : memory.Sound) {name : String} {value : Value}
    (admitted : ∀ binding, memory.scopes.binding? name = some binding →
      memory.store.Admits binding.declared value) :
    Sound { memory with scopes := memory.scopes.update name value } := by
  refine ⟨sound.store, fun scope mem entry found => ?_⟩
  rcases ScopeStack.mem_update mem found with ⟨old, mem, found⟩ | ⟨binding, bound, rfl⟩
  · exact sound.bindings old mem entry found
  · exact admitted binding bound

/-- **Every step keeps a memory sound.** An assignment converts to the type of the value that the
variable holds, and that this conforms to the declared type is what the invariant says. -/
theorem Sound.step (sound : memory.Sound) (step : Step memory after) :
    memory.store.Grows after.store ∧ after.Sound := by
  cases step with
  | push =>
    refine ⟨.refl _, sound.store, fun scope mem entry found => ?_⟩
    rcases List.mem_cons.mp mem with rfl | mem
    · cases found
    · exact sound.bindings scope mem entry found
  | pop =>
    refine ⟨.refl _, sound.store, fun scope mem => sound.bindings scope ?_⟩
    rcases List.mem_append.mp mem with mem | mem
    · exact List.mem_append_left _ (List.mem_of_mem_drop mem)
    · exact List.mem_append_right _ mem
  | declare held ran =>
    obtain ⟨converted, rfl⟩ := ScopeStack.declare_eq_ok ran
    obtain ⟨grown, store, admitted⟩ := Value.coerce_yields _ sound.store held _ _ converted
    exact ⟨grown, (sound.grows grown store).bind admitted⟩
  | assign held ran =>
    obtain ⟨binding, bound, rfl, free | converted⟩ := ScopeStack.assign_eq_ok ran
    · obtain ⟨any, rfl, rfl⟩ := free
      refine ⟨.refl _, sound.update fun other bound' => ?_⟩
      rw [bound] at bound'
      cases bound'
      rw [any]
      exact Store.admits_any held
    · -- The value conforms to the type of the old value, and the old value to the declared type.
      obtain ⟨definite, converted⟩ := converted
      obtain ⟨grown, store, admitted⟩ := Value.coerce_yields _ sound.store held _ _ converted
      refine ⟨grown, (sound.grows grown store).update fun other bound' => ?_⟩
      rw [bound] at bound'
      cases bound'
      obtain ⟨scope, mem, found⟩ := ScopeStack.mem_of_binding? bound
      have before := sound.bindings scope mem _ found
      exact ⟨admitted.1, Store.conforms_of_typeIn definite before.2 admitted.2⟩
  | operate op held ran =>
    obtain ⟨grown, store, _⟩ := op.yields sound held _ _ ran
    exact ⟨grown, sound.grows grown store⟩

/-- **Every reachable memory is sound.** -/
theorem Reachable.sound (reachable : memory.Reachable) : memory.Sound := by
  induction reachable with
  | refl => exact sound_fresh
  | tail _ step sound => exact (sound.step step).2

/-- **A well-typed memory.** Every variable holds what conforms to its declared type, every item of
every list conforms to the tag of the list, and so do the keys and the values of every dictionary to
its tags. -/
structure WellTyped (memory : Memory) : Prop where
  /-- The value of every binding of every scope conforms to its declared type. -/
  bindings : ∀ scope ∈ memory.scopeList, ∀ entry ∈ scope.entries,
    memory.store.Conforms entry.2.declared entry.2.value
  /-- Items conform to the tag of their list. -/
  items : ∀ handle, ∀ item ∈ (memory.store.list handle).items,
    memory.store.Conforms (memory.store.list handle).element item
  /-- Keys conform to the first tag of their dictionary. -/
  keys : ∀ handle, ∀ entry ∈ (memory.store.dict handle).entries,
    memory.store.Conforms (memory.store.dict handle).key entry.1
  /-- Values conform to the second tag of their dictionary. -/
  values : ∀ handle, ∀ entry ∈ (memory.store.dict handle).entries,
    memory.store.Conforms (memory.store.dict handle).value entry.2

/-- A sound memory is well typed. -/
theorem Sound.wellTyped (sound : memory.Sound) : memory.WellTyped where
  bindings scope mem entry found := (sound.bindings scope mem entry found).2
  items handle item mem := (sound.store.items handle item mem).2
  keys handle entry mem := (sound.store.keys handle entry mem).2
  values handle entry mem := (sound.store.values handle entry mem).2

end Memory

/-! ## Evaluations take single steps -/

namespace Machine

/-- No built-in function of the machine belongs to a host. -/
def HostFree (machine : Machine) : Prop :=
  ∀ entry ∈ machine.natives.entries, ∀ run, entry.2 ≠ .host run

/-- What an evaluation does to the memory is a sequence of steps, which keep it sound. -/
structure Advances (before after : Machine) : Prop where
  /-- No function of a host is new. -/
  hostFree : after.HostFree
  /-- The memory is sound. -/
  sound : after.memory.Sound
  /-- The store has grown. -/
  grows : before.store.Grows after.store
  /-- The steps that were taken. -/
  steps : Relation.ReflTransGen Memory.Step before.memory after.memory

variable {before middle after : Machine}

/-- Evaluations may follow each other. -/
theorem Advances.trans (first : Advances before middle) (second : Advances middle after) :
    Advances before after :=
  ⟨second.hostFree, second.sound, first.grows.trans second.grows, first.steps.trans second.steps⟩

/-- Where only functions of the language are new, no function of a host is. -/
theorem HostFree.of_natives (hostFree : before.HostFree)
    (natives : ∀ entry ∈ after.natives.entries,
      entry ∈ before.natives.entries ∨ entry.2.isOwn = true) : after.HostFree := by
  intro entry mem run
  rcases natives entry mem with mem | own
  · exact hostFree entry mem run
  · exact Native.ne_host_of_isOwn own run

/-- Before any program there are no functions of a host. -/
theorem hostFree_initial (config : Config) (world : World) :
    (Machine.initial config world).HostFree := fun _ mem =>
  Native.ne_host_of_isOwn (Native.isOwn_of_mem_standard mem)

/-- One step on the memory of a machine whose built-in functions stay as they are. -/
theorem Advances.step (hostFree : after.HostFree) (sound : before.memory.Sound)
    (step : Memory.Step before.memory after.memory) : Advances before after :=
  ⟨hostFree, (sound.step step).2, (sound.step step).1, .single step⟩

/-- What is quiet takes no step. -/
theorem Quiet.advances (h : Quiet before after) (hostFree : before.HostFree)
    (sound : before.memory.Sound) : Advances before after := by
  have same : after.memory = before.memory := by
    unfold memory
    rw [h.store, h.scopes]
  exact ⟨hostFree.of_natives h.natives, same ▸ sound, h.store ▸ .refl _, same ▸ .refl⟩

end Machine

open Machine Eval

/-- The discipline of sound memories: every evaluation takes single steps. -/
def Discipline.soundness : Discipline where
  Good machine := machine.HostFree ∧ machine.memory.Sound
  Calm := Advances
  Busy := Advances
  Fair := Store.Holds
  good_of_busy h := ⟨h.hostFree, h.sound⟩
  busy_of_calm := id
  calm_trans := Advances.trans
  busy_trans := Advances.trans
  calm_of_quiet good h := h.advances good.1 good.2
  fair_of_busy h held := h.grows.holds held
  fair_of_isPlain h := Store.holds_of_isPlain _ h
  fair_of_lookup {machine name value} good found := by
    unfold ScopeStack.lookup at found
    split at found
    · rename_i binding bound
      cases found
      obtain ⟨scope, mem, found⟩ := ScopeStack.mem_of_binding? bound
      exact (good.2.bindings scope mem _ found).1
    · cases found
  fair_of_mem_itemsIn good _ mem := good.2.store.holds_of_mem_itemsIn mem
  operate {machine _ _ _ _} good op held := by
    refine Keeps.alloc ((Quiet.refl machine).advances good.1 good.2) fun result store ran => ?_
    exact ⟨.step good.1 good.2 (.operate op held ran), (op.yields good.2 held _ _ ran).2.2⟩
  declare {machine name value type} good held := by
    refine Keeps.scoping ((Quiet.refl machine).advances good.1 good.2) fun stored _ store ran => ?_
    refine ⟨.step good.1 good.2 (.declare held ran), ?_⟩
    obtain ⟨converted, _⟩ := ScopeStack.declare_eq_ok ran
    exact (Value.coerce_yields type good.2.store held _ _ converted).2.2.1
  assign {machine name value} good held := by
    refine Keeps.scoping ((Quiet.refl machine).advances good.1 good.2) fun stored _ store ran => ?_
    refine ⟨.step good.1 good.2 (.assign held ran), ?_⟩
    obtain ⟨binding, _, _, ⟨_, rfl, rfl⟩ | ⟨_, converted⟩⟩ := ScopeStack.assign_eq_ok ran
    · exact held
    · exact (Value.coerce_yields _ good.2.store held _ _ converted).2.2.1
  calm_of_settle _ _ := id
  host good found _ _ := absurd rfl (good.1 _ (Table.mem_of_find? found) _)
  good_enter {machine} _ good := ⟨good.1, (good.2.step (.push machine.memory)).2⟩
  calm_leave {machine after _ function} good h := by
    have entered : Advances machine (machine.enter function) :=
      .step good.1 good.2 (.push machine.memory)
    exact (entered.trans h).trans (.step h.hostFree h.sound (.pop after.memory))
  good_handler _ good := good
  busy_handler _ h := ⟨h.hostFree, h.sound, h.grows, h.steps⟩

namespace Machine

/-- **The machines of an interpreter that was started fresh**, whatever it is made to evaluate and
however the evaluations end: at the end of an evaluation, and, as calls and handlers may be entered
and left anywhere and parts are evaluated on their own, also in the middle of one. -/
inductive Reached : Machine → Prop
  /-- A machine before any program. -/
  | initial (config : Config) (world : World) : Reached (.initial config world)
  /-- Imports, output, starting handlers, and whatever else touches no memory. -/
  | quiet {machine after : Machine} : Reached machine → machine.Quiet after → Reached after
  /-- Inside a call. -/
  | enter {machine : Machine} (function : Function) : Reached machine →
    Reached (machine.enter function)
  /-- At the end of a call. -/
  | leave {machine : Machine} (caller : Context) (name : String) (function : Function) :
    Reached machine → Reached (machine.leave caller name function)
  /-- Inside a handler, or back from it. -/
  | turn {machine : Machine} (context : Context) : Reached machine →
    Reached { machine with context }
  /-- After a parameter or the variable of a loop is bound. -/
  | declare {machine : Machine} (name : String) {value : Value} (type : Ty) : Reached machine →
    machine.store.Holds value → Reached (machine.perform (Eval.declare name value type)).machine
  /-- After an expression. -/
  | expression {machine : Machine} (budget : Nat) (expression : Expr) : Reached machine →
    Reached (machine.perform (exprWithin budget expression)).machine
  /-- After a statement. -/
  | statement {machine : Machine} (budget : Nat) (statement : Stmt) : Reached machine →
    Reached (machine.perform (stmtWithin budget statement)).machine
  /-- After the body of a function or handler. -/
  | body {machine : Machine} (budget : Nat) (body : List Stmt) : Reached machine →
    Reached (machine.perform (bodyWithin budget body)).machine
  /-- After a source text is run. -/
  | source {machine : Machine} (budget : Nat) (text : String) : Reached machine →
    Reached (machine.perform (Eval.source budget text)).machine
  /-- After the handlers have run. -/
  | settle {machine : Machine} (budget : Nat) : Reached machine →
    Reached (machine.perform (waitForHandlers budget)).machine

/-- The machine after an evaluation is as the evaluation may leave it. -/
theorem perform_of_keeps {machine : Machine} {α : Type} {action : Eval α}
    {may : Machine → Machine → Prop} {gives : Machine → α → Prop}
    (h : action.Keeps may machine gives) : may machine (machine.perform action).machine := by
  unfold Keeps at h
  unfold perform
  cases ended : action machine with
  | ok value after =>
    rw [ended] at h
    exact h.1
  | error stop after =>
    rw [ended] at h
    exact h

/-- A machine that is reached has no functions of a host, a sound memory, and one that is
reachable. -/
theorem Reached.good {machine : Machine} (reached : machine.Reached) :
    machine.HostFree ∧ machine.memory.Sound ∧ machine.memory.Reachable := by
  have advanced {before after : Machine}
      (good : before.HostFree ∧ before.memory.Sound ∧ before.memory.Reachable)
      (h : before.HostFree ∧ before.memory.Sound → Advances before after) :
      after.HostFree ∧ after.memory.Sound ∧ after.memory.Reachable := by
    obtain ⟨hostFree, sound, reachable⟩ := good
    have advances := h ⟨hostFree, sound⟩
    exact ⟨advances.hostFree, advances.sound, reachable.trans advances.steps⟩
  induction reached with
  | initial config world => exact ⟨hostFree_initial config world, Memory.sound_fresh, .refl⟩
  | quiet _ quiet ih => exact advanced ih fun good => quiet.advances good.1 good.2
  | enter function _ ih => exact advanced ih fun good => .step good.1 good.2 (.push _)
  | leave caller name function _ ih => exact advanced ih fun good => .step good.1 good.2 (.pop _)
  | turn context _ ih => exact ih
  -- Whatever is evaluated takes single steps, by the discipline.
  | declare name type _ held ih =>
    exact advanced ih fun good => perform_of_keeps (Discipline.soundness.declare good held)
  | expression budget expression _ ih =>
    exact advanced ih fun good =>
      perform_of_keeps (Discipline.soundness.exprWithin budget expression good)
  | statement budget statement _ ih =>
    exact advanced ih fun good =>
      perform_of_keeps (Discipline.soundness.stmtWithin budget statement good)
  | body budget body _ ih =>
    exact advanced ih fun good =>
      perform_of_keeps (Discipline.soundness.bodyWithin budget body _ good)
  | source budget text _ ih =>
    exact advanced ih fun good =>
      perform_of_keeps (Discipline.soundness.source budget text good)
  | settle budget _ ih =>
    exact advanced ih fun good =>
      perform_of_keeps (Discipline.soundness.waitForHandlers budget good)

end Machine

/-- **Type soundness of the memory.** Every memory that some interleaving of single steps leads to
is well typed, and the memory of every machine that a fresh interpreter comes to is such a memory.
-/
theorem memory_wellTyped :
    (∀ memory : Memory, memory.Reachable → memory.WellTyped) ∧
      ∀ machine : Machine, machine.Reached →
        machine.memory.Reachable ∧ machine.memory.WellTyped :=
  ⟨fun _ reachable => reachable.sound.wellTyped,
    fun _ reached => ⟨reached.good.2.2, reached.good.2.1.wellTyped⟩⟩

/-- A program that holds a list of integers in a variable for lists of anything and then gives the
variable a list of numbers leaves a well-typed memory. -/
theorem aliased_list_wellTyped :
    ((Machine.initial .standard .bare).perform
      (Eval.source 9 "list<int> a = [1]; list b = a; b = [2, 3];")).machine.memory.WellTyped :=
  (memory_wellTyped.2 _ (.source 9 _ (.initial .standard .bare))).2

end ReactiveScript
