import ReactiveScript.Proofs.Reactive.Subscription
import ReactiveScript.Proofs.Scope.Resolution

/-! # What a change of a container starts

A change in place tells the variables that are noted in the container and hold it, and each of these
starts the handlers that wait for it where it is bound. The handlers go to the end of the line, and
their labels tell them apart: a name and a number make a label that no other name and number make.
`Machine.notifyContainer_eq` lists what is started, and `InPlace.after_eq` says that every way to
change a container in place starts just that. -/

namespace ReactiveScript

/-! ## Labels -/

/-- The label of the handler of a watch: the name that it waits for, and its number among the
watches of that name in the same scope. -/
def watchLabel (name : String) (place : Nat) : String := s!"watch:{name}#{place}"

/-- Numbers hold no mark. -/
theorem mark_not_mem_repr (place : Nat) : '#' ∉ place.repr.toList := by
  intro mem
  rw [Nat.toList_repr] at mem
  have digit := Nat.isDigit_of_mem_toDigits (by decide) (by decide) mem
  cases digit

/-- The last mark of a text divides it. -/
theorem append_mark_inj {front front' back back' : List Char} (none : '#' ∉ back)
    (none' : '#' ∉ back') (h : front ++ '#' :: back = front' ++ '#' :: back') :
    front = front' ∧ back = back' := by
  rcases List.append_eq_append_iff.mp h with ⟨more, rfl, rest⟩ | ⟨more, rfl, rest⟩
  · cases more with
    | nil => simpa using rest
    | cons c more =>
      obtain ⟨-, rfl⟩ := List.cons.inj rest
      exact absurd (List.mem_append_right _ List.mem_cons_self) none
  · cases more with
    | nil => simpa using rest.symm
    | cons c more =>
      obtain ⟨-, rfl⟩ := List.cons.inj rest
      exact absurd (List.mem_append_right _ List.mem_cons_self) none'

/-- **Labels tell watches apart.** -/
theorem watchLabel_inj {name name' : String} {place place' : Nat}
    (h : watchLabel name place = watchLabel name' place') : name = name' ∧ place = place' := by
  have same : ("watch:" ++ name ++ "#" ++ place.repr).toList =
      ("watch:" ++ name' ++ "#" ++ place'.repr).toList := congrArg String.toList h
  simp only [String.toList_append, List.append_assoc, List.append_cancel_left_eq] at same
  obtain ⟨names, numbers⟩ :=
    append_mark_inj (mark_not_mem_repr place) (mark_not_mem_repr place') same
  refine ⟨String.toList_inj.mp names, ?_⟩
  rw [Nat.toList_repr, Nat.toList_repr] at numbers
  rw [← Nat.ofDigitChars_ten_toDigits (n := place), numbers, Nat.ofDigitChars_ten_toDigits]

/-! ## Starting handlers -/

namespace Machine

variable {machine : Machine} {name : String} {container : Value}

/-- The handler that a machine starts for a body: it sees the context, but no calls are going on in
it. -/
def handler (machine : Machine) (label : String) (body : HandlerBody) : Pending :=
  ⟨label, body, { machine.context with callDepth := 0 }⟩

/-- The handlers that a change of a variable starts: those of the watches that were registered where
the variable is bound now. -/
def answers (machine : Machine) (name : String) : List Pending :=
  match machine.scopes.depthOf name with
  | .ok depth => (machine.watches.bodies name depth).zipIdx.map fun (body, place) =>
    machine.handler (watchLabel name place) body
  | .error _ => []

/-- The machine with more handlers in line. -/
def lined (machine : Machine) (handlers : List Pending) : Machine :=
  { machine with pending := machine.pending ++ handlers }

/-- Handlers may join the line in two groups. -/
theorem lined_lined (machine : Machine) (first second : List Pending) :
    (machine.lined first).lined second = machine.lined (first ++ second) := by
  simp [lined]

/-- No handlers leave the line alone. -/
theorem lined_nil (machine : Machine) : machine.lined [] = machine := by
  simp [lined]

/-- Bodies with labels join the line one after the other. -/
theorem foldl_start (label : Nat → String) (bodies : List (HandlerBody × Nat))
    (machine : Machine) :
    bodies.foldl (fun machine (body, place) => machine.start (label place) body) machine =
      machine.lined (bodies.map fun (body, place) => machine.handler (label place) body) := by
  induction bodies generalizing machine with
  | nil => exact (lined_nil machine).symm
  | cons first rest ih =>
    rw [List.foldl_cons, ih]
    exact lined_lined machine [_] _

/-- Bodies that start together join the line in their order, with labels that number them. -/
theorem startAll_eq (machine : Machine) (label : String) (bodies : List HandlerBody) :
    machine.startAll label bodies =
      machine.lined (bodies.zipIdx.map fun (body, place) =>
        machine.handler s!"{label}#{place}" body) :=
  foldl_start (fun place => s!"{label}#{place}") _ machine

/-- **What a change of a variable starts.** -/
theorem notifyVariable_eq (machine : Machine) (name : String) :
    machine.notifyVariable name = machine.lined (machine.answers name) := by
  cases found : machine.scopes.depthOf name with
  | ok depth =>
    simp only [notifyVariable, answers, found]
    exact foldl_start (watchLabel name) _ machine
  | error fault =>
    simp only [notifyVariable, answers, found]
    exact (lined_nil machine).symm

/-- The variables that are noted in a container and hold it. -/
def told (machine : Machine) (container : Value) : List String :=
  (machine.subscribers container).filter fun name => machine.holds name container

/-- **What a change of a container starts.** -/
theorem notifyContainer_eq (machine : Machine) (container : Value) :
    machine.notifyContainer container =
      machine.lined ((machine.told container).flatMap machine.answers) := by
  -- Handlers in line change neither who holds the container nor who waits for what.
  have tell (names : List String) (line : List Pending) :
      names.foldl (fun machine name =>
          if machine.holds name container then machine.notifyVariable name else machine)
        (machine.lined line) =
      machine.lined (line ++ (names.filter fun name => machine.holds name container).flatMap
        machine.answers) := by
    induction names generalizing line with
    | nil => simp
    | cons first rest ih =>
      rw [List.foldl_cons, List.filter_cons]
      change (rest.foldl _ (if machine.holds first container then _ else _)) = _
      split
      · rw [notifyVariable_eq, lined_lined, ih, List.flatMap_cons, ← List.append_assoc]
        rfl
      · exact ih line
  have all := tell (machine.subscribers container) []
  rwa [lined_nil] at all

/-- The names noted in a container. -/
theorem subscribers_eq (machine : Machine) (container : Value) :
    machine.subscribers container = machine.store.noted container := by
  cases container <;> rfl

/-- A variable that holds a container has it as its value. -/
theorem lookup_of_holds (h : machine.holds name container = true) :
    machine.scopes.lookup name = .ok container := by
  unfold holds at h
  split at h
  · rename_i found
    rw [found, beq_iff_eq.mp h]
  · rename_i found
    rw [found, beq_iff_eq.mp h]
  · cases h

/-- A variable with a container as its value holds it. -/
theorem holds_of_lookup (isContainer : container.isPlain = false)
    (h : machine.scopes.lookup name = .ok container) : machine.holds name container = true := by
  unfold holds
  rw [h]
  cases container <;> first
    | exact beq_self_eq_true _
    | cases isContainer

end Machine

/-! ## Changes in place -/

/-- **The ways to change a container in place.** -/
inductive InPlace (container : Value) : {α : Type} → Eval α → Prop
  /-- One of its elements is given a value. -/
  | element (position value : Value) : InPlace container (Eval.setElement container position value)
  /-- An item is put behind the others. -/
  | append {call : Call} (first : call.argument 0 = .ok container) :
    InPlace container (Eval.collection .append call)
  /-- An item or a key is taken out. -/
  | remove {call : Call} (first : call.argument 0 = .ok container) :
    InPlace container (Eval.collection .remove call)

/-- The list that a call demands is its argument. -/
theorem Call.argument_of_list {call : Call} {place : Nat} {value : Value} {handle : Handle}
    (found : call.argument place = .ok value) (list : call.list place = .ok handle) :
    value = .list handle := by
  unfold Call.list Call.demand at list
  rw [found] at list
  cases value <;> cases list
  rfl

open Eval

/-- An operation on containers after which the variables that hold a container are told. -/
theorem tell_eq_ok {α β : Type} {operation : Alloc β} {next : β → Eval α} {final : β → α}
    {container : Value} {machine after : Machine} {result : α}
    (remembers : operation.Remembers machine.store)
    (next_eq : ∀ value, next value = do
      modify (·.notifyContainer container)
      return final value)
    (ran : (alloc operation >>= next) machine = .ok result after) :
    ∃ store, machine.store.Remembers store ∧
      after = Machine.notifyContainer { machine with store } container := by
  obtain ⟨value, middle, changed, told⟩ := bind_eq_ok ran
  obtain ⟨store, done, rfl⟩ := alloc_eq_ok changed
  rw [next_eq] at told
  cases told
  exact ⟨store, remembers value store done, rfl⟩

/-- **A change in place changes the store and tells the variables** that hold the container; what is
noted in containers stays. -/
theorem InPlace.after_eq {container : Value} {α : Type} {action : Eval α} {machine after : Machine}
    {result : α} (change : InPlace container action) (ran : action machine = .ok result after) :
    container.isPlain = false ∧ ∃ store, machine.store.Remembers store ∧
      after = Machine.notifyContainer { machine with store } container := by
  cases change with
  | element position value =>
    unfold setElement at ran
    cases container with
    | list handle =>
      exact ⟨rfl, tell_eq_ok (Alloc.listSet_sameNotes position value).remembers (fun _ => rfl) ran⟩
    | dict handle =>
      exact ⟨rfl, tell_eq_ok (Alloc.dictSet_sameNotes position value).remembers (fun _ => rfl) ran⟩
    | _ => cases ran
  | append first =>
    obtain ⟨_, _, ran⟩ := ofExcept_bind_eq_ok ran
    obtain ⟨handle, list, ran⟩ := ofExcept_bind_eq_ok ran
    obtain ⟨item, _, ran⟩ := ofExcept_bind_eq_ok ran
    obtain rfl := Call.argument_of_list first list
    exact ⟨rfl, tell_eq_ok (Alloc.listPush_sameNotes item).remembers (fun _ => rfl) ran⟩
  | remove first =>
    obtain ⟨_, _, ran⟩ := ofExcept_bind_eq_ok ran
    obtain ⟨found, argument, ran⟩ := ofExcept_bind_eq_ok ran
    obtain ⟨value, _, ran⟩ := ofExcept_bind_eq_ok ran
    obtain rfl : container = found := Except.ok.inj (first.symm.trans argument)
    refine ⟨?_, tell_eq_ok (Alloc.remove_sameNotes container value).remembers (fun _ => rfl) ran⟩
    -- Nothing can be taken out of what is no container.
    obtain ⟨removed, middle, changed, _⟩ := bind_eq_ok ran
    obtain ⟨store, changed, _⟩ := alloc_eq_ok changed
    cases container <;> first
      | rfl
      | cases changed

end ReactiveScript
