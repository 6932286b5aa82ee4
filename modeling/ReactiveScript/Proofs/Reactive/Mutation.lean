import ReactiveScript.Proofs.Reactive.Dispatch

/-! # A change in place reaches every watch that is in view

A watched variable that holds a container hears of every change of the container, through whichever
name the change is made, if the name of the variable is in view where the change is made and the
container is noted under the name. Containers are noted by watching and by assigning (`Noting`), and
stay noted (`Machine.Noted`). The main statement is `inPlace_starts`: such a watch starts its
handler exactly once, and a container that no watched variable holds starts nothing. Where the name
is hidden, and where the container is not noted, a watch does not hear of the change
(`hidden_or_redeclared_idle`). -/

namespace ReactiveScript

open Eval

/-! ## Handlers by label -/

/-- The entry with a number is found once among numbered entries. -/
theorem filter_zipIdx {α : Type} {items : List α} {item : α} {place start : Nat}
    (found : items[place]? = some item) :
    (items.zipIdx start).filter (fun entry => entry.2 = start + place) =
      [(item, start + place)] := by
  induction items generalizing place start with
  | nil => cases found
  | cons first rest ih =>
    rw [List.zipIdx_cons]
    cases place with
    | zero =>
      cases found
      have later : (rest.zipIdx (start + 1)).filter (fun entry => entry.2 = start + 0) = [] := by
        rw [List.filter_eq_nil_iff]
        intro entry mem
        have := List.le_snd_of_mem_zipIdx mem
        simp only [decide_eq_true_eq]
        omega
      rw [List.filter_cons_of_pos (by simp), later]
      rfl
    | succ place =>
      have shifted : start + (place + 1) = start + 1 + place := by omega
      rw [List.filter_cons_of_neg (by simp), shifted]
      exact ih found

/-- What one of some different names gives is all that they give, if the others give nothing. -/
theorem flatMap_eq_of_mem {α : Type} {name : String} {names : List String}
    {give : String → List α} (once : names.Nodup) (mem : name ∈ names)
    (others : ∀ other, other ≠ name → give other = []) : names.flatMap give = give name := by
  obtain ⟨before, after, rfl⟩ := List.append_of_mem mem
  obtain ⟨-, rest, apart⟩ := List.nodup_append.mp once
  have first : before.flatMap give = [] := List.flatMap_eq_nil_iff.mpr fun other mem =>
    others other (apart other mem name List.mem_cons_self)
  have last : after.flatMap give = [] := List.flatMap_eq_nil_iff.mpr fun other mem =>
    others other fun same => (List.nodup_cons.mp rest).1 (same ▸ mem)
  rw [List.flatMap_append, List.flatMap_cons, first, last, List.nil_append, List.append_nil]

namespace Machine

variable {machine : Machine} {name : String} {depth place : Nat} {body : HandlerBody}

/-- **A watch answers once** among the handlers that a change of its variable starts. -/
theorem filter_answers (bound : machine.scopes.depthOf name = .ok depth)
    (waits : (machine.watches.bodies name depth)[place]? = some body) :
    (machine.answers name).filter (·.label = watchLabel name place) =
      [machine.handler (watchLabel name place) body] := by
  unfold answers
  rw [bound]
  dsimp only
  have same : (fun entry : HandlerBody × Nat =>
      decide (watchLabel name entry.2 = watchLabel name place)) =
      fun entry => decide (entry.2 = 0 + place) := by
    funext entry
    rw [Nat.zero_add, decide_eq_decide]
    exact ⟨fun h => (watchLabel_inj h).2, fun h => h ▸ rfl⟩
  rw [List.filter_map]
  change ((machine.watches.bodies name depth).zipIdx.filter fun entry =>
    decide (watchLabel name entry.2 = watchLabel name place)).map _ = _
  rw [same, filter_zipIdx waits, Nat.zero_add]
  rfl

/-- The handlers that another variable starts have other labels. -/
theorem filter_answers_other {other : String} (different : other ≠ name) :
    (machine.answers other).filter (·.label = watchLabel name place) = [] := by
  rw [List.filter_eq_nil_iff]
  intro handler mem same
  unfold answers at mem
  split at mem
  · obtain ⟨entry, _, rfl⟩ := List.mem_map.mp mem
    exact different (watchLabel_inj (of_decide_eq_true same)).1
  · cases mem

end Machine

/-! ## Notes -/

namespace Eval

variable {machine after : Machine} {name : String} {container : Value}

/-- **A container is noted under the name** that it is subscribed by, and nothing else happens. -/
theorem subscribe_eq_ok {value : Value} (h : subscribe name value machine = .ok () after)
    (inStore : machine.store.Holds value) :
    ∃ store, after = { machine with store } ∧
      (value.isPlain = false → name ∈ store.noted value) := by
  cases value with
  | list handle =>
    cases h
    refine ⟨_, rfl, fun _ => ?_⟩
    change name ∈ ((machine.store.modifyList handle _).list handle).subscribers
    rw [Store.list_modifyList inStore, if_pos rfl]
    exact mem_addName name _
  | dict handle =>
    cases h
    refine ⟨_, rfl, fun _ => ?_⟩
    change name ∈ ((machine.store.modifyDict handle _).dict handle).subscribers
    rw [Store.dict_modifyDict inStore, if_pos rfl]
    exact mem_addName name _
  | _ =>
    cases h
    exact ⟨machine.store, rfl, nofun⟩

/-- A machine without functions of a host and with a sound memory. -/
abbrev Ready (machine : Machine) : Prop := Discipline.soundness.Good machine

/-- **Watching a variable notes what it holds.** -/
theorem mem_noted_of_registerWatch {body : HandlerBody} (isContainer : container.isPlain = false)
    (ready : Ready machine) (ran : registerWatch name body machine = .ok () after)
    (held : after.scopes.lookup name = .ok container) : name ∈ after.store.noted container := by
  obtain ⟨depth, _, ran⟩ := reading_bind_eq_ok ran
  obtain ⟨value, found, ran⟩ := reading_bind_eq_ok ran
  have subscribed : subscribe name value
      { machine with watches := machine.watches.register name depth body } = .ok () after := ran
  have inStore : machine.store.Holds value := Discipline.soundness.fair_of_lookup ready found
  obtain ⟨store, rfl, noted⟩ := subscribe_eq_ok subscribed inStore
  -- The variable still has the value that was looked up.
  obtain rfl : value = container := Except.ok.inj (found.symm.trans held)
  exact noted isContainer

/-- What a watched variable was given is noted under its name, and the variables stay. -/
theorem afterAssignment_eq_ok {stored : Value}
    (h : afterAssignment name stored machine = .ok () after)
    (inStore : machine.store.Holds stored) (watched : after.watches.isWatched name = true) :
    after.scopes = machine.scopes ∧ (stored.isPlain = false → name ∈ after.store.noted stored) := by
  have opened : afterAssignment name stored machine =
      (if machine.watches.isWatched name = true then subscribe name stored >>= fun _ =>
        modify fun machine : Machine => machine.notifyVariable name
      else Pure.pure ()) machine := rfl
  rw [opened] at h
  by_cases before : machine.watches.isWatched name = true
  · rw [if_pos before] at h
    obtain ⟨_, middle, subscribed, notified⟩ := bind_eq_ok h
    have told : after = middle.notifyVariable name := by
      cases notified
      rfl
    obtain ⟨store, rfl, noted⟩ := subscribe_eq_ok subscribed inStore
    rw [told, Machine.notifyVariable_eq]
    exact ⟨rfl, noted⟩
  · -- Nothing happens, so the name is not watched afterwards either.
    rw [if_neg before] at h
    cases h
    exact absurd watched before

/-- **Assigning to a watched variable notes what it is given.** -/
theorem mem_noted_of_assign {value : Value} {flow ended : Flow}
    (isContainer : container.isPlain = false) (ready : Ready machine)
    (inStore : machine.store.Holds value)
    (ran : (do
      let stored ← assign name value
      afterAssignment name stored
      return flow) machine = .ok ended after)
    (watched : after.watches.isWatched name = true)
    (held : after.scopes.lookup name = .ok container) : name ∈ after.store.noted container := by
  obtain ⟨stored, middle, assigned, ran⟩ := bind_eq_ok ran
  have storedHeld : middle.store.Holds stored :=
    ((Discipline.soundness.assign ready inStore).of_eq_ok assigned).2
  obtain ⟨_, final, told, finished⟩ := bind_eq_ok ran
  cases finished
  obtain ⟨same, noted⟩ := afterAssignment_eq_ok told storedHeld watched
  -- What the variable holds in the end is what was stored in it.
  obtain ⟨scopes, store, done, rfl⟩ := scoping_eq_ok assigned
  obtain ⟨binding, bound, rfl, _⟩ := ScopeStack.assign_eq_ok done
  rw [same] at held
  obtain rfl : stored = container :=
    Except.ok.inj ((ScopeStack.lookup_update stored bound).symm.trans held)
  exact noted isContainer

end Eval

/-- **The statements that note containers under a name**: a watch of the name, and what gives its
variable a value. -/
inductive Noting (name : String) : Stmt → Prop
  /-- A body is to wait for changes of the variable. -/
  | watch (span : Span) (body : HandlerBody) : Noting name (.watch span name body)
  /-- The variable is given a value. -/
  | assignment (span : Span) (value : Expr) : Noting name (.assignment span name value)
  /-- The variable is given its old value combined with another one. -/
  | compound (span : Span) (op : BinaryOp) (value : Expr) :
    Noting name (.compound span name op value)

/-- **What a watched variable holds after such a statement is noted under its name.** -/
theorem Noting.mem_noted {name : String} {container : Value} {statement : Stmt}
    {machine after : Machine} {budget : Nat} {flow : Flow} (noting : Noting name statement)
    (isContainer : container.isPlain = false) (ready : Ready machine)
    (running : machine.running = true)
    (ran : stmtWithin budget statement machine = .ok flow after)
    (watched : after.watches.isWatched name = true)
    (held : after.scopes.lookup name = .ok container) : name ∈ after.store.noted container := by
  unfold stmtWithin at ran
  -- Moving to the place of the statement touches no memory.
  have moved (span : Span) : Ready (movedTo machine span) := ready
  have evaluated {value : Expr} {operand : Value} {before middle : Machine} (ready : Ready before)
      (ran : expr (bodyWithin budget) budget value before = .ok operand middle) :
      before.Advances middle ∧ middle.store.Holds operand :=
    (Discipline.soundness.exprWithin budget value ready).of_eq_ok ran
  cases noting with
  | watch span body =>
    rw [stmt] at ran
    obtain ⟨_, final, registered, finished⟩ := bind_eq_ok (located_eq_ok running ran)
    cases finished
    exact mem_noted_of_registerWatch isContainer (moved span) registered held
  | assignment span value =>
    rw [stmt] at ran
    obtain ⟨assigned, middle, first, rest⟩ := bind_eq_ok (located_eq_ok running ran)
    obtain ⟨advanced, inStore⟩ := evaluated (moved span) first
    exact mem_noted_of_assign isContainer ⟨advanced.hostFree, advanced.sound⟩ inStore rest watched
      held
  | compound span op value =>
    rw [stmt] at ran
    obtain ⟨old, found, rest⟩ := reading_bind_eq_ok (located_eq_ok running ran)
    obtain ⟨operand, middle, first, rest⟩ := bind_eq_ok rest
    obtain ⟨advanced, inStore⟩ := evaluated (moved span) first
    have oldHeld : middle.store.Holds old :=
      advanced.grows.holds (Discipline.soundness.fair_of_lookup (moved span) found)
    obtain ⟨updated, combined, second, rest⟩ := bind_eq_ok rest
    obtain ⟨advanced', inStore'⟩ := (Discipline.soundness.operation
      ⟨advanced.hostFree, advanced.sound⟩ (.binary op old operand)
      (Discipline.soundness.fair_two oldHeld inStore)).of_eq_ok second
    exact mem_noted_of_assign isContainer ⟨advanced'.hostFree, advanced'.sound⟩ inStore' rest
      watched held

namespace Machine

variable {machine : Machine} {name : String} {container : Value} {depth : Nat}

/-- **A container that is noted under a name**: at some moment on the way to this machine a
statement that notes containers had just been executed, the name was watched, and its variable held
the container. -/
inductive Noted (machine : Machine) (name : String) (container : Value) : Prop
  /-- The memory has come from that moment to the present one in single steps. -/
  | since {before moment : Machine} {budget : Nat} {statement : Stmt} {flow : Flow}
    (noting : Noting name statement) (reached : before.Reached) (running : before.running = true)
    (ran : stmtWithin budget statement before = .ok flow moment)
    (watched : moment.watches.isWatched name = true)
    (held : moment.scopes.lookup name = .ok container)
    (steps : Relation.ReflTransGen Memory.Step moment.memory machine.memory)

/-- The note is still there. -/
theorem Noted.mem_noted (noted : machine.Noted name container)
    (isContainer : container.isPlain = false) : name ∈ machine.store.noted container := by
  obtain ⟨noting, reached, running, ran, watched, held, steps⟩ := noted
  have ready : Ready _ := ⟨reached.good.1, reached.good.2.1⟩
  have mem := noting.mem_noted isContainer ready running ran watched held
  exact (Memory.remembers_of_steps steps container).subset mem

/-! ## Who hears of a change -/

/-- The variable in the scope at a depth holds a container. -/
def HoldsAt (machine : Machine) (depth : Nat) (name : String) (container : Value) : Prop :=
  ∃ binding, machine.scopes.bindingAt depth name = some binding ∧ binding.value = container

/-- What is held where a name is bound is what the name means. -/
theorem holdsAt_iff (bound : machine.scopes.depthOf name = .ok depth) :
    machine.HoldsAt depth name container ↔ machine.scopes.lookup name = .ok container := by
  unfold HoldsAt ScopeStack.lookup
  rw [ScopeStack.bindingAt_of_depthOf bound]
  cases machine.scopes.binding? name with
  | none => simp
  | some binding => simp

/-- A variable that a container is noted under and that holds it is told. -/
theorem mem_told (isContainer : container.isPlain = false)
    (noted : name ∈ machine.store.noted container)
    (held : machine.scopes.lookup name = .ok container) : name ∈ machine.told container := by
  unfold told
  rw [subscribers_eq, List.mem_filter]
  exact ⟨noted, holds_of_lookup isContainer held⟩

/-- A variable that is told starts nothing if no body waits where the container is held. -/
theorem answers_of_mem_told (told : name ∈ machine.told container)
    (unwatched : ∀ depth, machine.watches.bodies name depth ≠ [] →
      ¬ machine.HoldsAt depth name container) : machine.answers name = [] := by
  have held := lookup_of_holds (List.mem_filter.mp told).2
  unfold answers
  split
  · rename_i depth bound
    cases waiting : machine.watches.bodies name depth with
    | nil => rfl
    | cons body rest =>
      have waits : machine.watches.bodies name depth ≠ [] := by simp [waiting]
      exact absurd ((holdsAt_iff bound).mpr held) (unwatched depth waits)
  · rfl

end Machine

/-! ## Changes in place -/

/-- **A change in place reaches every watch that is in view.** The handlers that it starts go behind
those that are in line. A watch in the scope at some depth is among them, once, if the variable
holds the container there, the name means that variable where the change is made, and the container
is noted under the name; and there are none if no watched variable holds the container. -/
theorem inPlace_starts {machine after : Machine} {container : Value} {α : Type} {action : Eval α}
    {result : α} (reached : machine.Reached) (change : InPlace container action)
    (ran : action machine = .ok result after) :
    ∃ started, after.pending = machine.pending ++ started ∧
      (∀ name depth place body, (machine.watches.bodies name depth)[place]? = some body →
        machine.HoldsAt depth name container → machine.scopes.depthOf name = .ok depth →
        machine.Noted name container →
        started.filter (·.label = watchLabel name place) =
          [machine.handler (watchLabel name place) body]) ∧
      ((∀ name depth, machine.watches.bodies name depth ≠ [] →
        ¬ machine.HoldsAt depth name container) → started = []) := by
  obtain ⟨isContainer, store, remembers, rfl⟩ := change.after_eq ran
  rw [Machine.notifyContainer_eq]
  refine ⟨_, rfl, ?_, ?_⟩
  · intro name depth place body waits holds bound noted
    have kept := remembers container
    have told : name ∈ Machine.told { machine with store } container :=
      Machine.mem_told isContainer (kept.subset (noted.mem_noted isContainer))
        ((Machine.holdsAt_iff bound).mp holds)
    have once : (Machine.told { machine with store } container).Nodup := by
      unfold Machine.told
      rw [Machine.subscribers_eq]
      exact (kept.nodup (reached.good.2.2.nodup_noted container)).filter _
    rw [List.filter_flatMap, flatMap_eq_of_mem once told fun other different =>
      Machine.filter_answers_other different]
    exact Machine.filter_answers bound waits
  · intro unwatched
    rw [List.flatMap_eq_nil_iff]
    exact fun name told => Machine.answers_of_mem_told told (unwatched name)

/-- A call that puts an item behind those of a list. -/
def appendCall (handle : Handle) : Call := ⟨"append", [.list handle, .int 7]⟩

/-- A body that tells that something has happened. -/
def hitBody : HandlerBody := [.emit (.at 2 12) "hit"]

/-- A machine with the first list in a variable. -/
def listedMachine : Machine :=
  ((Machine.initial .standard .bare).perform
    (stmtWithin 0 (.declaration (.at 1 1) (.list .any) "xs" none))).machine

/-- The machine after the body is made to wait for changes of the variable. -/
def watchedMachine : Machine :=
  (listedMachine.perform (stmtWithin 0 (.watch (.at 2 1) "xs" hitBody))).machine

/-- Both machines are reached by statements. -/
theorem reached_listed_watched : listedMachine.Reached ∧ watchedMachine.Reached := by
  have listed : listedMachine.Reached := .statement 0 _ (.initial .standard .bare)
  exact ⟨listed, .statement 0 _ listed⟩

/-- One more item of the list starts the body once. -/
theorem appended_item_starts :
    watchedMachine.Reached ∧ watchedMachine.HoldsAt 0 "xs" (.list 0) ∧
      watchedMachine.Noted "xs" (.list 0) ∧
      ∃ after started,
        Eval.collection .append (appendCall 0) watchedMachine = .ok .void after ∧
        after.pending = watchedMachine.pending ++ started ∧
        started.filter (·.label = watchLabel "xs" 0) =
          [watchedMachine.handler (watchLabel "xs" 0) hitBody] := by
  obtain ⟨listed, reached⟩ := reached_listed_watched
  have holds : watchedMachine.HoldsAt 0 "xs" (.list 0) := ⟨_, rfl, rfl⟩
  have registered : stmtWithin 0 (.watch (.at 2 1) "xs" hitBody) listedMachine =
      .ok (.next .void) watchedMachine := rfl
  have noted : watchedMachine.Noted "xs" (.list 0) :=
    .since (.watch _ _) listed rfl registered rfl rfl .refl
  have ran : Eval.collection .append (appendCall 0) watchedMachine = .ok .void
      (watchedMachine.perform (Eval.collection .append (appendCall 0))).machine := rfl
  obtain ⟨started, line, starts, _⟩ := inPlace_starts reached (.append rfl) ran
  exact ⟨reached, holds, noted, _, started, ran, line, starts "xs" 0 0 _ rfl holds rfl noted⟩

/-- The machine inside a call that is given the first list for a parameter of the same name. -/
def hiddenMachine : Machine :=
  ((watchedMachine.enter ⟨"f", .void, [⟨.list .any, "xs"⟩], [], .at 3 1, none⟩).perform
    (Eval.declare "xs" (.list 0) (.list .any))).machine

/-- The machine after the variable is declared once more, which puts a second list into it. -/
def redeclaredMachine : Machine :=
  (watchedMachine.perform
    (stmtWithin 0 (.declaration (.at 3 1) (.list .any) "xs" none))).machine

/-- One more item of a list starts nothing although a watched variable of the whole program holds
the list. -/
def Unheard (machine : Machine) (handle : Handle) : Prop :=
  machine.Reached ∧ (machine.watches.bodies "xs" 0)[0]? = some hitBody ∧
    machine.HoldsAt 0 "xs" (.list handle) ∧
    InPlace (.list handle) (Eval.collection .append (appendCall handle)) ∧
    ∃ after, Eval.collection .append (appendCall handle) machine = .ok .void after ∧
      after.pending = machine.pending

/-- **A watch does not hear of a change where another variable hides its own**, nor of a change of a
list that was neither assigned nor there when the watch was registered. -/
theorem hidden_or_redeclared_idle : Unheard hiddenMachine 0 ∧ Unheard redeclaredMachine 1 := by
  have held : watchedMachine.store.Holds (.list 0) := by
    show 0 < watchedMachine.store.lists.size
    decide
  have hidden : hiddenMachine.Reached :=
    .declare "xs" (.list .any) (.enter _ reached_listed_watched.2) held
  have redeclared : redeclaredMachine.Reached := .statement 0 _ reached_listed_watched.2
  constructor
  · exact ⟨hidden, rfl, ⟨_, rfl, rfl⟩, .append rfl, _, rfl, rfl⟩
  · exact ⟨redeclared, rfl, ⟨_, rfl, rfl⟩, .append rfl, _, rfl, rfl⟩

end ReactiveScript
