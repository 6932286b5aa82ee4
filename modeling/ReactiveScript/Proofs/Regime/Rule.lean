import ReactiveScript.Proofs.Nesting.Acyclic
import ReactiveScript.Proofs.Store.Growth
import ReactiveScript.Proofs.Store.Reachable

/-! # Regimes

An evaluation ends with a value or a fault, or it is cut off. A regime says where evaluations may
start, what an evaluation that ends may have done to the machine, and, apart from that, what one
that is cut off may have done: a regime that allows nothing to be cut off asks for an end. Going
through a container comes to an end unless the container is inside itself, so where evaluations may
not be cut off the memory is `Orderly`. The rules below follow the ways in which evaluations are put
together (`Regime.Obeys.bind` above all), so that whether a piece of the language obeys a regime is
seen from its parts. -/

namespace ReactiveScript

/-- **What an evaluation without calls may do**: add containers and move to another place. All else
is as before, and so are the containers that were there. -/
structure Machine.Enlarged (before after : Machine) : Prop where
  /-- The containers that were there are as they were. -/
  store : before.store.Extends after.store
  /-- Nothing else has changed but the current place. -/
  rest : after = { before with
    store := after.store
    context := { before.context with current := after.context.current } }

namespace Machine.Enlarged

variable {before middle after : Machine}

/-- Doing nothing. -/
theorem refl (machine : Machine) : Enlarged machine machine := ⟨.refl _, rfl⟩

/-- One after the other. -/
theorem trans (first : Enlarged before middle) (second : Enlarged middle after) :
    Enlarged before after := by
  refine ⟨first.store.trans second.store, ?_⟩
  have later := second.rest
  rw [first.rest] at later
  exact later

/-- Adding containers. -/
theorem of_extends {machine : Machine} {store : Store} (h : machine.store.Extends store) :
    Enlarged machine { machine with store } := ⟨h, rfl⟩

/-- Moving to another place. -/
theorem moved (machine : Machine) (span : Span) : Enlarged machine (Eval.movedTo machine span) :=
  ⟨.refl _, rfl⟩

end Machine.Enlarged

/-- **A machine in order**: what variables and containers hold is there, and no container is inside
itself. -/
structure Machine.Orderly (machine : Machine) : Prop where
  /-- The memory is sound, and no function of a host works on it. -/
  good : Discipline.soundness.Good machine
  /-- No container is inside itself. -/
  acyclic : machine.store.Acyclic

namespace Machine.Orderly

variable {before after machine : Machine}

/-- In a machine in order everything that is there is all there. -/
theorem allWhole (orderly : machine.Orderly) : machine.store.AllWhole :=
  orderly.good.2.store.allWhole orderly.acyclic

/-- A machine with the same memory is in order, if the built-in functions that are new are those of
the language. -/
theorem of_memory (orderly : before.Orderly) (memory : after.memory = before.memory)
    (natives : ∀ entry ∈ after.natives.entries,
      entry ∈ before.natives.entries ∨ entry.2.isOwn = true) : after.Orderly where
  good := ⟨orderly.good.1.of_natives natives, memory ▸ orderly.good.2⟩
  acyclic := by
    have store : after.store = before.store := congrArg Memory.store memory
    rw [store]
    exact orderly.acyclic

/-- A machine is in order before any program. -/
theorem initial (config : Config) (world : World) : (Machine.initial config world).Orderly :=
  ⟨⟨Machine.hostFree_initial config world, Memory.sound_fresh⟩, Store.acyclic_empty⟩

/-- A machine in order is so inside a call. -/
theorem enter (orderly : machine.Orderly) (function : Function) :
    (machine.enter function).Orderly :=
  ⟨Discipline.soundness.good_enter function orderly.good, orderly.acyclic⟩

/-- A machine in order is so after a call. -/
theorem leave (orderly : machine.Orderly) (caller : Context) (name : String)
    (function : Function) : (machine.leave caller name function).Orderly :=
  ⟨⟨orderly.good.1, (orderly.good.2.step (.pop machine.memory)).2⟩, orderly.acyclic⟩

/-- Moving to another place leaves a machine in order. -/
theorem moved (orderly : machine.Orderly) (span : Span) : (Eval.movedTo machine span).Orderly :=
  orderly.of_memory rfl fun _ => .inl

end Machine.Orderly

/-- What evaluations are held to. -/
structure Regime where
  /-- Where an evaluation may start. -/
  Ready : Machine → Prop
  /-- What an evaluation that ends may have done. -/
  May : Machine → Machine → Prop
  /-- What an evaluation that is cut off may have done. -/
  Cut : Machine → Machine → Prop
  /-- Where an evaluation has ended, the next one may start. -/
  ready_of_may {before after : Machine} : May before after → Ready after
  /-- Evaluations may follow each other. -/
  trans {first second third : Machine} : May first second → May second third → May first third
  /-- The last of some evaluations may be cut off. -/
  cut_trans {first second third : Machine} : May first second → Cut second third → Cut first third
  /-- Where evaluations may be cut off, later ones may be. -/
  cut_of_may {before after : Machine} : May before after → Cut before before → Cut after after
  /-- Where evaluations may not be cut off, the machine is in order. -/
  orderly {machine : Machine} : Ready machine → Cut machine machine ∨ machine.Orderly
  /-- Every evaluation may do what one without calls does, if the machine stays in order or
  evaluations may be cut off. -/
  enlarge {before after : Machine} : Ready before → before.Enlarged after →
    Cut before before ∨ after.Orderly → May before after

namespace Regime

variable {R : Regime} {α β : Type} {machine before after : Machine}

/-- Doing nothing is allowed. -/
theorem refl (ready : R.Ready machine) : R.May machine machine :=
  R.enlarge ready (.refl machine) (R.orderly ready)

/-- Moving to another place is allowed. -/
theorem moved (ready : R.Ready machine) (span : Span) : R.May machine (Eval.movedTo machine span) :=
  R.enlarge ready (.moved machine span) ((R.orderly ready).imp_right fun orderly =>
    orderly.moved span)

/-- An evaluation may be cut off on a machine, or something else holds. -/
def Bears (R : Regime) (machine : Machine) (otherwise : Prop) : Prop :=
  R.Cut machine machine ∨ otherwise

namespace Bears

variable {first second : Prop}

/-- What is borne on a machine is borne later. -/
theorem later (h : R.Bears before first) (reached : R.May before after) : R.Bears after first :=
  h.imp_left (R.cut_of_may reached)

/-- Two things that are borne are borne together. -/
theorem and (h : R.Bears machine first) (h' : R.Bears machine second) :
    R.Bears machine (first ∧ second) := by
  rcases h with cut | h
  · exact .inl cut
  · exact h'.imp_right fun h' => ⟨h, h'⟩

/-- What is borne of two parts is borne of the first. -/
theorem left {first second : Bool} (h : R.Bears machine ((first && second) = true)) :
    R.Bears machine (first = true) :=
  h.imp_right fun free => (Bool.and_eq_true_iff.mp free).1

/-- What is borne of two parts is borne of the second. -/
theorem right {first second : Bool} (h : R.Bears machine ((first && second) = true)) :
    R.Bears machine (second = true) :=
  h.imp_right fun free => (Bool.and_eq_true_iff.mp free).2

end Bears

/-- The store has some values, or evaluations may be cut off. -/
def Has (R : Regime) (machine : Machine) (values : List Value) : Prop :=
  R.Bears machine (∀ value ∈ values, machine.store.Holds value)

namespace Has

variable {value : Value} {values others : List Value}

/-- No value is missing where there is none. -/
theorem nil : R.Has machine [] := .inr (List.forall_mem_nil _)

/-- Some more values. -/
theorem append (has : R.Has machine values) (has' : R.Has machine others) :
    R.Has machine (values ++ others) :=
  (Bears.and has has').imp_right fun held => List.forall_mem_append.mpr held

/-- Some of the values. -/
theorem of_subset (has : R.Has machine values) (fewer : others ⊆ values) : R.Has machine others :=
  has.imp_right fun held value mem => held value (fewer mem)

/-- A value that the store has. -/
theorem of_bears (h : R.Bears machine (machine.store.Holds value)) : R.Has machine [value] :=
  h.imp_right fun held => List.forall_mem_singleton.mpr held

/-- The store has the values later, after single steps. -/
theorem later (has : R.Has before values) (reached : R.May before after)
    (steps : R.Bears after (before.Advances after)) : R.Has after values := by
  rcases has with cut | held
  · exact .inl (R.cut_of_may reached cut)
  · exact steps.imp_right fun steps value mem => steps.grows.holds (held value mem)

end Has

section Making

variable {operation : Alloc α} {operands : List Value} {results : α → List Value}

/-- What is needed of the memory by an operation on values that the store has. -/
theorem known (ready : R.Ready machine) (has : R.Has machine operands) :
    R.Bears machine (machine.Orderly ∧ ∀ value ∈ operands, machine.store.Holds value) :=
  Bears.and (R.orderly ready) has

/-- An operation that adds containers comes to an end on values that the store has. -/
theorem ends_making (op : Making machine.memory operation operands results)
    (ready : R.Ready machine) (has : R.Has machine operands) :
    R.Bears machine (operation.Ends machine.store fun _ _ => True) :=
  (known ready has).imp_right fun known => op.ends known.1.good.2 known.1.allWhole known.2

/-- **An operation that adds containers is allowed everywhere**, on values that the store has. -/
theorem may_making {value : α} {store : Store}
    (op : Making machine.memory operation operands results) (ready : R.Ready machine)
    (has : R.Has machine operands) (ran : operation.run machine.store = .ok (value, store)) :
    R.May machine { machine with store } := by
  have along : operation.Along .extension machine.store := op.along machine.store
  refine R.enlarge ready (.of_extends (along value store ran)) ?_
  refine ((known ready has).and (ends_making op ready has)).imp_right ?_
  rintro ⟨⟨orderly, held⟩, ends⟩
  obtain ⟨grown, sound, -⟩ := op.yields orderly.good.2 held _ _ ran
  exact ⟨⟨orderly.good.1, orderly.good.2.grows grown sound⟩,
    ((ends.of_ok ran).2.1 orderly.allWhole).acyclic⟩

end Making

/-- **An evaluation obeys a regime** on a machine: however it ends, it has done what it may. -/
def Obeys (R : Regime) (action : Eval α) (machine : Machine) : Prop :=
  match action machine with
  | .ok _ after => R.May machine after
  | .error (.fault _) after => R.May machine after
  | .error .exhausted after => R.Cut machine after

namespace Obeys

variable {action : Eval α} {next : α → Eval β}

/-- A value that is given at once. -/
theorem pure {value : α} (ready : R.Ready machine) : R.Obeys (Pure.pure value) machine :=
  refl ready

/-- A fault of the program. -/
theorem fail {cause : Cause} (ready : R.Ready machine) :
    R.Obeys (Eval.fail cause : Eval α) machine := refl ready

/-- An evaluation that is cut off at once. -/
theorem exhausted (cut : R.Cut machine machine) : R.Obeys (Eval.exhausted : Eval α) machine := cut

/-- **One evaluation after the other.** The second starts where the first has ended. -/
theorem bind (first : R.Obeys action machine)
    (second : ∀ value after, action machine = .ok value after → R.May machine after →
      R.Obeys (next value) after) :
    R.Obeys (action >>= next) machine := by
  unfold Obeys at first ⊢
  simp only [Bind.bind, EStateM.bind]
  cases ended : action machine with
  | error stop after =>
    rw [ended] at first
    cases stop <;> exact first
  | ok value after =>
    rw [ended] at first
    -- However the second ends, it adds to what the first has done.
    have rest := second value after ended first
    unfold Obeys at rest
    cases continued : next value after with
    | ok result final =>
      rw [continued] at rest
      simpa only [continued] using R.trans first rest
    | error stop final =>
      rw [continued] at rest
      cases stop with
      | fault fault => simpa only [continued] using R.trans first rest
      | exhausted => simpa only [continued] using R.cut_trans first rest

/-- One evaluation after the other, where nothing is known of the value in between. -/
theorem andThen (first : R.Obeys action machine) (second : ∀ value {after}, R.Ready after →
      R.May machine after → R.Obeys (next value) after) :
    R.Obeys (action >>= next) machine := by
  refine bind first fun value after _ reached => ?_
  exact second value (R.ready_of_may reached) reached

/-- One evaluation after the other, where the first takes single steps on the memory. -/
theorem knowing {gives : Machine → α → Prop} (first : R.Obeys action machine)
    (keeps : R.Bears machine (action.Keeps Machine.Advances machine gives))
    (second : ∀ value {after}, R.Ready after → R.May machine after →
      R.Bears after (machine.Advances after ∧ gives after value) → R.Obeys (next value) after) :
    R.Obeys (action >>= next) machine := by
  refine bind first fun value after ran reached => ?_
  exact second value (R.ready_of_may reached) reached
    ((keeps.imp_right fun keeps => keeps.of_eq_ok ran).imp_left (R.cut_of_may reached))

/-- An evaluation that looks at the machine first. -/
theorem get {follow : Machine → Eval β} (h : R.Obeys (follow machine) machine) :
    R.Obeys (MonadState.get >>= follow) machine := h

/-- The outcome of an operation that does not look at the machine. -/
theorem ofExcept {outcome : Except Fault α} (ready : R.Ready machine) :
    R.Obeys (Eval.ofExcept outcome) machine := by
  cases outcome with
  | error fault => exact refl ready
  | ok value => exact refl ready

/-- An evaluation after an outcome that does not look at the machine. -/
theorem ofExcept_bind {outcome : Except Fault α} (ready : R.Ready machine)
    (h : ∀ value, outcome = .ok value → R.Obeys (next value) machine) :
    R.Obeys (Eval.ofExcept outcome >>= next) machine := by
  cases outcome with
  | error fault => exact refl ready
  | ok value => exact h value rfl

/-- Something that is read off the machine. -/
theorem reading {read : Machine → Except Fault α} (ready : R.Ready machine) :
    R.Obeys (Eval.reading read) machine := ofExcept ready

/-- An evaluation after something that is read off the machine. -/
theorem reading_bind {read : Machine → Except Fault α} (ready : R.Ready machine)
    (h : ∀ value, read machine = .ok value → R.Obeys (next value) machine) :
    R.Obeys (Eval.reading read >>= next) machine := ofExcept_bind ready h

/-- A change of the machine. -/
theorem change {alter : Machine → Machine} (h : R.May machine (alter machine)) :
    R.Obeys (modify alter) machine := h

/-- A change of the machine followed by an evaluation. -/
theorem change_bind {alter : Machine → Machine} {follow : Unit → Eval β}
    (moved : R.May machine (alter machine)) (h : R.Obeys (follow ()) (alter machine)) :
    R.Obeys (modify alter >>= follow) machine := by
  have first : R.Obeys (modify alter) machine := moved
  refine bind first fun _ after ran _ => ?_
  cases ran
  exact h

/-- An operation on the containers: only the store changes, and only where it does not fail. -/
theorem alloc {operation : Alloc α} (ready : R.Ready machine)
    (ends : R.Bears machine (operation.run machine.store ≠ .error .exhausted))
    (h : ∀ value store, operation.run machine.store = .ok (value, store) →
      R.May machine { machine with store }) :
    R.Obeys (Eval.alloc operation) machine := by
  unfold Obeys Eval.alloc
  cases ran : operation.run machine.store with
  | error stop =>
    cases stop with
    | fault fault => exact refl ready
    | exhausted => exact ends.resolve_right fun never => never ran
  | ok pair => exact h pair.1 pair.2 ran

/-- **An operation that adds containers** comes to an end and is allowed everywhere, on values that
the store has. -/
theorem making {operation : Alloc α} {operands : List Value} {results : α → List Value}
    (op : Making machine.memory operation operands results) (ready : R.Ready machine)
    (has : R.Has machine operands) : R.Obeys (Eval.alloc operation) machine :=
  alloc ready ((ends_making op ready has).imp_right Alloc.Ends.ne_exhausted)
    fun _ _ ran => may_making op ready has ran

/-- An evaluation after something that is found by going through the containers. -/
theorem looking_bind {look : Store → Except Stop α} (ready : R.Ready machine)
    (ends : R.Bears machine (look machine.store ≠ .error .exhausted))
    (h : ∀ value, look machine.store = .ok value → R.Obeys (next value) machine) :
    R.Obeys (Eval.looking look >>= next) machine := by
  have looked : R.Obeys (Eval.looking look) machine := by
    unfold Obeys Eval.looking
    cases found : look machine.store with
    | error stop =>
      cases stop with
      | fault fault => exact refl ready
      | exhausted => exact ends.resolve_right fun never => never found
    | ok value => exact refl ready
  refine bind looked fun value after found _ => ?_
  obtain ⟨found, rfl⟩ := Eval.looking_eq_ok found
  exact h value found

/-- A change of the variables: the store and the scopes change together, or nothing does. -/
theorem scoping {change : ScopeStack → Alloc (Value × ScopeStack)} (ready : R.Ready machine)
    (ends : R.Bears machine ((change machine.scopes).run machine.store ≠ .error .exhausted))
    (h : ∀ stored scopes store,
      (change machine.scopes).run machine.store = .ok ((stored, scopes), store) →
      R.May machine { machine with store, scopes }) :
    R.Obeys (Eval.scoping change) machine := by
  change R.Obeys (Eval.alloc (change machine.scopes) >>= fun result =>
    modify ({ · with scopes := result.2 }) >>= fun _ => Pure.pure result.1) machine
  unfold Obeys
  simp only [Bind.bind, EStateM.bind, Eval.alloc]
  -- The scopes are replaced only after the conversion has succeeded.
  cases ran : (change machine.scopes).run machine.store with
  | error stop =>
    cases stop with
    | fault fault => exact refl ready
    | exhausted => exact ends.resolve_right fun never => never ran
  | ok result => exact h result.1.1 result.1.2 result.2 ran

/-- Blaming a place for a fault changes nothing else. -/
theorem blaming {span : Span} (h : R.Obeys action machine) :
    R.Obeys (Eval.blaming span action) machine := by
  unfold Obeys Eval.blaming at *
  cases ended : action machine with
  | ok value after =>
    rw [ended] at h
    exact h
  | error stop after =>
    rw [ended] at h
    cases stop <;> exact h

/-- An evaluation at a place of the program. -/
theorem located {span : Span} {idle : α} (ready : R.Ready machine)
    (h : ∀ {moved}, R.Ready moved → R.May machine moved → R.Obeys action moved) :
    R.Obeys (Eval.located span idle action) machine := by
  refine get ?_
  split
  · have there := moved ready span
    exact change_bind there (h (R.ready_of_may there) there).blaming
  · exact pure ready

/-- An evaluation of which it is noted if it does not return. -/
theorem returning {gives : Machine → α → Prop} (h : action.Keeps R.May machine gives)
    (hang : ∀ {after}, R.May machine after → R.Cut machine after.hang) :
    R.Obeys (Eval.returning action) machine := by
  unfold Eval.Keeps at h
  unfold Obeys Eval.returning
  cases ended : action machine with
  | ok value after =>
    rw [ended] at h
    exact h.1
  | error stop after =>
    rw [ended] at h
    cases stop with
    | fault fault => exact h
    | exhausted => exact hang h

/-- An evaluation between a change of the machine and its undoing, which the regime of the inner
evaluation need not know of. -/
theorem bracket {inner : Regime} {before after : Machine → Machine}
    (h : inner.Obeys action (before machine))
    (undo : ∀ {final}, inner.May (before machine) final → R.May machine (after final))
    (cut : ∀ {final}, inner.Cut (before machine) final → R.Cut machine (after final)) :
    R.Obeys (Eval.bracket before after action) machine := by
  unfold Obeys Eval.bracket at *
  cases ended : action (before machine) with
  | ok value final =>
    rw [ended] at h
    exact undo h
  | error stop final =>
    rw [ended] at h
    cases stop with
    | fault fault => exact undo h
    | exhausted => exact cut h

/-- What obeys a regime obeys every regime that allows as much. -/
theorem mono {wider : Regime} (h : R.Obeys action machine)
    (may : ∀ {after}, R.May machine after → wider.May machine after)
    (cut : ∀ {after}, R.Cut machine after → wider.Cut machine after) :
    wider.Obeys action machine := by
  unfold Obeys at *
  cases ended : action machine with
  | ok value after =>
    rw [ended] at h
    exact may h
  | error stop after =>
    rw [ended] at h
    cases stop with
    | fault fault => exact may h
    | exhausted => exact cut h

/-- The outcome of an evaluation that is never cut off. -/
theorem ends (h : R.Obeys action machine) (never : ∀ after, ¬ R.Cut machine after) :
    (∃ value after, action machine = .ok value after ∧ R.May machine after) ∨
      ∃ fault after, action machine = .error (.fault fault) after ∧ R.May machine after := by
  unfold Obeys at h
  cases ended : action machine with
  | ok value after =>
    rw [ended] at h
    exact .inl ⟨value, after, rfl, h⟩
  | error stop after =>
    rw [ended] at h
    cases stop with
    | fault fault => exact .inr ⟨fault, after, rfl, h⟩
    | exhausted => exact absurd h (never after)

end Obeys

end Regime

end ReactiveScript
