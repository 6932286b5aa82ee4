import ReactiveScript.Machine.Run

/-! # What evaluations do to the machine

An evaluation changes the machine however it ends: with a value, with a fault, or cut off. A
statement about an evaluation therefore names two things: a relation between the machine before and
every machine that may stand at the end, and what holds of the value where there is one.
`Eval.Keeps` is that statement, and the rules below follow the ways in which evaluations are put
together. Where an evaluation is known to give a value, `Eval.bind_eq_ok` and its like take it
apart; the last section says which machine an evaluation leaves, by the ways in which it is put
together. -/

namespace ReactiveScript

/-- Where two outcomes in a row give a value, the first gave one that led to it. -/
theorem exists_of_bind_eq_ok {ε α β : Type} {outcome : Except ε α} {next : α → Except ε β}
    {result : β} (h : outcome >>= next = .ok result) :
    ∃ value, outcome = .ok value ∧ next value = .ok result := by
  cases outcome with
  | error fault => cases h
  | ok value => exact ⟨value, rfl, h⟩

/-- What has come to an end has given its result. -/
theorem ended_eq_ok {α : Type} {result : Option α} {value : α} (h : ended result = .ok value) :
    result = some value := by
  cases result with
  | none => cases h
  | some found =>
    cases h
    rfl

/-- Something that has a result does not go on for ever. -/
theorem ended_ne_exhausted {α : Type} {result : Option α} (told : result.isSome = true) :
    ended result ≠ .error .exhausted := by
  obtain ⟨value, rfl⟩ := Option.isSome_iff_exists.mp told
  nofun

/-- What is found without touching the containers leaves them alone. -/
theorem Alloc.lift_eq_ok {α : Type} {found : Option α} {store store' : Store} {value : α}
    (h : (liftM found : Alloc α).run store = .ok (value, store')) :
    found = some value ∧ store' = store := by
  cases found with
  | none => cases h
  | some result =>
    cases h
    exact ⟨rfl, rfl⟩

/-- The fault that an evaluation ended with, nothing if it ended otherwise. -/
def Outcome.fault? {α : Type} (outcome : Outcome α) : Option Fault :=
  match outcome.result with
  | .error (.fault fault) => some fault
  | _ => none

/-- An evaluation that ended with a fault gave no value. -/
theorem Outcome.result_of_fault? {α : Type} {outcome : Outcome α} {fault : Fault}
    (h : outcome.fault? = some fault) : outcome.result = .error (.fault fault) := by
  unfold Outcome.fault? at h
  split at h
  · rename_i given ended
    rw [ended, Option.some.inj h]
  · cases h

namespace Eval

variable {α β : Type}

/-- However an evaluation from a machine ends, it `may` do to the machine what it did, and the value
that it gives, if it gives one, is as promised. -/
def Keeps (action : Eval α) (may : Machine → Machine → Prop) (machine : Machine)
    (gives : Machine → α → Prop) : Prop :=
  match action machine with
  | .ok value after => may machine after ∧ gives after value
  | .error _ after => may machine after

namespace Keeps

variable {may : Machine → Machine → Prop} {machine : Machine}
variable {action : Eval α} {next : α → Eval β}
variable {gives : Machine → α → Prop} {promises : Machine → β → Prop}

/-- A value that is given at once. -/
theorem pure {value : α} (same : may machine machine) (h : gives machine value) :
    Keeps (Pure.pure value) may machine gives := ⟨same, h⟩

/-- An evaluation that stops at once. -/
theorem throw {stop : Stop} (same : may machine machine) :
    Keeps (MonadExcept.throw stop : Eval α) may machine gives := same

/-- **One evaluation after the other.** The second starts where the first has ended. -/
theorem bind (trans : ∀ {a b c}, may a b → may b c → may a c)
    (first : Keeps action may machine gives)
    (second : ∀ after value, may machine after → gives after value →
      Keeps (next value) may after promises) :
    Keeps (action >>= next) may machine promises := by
  unfold Keeps at first ⊢
  simp only [Bind.bind, EStateM.bind]
  cases h : action machine with
  | error stop after =>
    rw [h] at first
    exact first
  | ok value after =>
    rw [h] at first
    obtain ⟨reached, given⟩ := first
    -- However the second ends, what it did follows what the first did.
    have rest := second after value reached given
    unfold Keeps at rest
    cases h' : next value after with
    | error stop final =>
      rw [h'] at rest
      simpa only [h'] using trans reached rest
    | ok result final =>
      rw [h'] at rest
      simpa only [h'] using And.intro (trans reached rest.1) rest.2

/-- Where everything is allowed and nothing promised, nothing is to be shown. -/
theorem any : Keeps action (fun _ _ => True) machine fun _ _ => True := by
  unfold Keeps
  cases action machine with
  | ok value after => exact ⟨trivial, trivial⟩
  | error stop after => trivial

/-- What is allowed and what is promised may be weakened. -/
theorem mono {may' : Machine → Machine → Prop} {gives' : Machine → α → Prop}
    (h : Keeps action may machine gives) (wider : ∀ {after}, may machine after → may' machine after)
    (weaker : ∀ {after value}, may machine after → gives after value → gives' after value) :
    Keeps action may' machine gives' := by
  unfold Keeps at h ⊢
  cases h' : action machine with
  | error stop after =>
    rw [h'] at h
    exact wider h
  | ok value after =>
    rw [h'] at h
    exact ⟨wider h.1, weaker h.1 h.2⟩

/-- An evaluation that looks at the machine first. -/
theorem get {follow : Machine → Eval β} (h : Keeps (follow machine) may machine promises) :
    Keeps (MonadState.get >>= follow) may machine promises := h

/-- A change of the machine. -/
theorem change {alter : Machine → Machine} {gives : Machine → Unit → Prop}
    (h : may machine (alter machine)) (given : gives (alter machine) ()) :
    Keeps (modify alter) may machine gives := ⟨h, given⟩

/-- The outcome of an operation that does not look at the machine. -/
theorem ofExcept {outcome : Except Fault α} (same : may machine machine)
    (h : ∀ value, outcome = .ok value → gives machine value) :
    Keeps (Eval.ofExcept outcome) may machine gives := by
  cases outcome with
  | error fault => exact same
  | ok value => exact ⟨same, h value rfl⟩

/-- Something that is read off the machine. -/
theorem reading {read : Machine → Except Fault α} (same : may machine machine)
    (h : ∀ value, read machine = .ok value → gives machine value) :
    Keeps (Eval.reading read) may machine gives :=
  Keeps.get (Keeps.ofExcept same h)

/-- Something that is found by going through the containers. -/
theorem looking {look : Store → Except Stop α} (same : may machine machine)
    (h : ∀ value, look machine.store = .ok value → gives machine value) :
    Keeps (Eval.looking look) may machine gives := by
  unfold Keeps Eval.looking
  cases found : look machine.store with
  | error stop => exact same
  | ok value => exact ⟨same, h value found⟩

/-- An evaluation after an outcome that does not look at the machine. -/
theorem ofExcept_bind {outcome : Except Fault α} (same : may machine machine)
    (h : ∀ value, outcome = .ok value → Keeps (next value) may machine promises) :
    Keeps (Eval.ofExcept outcome >>= next) may machine promises := by
  cases outcome with
  | error fault => exact same
  | ok value => exact h value rfl

/-- An evaluation after something that is read off the machine. -/
theorem reading_bind {read : Machine → Except Fault α} (same : may machine machine)
    (h : ∀ value, read machine = .ok value → Keeps (next value) may machine promises) :
    Keeps (Eval.reading read >>= next) may machine promises := by
  change Keeps (Eval.ofExcept (read machine) >>= next) may machine promises
  exact Keeps.ofExcept_bind same h

/-- An evaluation after something that is found by going through the containers. -/
theorem looking_bind {look : Store → Except Stop α} (same : may machine machine)
    (h : ∀ value, look machine.store = .ok value → Keeps (next value) may machine promises) :
    Keeps (Eval.looking look >>= next) may machine promises := by
  unfold Keeps
  simp only [Bind.bind, EStateM.bind, Eval.looking]
  cases found : look machine.store with
  | error stop => exact same
  | ok value => exact h value found

/-- A fault of the program. -/
theorem fail {cause : Cause} (same : may machine machine) :
    Keeps (Eval.fail cause : Eval α) may machine gives := same

/-- An operation on the containers: only the store changes, and only where it does not fail. -/
theorem alloc {operation : Alloc α} (same : may machine machine)
    (h : ∀ value store, operation.run machine.store = .ok (value, store) →
      may machine { machine with store } ∧ gives { machine with store } value) :
    Keeps (Eval.alloc operation) may machine gives := by
  unfold Keeps Eval.alloc
  cases h' : operation.run machine.store with
  | error fault => exact same
  | ok pair => exact h pair.1 pair.2 h'

/-- A change of the variables: the store and the scopes change together, or nothing does. -/
theorem scoping {change : ScopeStack → Alloc (Value × ScopeStack)}
    {gives : Machine → Value → Prop} (same : may machine machine)
    (h : ∀ stored scopes store,
      (change machine.scopes).run machine.store = .ok ((stored, scopes), store) →
      may machine { machine with store, scopes } ∧ gives { machine with store, scopes } stored) :
    Keeps (Eval.scoping change) may machine gives := by
  change Keeps (Eval.alloc (change machine.scopes) >>= fun result =>
    modify ({ · with scopes := result.2 }) >>= fun _ => Pure.pure result.1) may machine gives
  unfold Keeps
  simp only [Bind.bind, EStateM.bind, Eval.alloc]
  -- The scopes are replaced only after the conversion has succeeded.
  cases h' : (change machine.scopes).run machine.store with
  | error fault => exact same
  | ok result => exact h result.1.1 result.1.2 result.2 h'

/-- Blaming a place for a fault changes nothing else. -/
theorem blaming {span : Span} (h : Keeps action may machine gives) :
    Keeps (Eval.blaming span action) may machine gives := by
  unfold Keeps Eval.blaming at *
  cases h' : action machine with
  | ok value after =>
    rw [h'] at h
    exact h
  | error stop after =>
    rw [h'] at h
    cases stop <;> exact h

/-- An evaluation of which it is noted if it does not return. -/
theorem returning (h : Keeps action may machine gives)
    (hang : ∀ {after}, may machine after → may machine after.hang) :
    Keeps (Eval.returning action) may machine gives := by
  unfold Keeps Eval.returning at *
  cases h' : action machine with
  | ok value after =>
    rw [h'] at h
    exact h
  | error stop after =>
    rw [h'] at h
    cases stop with
    | fault fault => exact h
    | exhausted => exact hang h

/-- An evaluation between a change of the machine and its undoing. -/
theorem bracket {before after : Machine → Machine} {inner : Machine → Machine → Prop}
    {gives' : Machine → α → Prop}
    (h : Keeps action inner (before machine) gives')
    (undo : ∀ {final}, inner (before machine) final → may machine (after final))
    (keep : ∀ {final value}, inner (before machine) final → gives' final value →
      gives (after final) value) :
    Keeps (Eval.bracket before after action) may machine gives := by
  unfold Keeps Eval.bracket at *
  cases h' : action (before machine) with
  | ok value final =>
    rw [h'] at h
    exact ⟨undo h.1, keep h.1 h.2⟩
  | error stop final =>
    rw [h'] at h
    exact undo h

/-- A change of the machine followed by an evaluation. -/
theorem change_bind {alter : Machine → Machine} {follow : Unit → Eval β}
    (trans : ∀ {a b c}, may a b → may b c → may a c) (moved : may machine (alter machine))
    (h : Keeps (follow ()) may (alter machine) promises) :
    Keeps (modify alter >>= follow) may machine promises := by
  have first : Keeps (modify alter) may machine fun after _ => after = alter machine :=
    Keeps.change moved rfl
  refine Keeps.bind trans first fun after _ _ same => ?_
  rw [same]
  exact h

end Keeps

/-! ## Evaluations that give a value -/

section Values

variable {machine after : Machine}

/-- What an evaluation that gives a value has done, and what holds of the value. -/
theorem Keeps.of_eq_ok {action : Eval α} {may : Machine → Machine → Prop}
    {gives : Machine → α → Prop} {value : α} (h : action.Keeps may machine gives)
    (ran : action machine = .ok value after) : may machine after ∧ gives after value := by
  unfold Keeps at h
  rw [ran] at h
  exact h

/-- An evaluation that is performed with a value gives it on the machine after it. -/
theorem eq_ok_of_result {action : Eval α} {value : α}
    (h : (machine.perform action).result = .ok value) :
    action machine = .ok value (machine.perform action).machine := by
  unfold Machine.perform at h ⊢
  cases ended : action machine with
  | ok given after =>
    rw [ended] at h
    obtain rfl : given = value := Except.ok.inj h
    rfl
  | error stop after =>
    rw [ended] at h
    cases h

/-- An evaluation that is performed without a value stops on the machine after it. -/
theorem eq_error_of_result {action : Eval α} {stop : Stop}
    (h : (machine.perform action).result = .error stop) :
    action machine = .error stop (machine.perform action).machine := by
  unfold Machine.perform at h ⊢
  cases ended : action machine with
  | ok value after =>
    rw [ended] at h
    cases h
  | error given after =>
    rw [ended] at h
    obtain rfl : given = stop := Except.error.inj h
    rfl

/-- An evaluation that is performed well gives a value on the machine after it. -/
theorem eq_ok_of_perform {action : Eval α} (h : (machine.perform action).result.toBool = true) :
    ∃ value, action machine = .ok value (machine.perform action).machine := by
  cases ended : (machine.perform action).result with
  | ok value => exact ⟨value, eq_ok_of_result ended⟩
  | error stop =>
    rw [ended] at h
    cases h

/-- The second of two evaluations starts where the first has ended. -/
theorem bind_of_ok {action : Eval α} {next : α → Eval β} {value : α}
    (ended : action machine = .ok value after) :
    (action >>= next) machine = next value after := by
  simp only [Bind.bind, EStateM.bind, ended]

/-- Nothing follows an evaluation that stops. -/
theorem bind_of_error {action : Eval α} {next : α → Eval β} {stop : Stop}
    (ended : action machine = .error stop after) :
    (action >>= next) machine = .error stop after := by
  simp only [Bind.bind, EStateM.bind, ended]

/-- Where two evaluations in a row give a value, the first gave one that led to it. -/
theorem bind_eq_ok {action : Eval α} {next : α → Eval β} {result : β}
    (h : (action >>= next) machine = .ok result after) :
    ∃ value middle, action machine = .ok value middle ∧ next value middle = .ok result after := by
  cases ended : action machine with
  | error stop middle =>
    rw [bind_of_error ended] at h
    cases h
  | ok value middle =>
    rw [bind_of_ok ended] at h
    exact ⟨value, middle, rfl, h⟩

/-- An outcome that does not depend on the machine leaves it alone. -/
theorem ofExcept_bind_eq_ok {outcome : Except Fault α} {next : α → Eval β} {result : β}
    (h : (ofExcept outcome >>= next) machine = .ok result after) :
    ∃ value, outcome = .ok value ∧ next value machine = .ok result after := by
  cases outcome with
  | error fault => cases h
  | ok value => exact ⟨value, rfl, h⟩

/-- An operation on containers changes the store only. -/
theorem alloc_eq_ok {action : Alloc α} {value : α} (h : alloc action machine = .ok value after) :
    ∃ store, action.run machine.store = .ok (value, store) ∧ after = { machine with store } := by
  unfold alloc at h
  split at h
  · rename_i found store ran
    cases h
    exact ⟨store, ran, rfl⟩
  · cases h

/-- Something that is read off the machine, and what follows it. -/
theorem reading_bind_eq_ok {read : Machine → Except Fault α} {next : α → Eval β} {result : β}
    (h : (reading read >>= next) machine = .ok result after) :
    ∃ value, read machine = .ok value ∧ next value machine = .ok result after :=
  ofExcept_bind_eq_ok h

/-- An evaluation after something that can be read off the machine. -/
theorem reading_bind_of_ok {read : Machine → Except Fault α} {next : α → Eval β} {value : α}
    (found : read machine = .ok value) :
    (reading read >>= next) machine = next value machine := by
  change (ofExcept (read machine) >>= next) machine = _
  rw [found]
  rfl

/-- An evaluation that fails since something cannot be read off the machine. -/
theorem reading_bind_of_error {read : Machine → Except Fault α} {next : α → Eval β} {fault : Fault}
    (refused : read machine = .error fault) :
    (reading read >>= next) machine = .error (.fault fault) machine := by
  change (ofExcept (read machine) >>= next) machine = _
  rw [refused]
  rfl

/-- Looking at the containers changes nothing. -/
theorem looking_eq_ok {look : Store → Except Stop α} {value : α}
    (h : looking look machine = .ok value after) :
    look machine.store = .ok value ∧ after = machine := by
  unfold looking at h
  split at h
  · rename_i found
    cases h
    exact ⟨found, rfl⟩
  · cases h

/-- A change of the variables replaces the store and the scopes. -/
theorem scoping_eq_ok {change : ScopeStack → Alloc (Value × ScopeStack)} {stored : Value}
    (h : scoping change machine = .ok stored after) :
    ∃ scopes store, (change machine.scopes).run machine.store = .ok ((stored, scopes), store) ∧
      after = { machine with store, scopes } := by
  have ran : (alloc (change machine.scopes) >>= fun result =>
      modify ({ · with scopes := result.2 }) >>= fun _ => Pure.pure result.1) machine =
      .ok stored after := h
  obtain ⟨⟨value, scopes⟩, middle, changed, replaced⟩ := bind_eq_ok ran
  obtain ⟨store, done, rfl⟩ := alloc_eq_ok changed
  cases replaced
  exact ⟨scopes, store, done, rfl⟩

/-- A change of the variables replaces the store and the scopes by those that it leads to. -/
theorem scoping_of_run {change : ScopeStack → Alloc (Value × ScopeStack)} {stored : Value}
    {scopes : ScopeStack} {store : Store}
    (ran : (change machine.scopes).run machine.store = .ok ((stored, scopes), store)) :
    scoping change machine = .ok stored { machine with store, scopes } := by
  change (alloc (change machine.scopes) >>= fun result =>
    modify ({ · with scopes := result.2 }) >>= fun _ => Pure.pure result.1) machine = _
  simp only [Bind.bind, EStateM.bind, alloc, ran]
  rfl

/-- The machine at a place of the program. -/
def movedTo (machine : Machine) (span : Span) : Machine :=
  { machine with context := { machine.context with current := span } }

/-- An evaluation at a place of the program, on a machine that is running. -/
theorem located_of_running {span : Span} {idle : α} {action : Eval α}
    (running : machine.running = true) :
    located span idle action machine = blaming span action (movedTo machine span) := by
  have opened : located span idle action machine =
      (if machine.running then moveTo span >>= fun _ => blaming span action else Pure.pure idle)
        machine := rfl
  rw [opened, if_pos running]
  rfl

/-- On a machine that is not running an evaluation at a place of the program does nothing. -/
theorem located_of_stopped {span : Span} {idle : α} {action : Eval α}
    (stopped : machine.running = false) : located span idle action machine = .ok idle machine := by
  have opened : located span idle action machine =
      (if machine.running then moveTo span >>= fun _ => blaming span action else Pure.pure idle)
        machine := rfl
  rw [opened, stopped]
  rfl

/-- What an evaluation at a place returns, it returns on the machine at that place. -/
theorem located_eq_ok {span : Span} {idle value : α} {action : Eval α}
    (running : machine.running = true) (h : located span idle action machine = .ok value after) :
    action (movedTo machine span) = .ok value after := by
  rw [located_of_running running] at h
  unfold blaming at h
  split at h
  · rename_i found final ended
    cases h
    exact ended
  · cases h
  · cases h

end Values

/-! ## What evaluations leave -/

section Left

variable {machine between : Machine} {action : Eval α} {next : α → Eval β}

/-- What an evaluation leaves that gives a value. -/
theorem perform_of_ok {value : α} (ended : action machine = .ok value between) :
    machine.perform action = ⟨.ok value, between⟩ := by
  unfold Machine.perform
  rw [ended]

/-- Two evaluations leave what the second one leaves where the first has ended. -/
theorem perform_bind_of_ok {value : α} (ended : action machine = .ok value between) :
    machine.perform (action >>= next) = between.perform (next value) := by
  unfold Machine.perform
  rw [bind_of_ok ended]

/-- Two evaluations leave what the first one leaves if it stops. -/
theorem perform_bind_of_error {stop : Stop} (ended : action machine = .error stop between) :
    (machine.perform (action >>= next)).machine = (machine.perform action).machine := by
  unfold Machine.perform
  rw [bind_of_error ended, ended]

/-- Returning a value changes nothing. -/
theorem perform_bind_pure (action : Eval α) (value : β) (machine : Machine) :
    (machine.perform (action >>= fun _ => Pure.pure value)).machine =
      (machine.perform action).machine := by
  cases ended : action machine with
  | ok given between =>
    rw [perform_bind_of_ok ended, perform_of_ok ended]
    rfl
  | error stop between => exact perform_bind_of_error ended

/-- Blaming a place for a fault changes nothing else. -/
theorem perform_blaming (span : Span) (action : Eval α) (machine : Machine) :
    (machine.perform (blaming span action)).machine = (machine.perform action).machine := by
  unfold Machine.perform blaming
  cases action machine with
  | ok value final => rfl
  | error stop final => cases stop <;> rfl

/-- What is done at a place of the program, on a machine that is running. -/
theorem perform_located {outer own : Eval α} {span : Span} {idle : α}
    (shape : outer = located span idle own) (running : machine.running = true) :
    (machine.perform outer).machine = ((movedTo machine span).perform own).machine := by
  have same : outer machine = blaming span own (movedTo machine span) := by
    rw [shape, located_of_running running]
  rw [← perform_blaming span own]
  unfold Machine.perform
  rw [same]

end Left

/-- The last step of every assignment to a variable: the variable is given the value, and the
watches are told. -/
def put (name : String) (value : Value) : Eval Flow := do
  let stored ← assign name value
  afterAssignment name stored
  return .next .void

end Eval

end ReactiveScript
