import ReactiveScript.Proofs.Evaluation.Effect
import ReactiveScript.Reactive.Table

/-! # What the tables of signals and watches record

The two tables only ever change by registrations: a signal is declared, a body is made to wait for a
signal, a body is made to wait for changes of a variable. A registration may be refused. The tables
record exactly those that were granted, in order (`Registry.Records`), whatever was attempted in
whichever order (`Registry.records_attempts`). -/

namespace ReactiveScript

/-- Something that the tables of signals and watches are asked to record. -/
inductive Registration where
  /-- A signal is declared. -/
  | signal (name : String)
  /-- A body is to wait for a signal. -/
  | handler (name : String) (body : HandlerBody)
  /-- A body is to wait for changes of a variable in the scope at some depth. -/
  | watch (name : String) (depth : Nat) (body : HandlerBody)

namespace Registration

/-- The body that a registration makes wait for a signal. -/
def bodyFor? (name : String) : Registration → Option HandlerBody
  | .handler other body => if other = name then some body else none
  | _ => none

/-- The body that a registration makes wait for changes of a variable in the scope at some depth. -/
def bodyAt? (name : String) (depth : Nat) : Registration → Option HandlerBody
  | .watch other level body => if other = name ∧ level = depth then some body else none
  | _ => none

end Registration

/-- The bodies that wait for a signal after some registrations, in their order. -/
def bodiesFor (name : String) (log : List Registration) : List HandlerBody :=
  log.filterMap (·.bodyFor? name)

/-- The bodies that wait for changes of a variable in the scope at some depth after some
registrations, in their order. -/
def bodiesAt (name : String) (depth : Nat) (log : List Registration) : List HandlerBody :=
  log.filterMap (·.bodyAt? name depth)

section Log

variable {name other : String} {depth level : Nat} {body : HandlerBody} {log : List Registration}

/-- The bodies that wait for a signal after one more registration. -/
theorem bodiesFor_append (registration : Registration) :
    bodiesFor name (log ++ [registration]) =
      bodiesFor name log ++ (registration.bodyFor? name).toList := by
  unfold bodiesFor
  rw [List.filterMap_append, List.filterMap_cons, List.filterMap_nil]
  cases registration.bodyFor? name <;> rfl

/-- The bodies that wait for changes of a variable after one more registration. -/
theorem bodiesAt_append (registration : Registration) :
    bodiesAt name depth (log ++ [registration]) =
      bodiesAt name depth log ++ (registration.bodyAt? name depth).toList := by
  unfold bodiesAt
  rw [List.filterMap_append, List.filterMap_cons, List.filterMap_nil]
  cases registration.bodyAt? name depth <;> rfl

/-- A body waits for changes of a variable at a depth if it was registered there. -/
theorem mem_bodiesAt : body ∈ bodiesAt name depth log ↔ .watch name depth body ∈ log := by
  unfold bodiesAt
  rw [List.mem_filterMap]
  constructor
  · rintro ⟨registration, mem, found⟩
    cases registration with
    | watch other level waiting =>
      obtain ⟨⟨rfl, rfl⟩, rfl⟩ : (other = name ∧ level = depth) ∧ waiting = body := by
        simpa [Registration.bodyAt?] using found
      exact mem
    | _ => cases found
  · exact fun mem => ⟨_, mem, by simp [Registration.bodyAt?]⟩

end Log

/-! ## Single operations on the tables -/

namespace SignalTable

variable {table after : SignalTable} {name : String}

/-- A signal that bodies can be listed for is declared. -/
theorem isDeclared_iff :
    table.isDeclared name = true ↔ ∃ bodies, table.bodies name = .ok bodies := by
  unfold isDeclared Table.contains SignalTable.bodies
  cases table.handlers.find? name <;> simp

/-- What is listed after the bodies of one signal are set. -/
theorem bodies_insert (bodies : List HandlerBody) (other : String) :
    SignalTable.bodies ⟨table.handlers.insert name bodies⟩ other =
      if other = name then .ok bodies else table.bodies other := by
  unfold SignalTable.bodies
  rw [Table.find?_insert]
  by_cases same : other = name
  · rw [if_pos same, if_pos same]
  · rw [if_neg same, if_neg same]

/-- Where no bodies are listed, the signal is not declared. -/
theorem bodies_eq_error {fault : Fault} (h : table.bodies name = .error fault) :
    fault = (Cause.signalUndeclared name).fault := by
  unfold SignalTable.bodies at h
  split at h
  · cases h
  · exact (Except.error.inj h).symm

/-- A declaration is refused exactly if the signal is declared. -/
theorem declare_eq_error_iff {fault : Fault} : table.declare name = .error fault ↔
    (∃ bodies, table.bodies name = .ok bodies) ∧ fault = (Cause.signalDeclared name).fault := by
  rw [← isDeclared_iff]
  unfold declare
  by_cases declared : table.isDeclared name = true
  · rw [if_pos declared]
    simp [declared, eq_comm]
  · rw [if_neg declared]
    simp [declared]

/-- A body is turned away exactly if the signal is not declared. -/
theorem attach_eq_error_iff {body : HandlerBody} {fault : Fault} :
    table.attach name body = .error fault ↔
      (¬ ∃ bodies, table.bodies name = .ok bodies) ∧
        fault = (Cause.signalUndeclared name).fault := by
  unfold attach
  cases listed : table.bodies name with
  | ok bodies => simp [Bind.bind, Except.bind, Pure.pure, Except.pure]
  | error refused =>
    rw [bodies_eq_error listed]
    simp [Bind.bind, Except.bind, eq_comm]

/-- A declaration that is granted lists nothing for the signal, and leaves the others alone. -/
theorem declare_eq_ok (h : table.declare name = .ok after) :
    (¬ ∃ bodies, table.bodies name = .ok bodies) ∧
      ∀ other, after.bodies other = if other = name then .ok [] else table.bodies other := by
  rw [← isDeclared_iff]
  unfold declare at h
  split at h
  · cases h
  · rename_i new
    cases h
    exact ⟨new, bodies_insert []⟩

/-- A body that is let in stands behind those of its signal, and the other signals are left
alone. -/
theorem attach_eq_ok {body : HandlerBody} (h : table.attach name body = .ok after) :
    ∃ bodies, table.bodies name = .ok bodies ∧
      ∀ other, after.bodies other =
        if other = name then .ok (bodies ++ [body]) else table.bodies other := by
  unfold attach at h
  cases listed : table.bodies name with
  | ok bodies =>
    rw [listed] at h
    cases h
    exact ⟨bodies, rfl, bodies_insert _⟩
  | error refused =>
    rw [listed] at h
    cases h

end SignalTable

namespace WatchTable

variable {table : WatchTable} {name : String}

/-- The watches of a variable after one was registered. -/
theorem of_register (depth : Nat) (body : HandlerBody) (other : String) :
    (table.register name depth body).of other =
      table.of other ++ if name = other then [⟨depth, body⟩] else [] := by
  unfold WatchTable.of register
  rw [Table.find?_insert]
  by_cases same : name = other
  · subst same
    rw [if_pos rfl, if_pos rfl]
    rfl
  · rw [if_neg (Ne.symm same), if_neg same, List.append_nil]

/-- **A body that is registered stands behind those of its variable and depth**, and nothing else
changes. -/
theorem bodies_register (depth : Nat) (body : HandlerBody) (other : String) (level : Nat) :
    (table.register name depth body).bodies other level =
      table.bodies other level ++ if name = other ∧ depth = level then [body] else [] := by
  unfold WatchTable.bodies
  rw [of_register, List.filter_append, List.map_append]
  congr 1
  by_cases same : name = other
  · by_cases here : depth = level <;> simp [same, here]
  · simp [same]

/-- A variable is watched if a body waits for it at some depth. -/
theorem isWatched_iff : table.isWatched name = true ↔ ∃ depth, table.bodies name depth ≠ [] := by
  unfold isWatched WatchTable.bodies
  cases table.of name with
  | nil => simp
  | cons watch rest =>
    have listed : ∃ depth, ((watch :: rest).filter (·.depth == depth)).map Watch.body ≠ [] :=
      ⟨watch.depth, by simp⟩
    simpa using listed

/-- A variable for which a body was registered is watched. -/
theorem isWatched_register (table : WatchTable) (name : String) (depth : Nat)
    (body : HandlerBody) : (table.register name depth body).isWatched name = true := by
  rw [isWatched_iff]
  refine ⟨depth, ?_⟩
  rw [bodies_register, if_pos ⟨rfl, rfl⟩]
  exact List.append_ne_nil_of_right_ne_nil _ (List.cons_ne_nil _ _)

end WatchTable

/-! ## Both tables -/

/-- The tables of signals and watches. -/
structure Registry where
  /-- The signals with the bodies that wait for them. -/
  signals : SignalTable
  /-- The bodies that wait for changes of variables. -/
  watches : WatchTable

namespace Registry

/-- The tables before any registration. -/
def empty : Registry := ⟨.empty, .empty⟩

/-- The tables after a registration, which may be refused. -/
def enter (registry : Registry) : Registration → Except Fault Registry
  | .signal name => do return { registry with signals := ← registry.signals.declare name }
  | .handler name body => do return { registry with signals := ← registry.signals.attach name body }
  | .watch name depth body =>
    .ok { registry with watches := registry.watches.register name depth body }

/-- **Registrations are attempted one after the other**: those that are granted, in order, and the
tables in the end. -/
def attempt (registry : Registry) : List Registration → List Registration × Registry
  | [] => ([], registry)
  | registration :: rest =>
    match registry.enter registration with
    | .ok after => ((after.attempt rest).1.cons registration, (after.attempt rest).2)
    | .error _ => registry.attempt rest

/-- **The tables record some registrations exactly.** -/
structure Records (registry : Registry) (log : List Registration) : Prop where
  /-- A declaration is refused exactly if the signal was declared. -/
  declare (name : String) (fault : Fault) :
    registry.signals.declare name = .error fault ↔
      .signal name ∈ log ∧ fault = (Cause.signalDeclared name).fault
  /-- A body is turned away exactly if the signal was not declared. -/
  attach (name : String) (body : HandlerBody) (fault : Fault) :
    registry.signals.attach name body = .error fault ↔
      .signal name ∉ log ∧ fault = (Cause.signalUndeclared name).fault
  /-- For a signal that was declared those bodies wait that were attached to it, in order. -/
  handlers (name : String) (bodies : List HandlerBody) :
    registry.signals.bodies name = .ok bodies ↔ .signal name ∈ log ∧ bodies = bodiesFor name log
  /-- To a signal that was not declared no body was attached. -/
  unattached (name : String) : .signal name ∉ log → bodiesFor name log = []
  /-- For changes of a variable at a depth those bodies wait that were registered, in order. -/
  matching (name : String) (depth : Nat) :
    registry.watches.bodies name depth = bodiesAt name depth log

variable {registry after : Registry} {log : List Registration} {registration : Registration}

/-- What is listed decides what is granted and what is refused. -/
theorem Records.of_listed
    (handlers : ∀ name bodies, registry.signals.bodies name = .ok bodies ↔
      .signal name ∈ log ∧ bodies = bodiesFor name log)
    (unattached : ∀ name, .signal name ∉ log → bodiesFor name log = [])
    (matching : ∀ name depth, registry.watches.bodies name depth = bodiesAt name depth log) :
    registry.Records log := by
  have declared (name : String) :
      (∃ bodies, registry.signals.bodies name = .ok bodies) ↔ .signal name ∈ log := by
    simp [handlers]
  refine ⟨fun name fault => ?_, fun name body fault => ?_, handlers, unattached, matching⟩
  · rw [SignalTable.declare_eq_error_iff, declared]
  · rw [SignalTable.attach_eq_error_iff, declared]

/-- Before any registration nothing is recorded. -/
theorem records_empty : empty.Records [] :=
  .of_listed (fun _ _ => ⟨nofun, nofun⟩) (fun _ _ => rfl) fun _ _ => rfl

/-- Recording goes on where a signal is declared. -/
theorem Records.signal (records : registry.Records log) {name : String}
    (granted : registry.enter (.signal name) = .ok after) :
    after.Records (log ++ [.signal name]) := by
  obtain ⟨signals, declared, given⟩ := exists_of_bind_eq_ok granted
  cases given
  obtain ⟨new, listed⟩ := SignalTable.declare_eq_ok declared
  have undeclared : .signal name ∉ log := fun mem =>
    new ⟨_, (records.handlers name _).mpr ⟨mem, rfl⟩⟩
  have same (other : String) : bodiesFor other (log ++ [.signal name]) = bodiesFor other log := by
    rw [bodiesFor_append]
    exact List.append_nil _
  refine .of_listed (fun other bodies => ?_) (fun other absent => ?_) fun other depth => ?_
  · rw [listed, same]
    by_cases here : other = name
    · -- nothing was attached to the signal before it was declared
      subst here
      simp [records.unattached other undeclared, eq_comm]
    · simp [here, records.handlers]
  · rw [same]
    exact records.unattached other fun mem => absent (List.mem_append_left _ mem)
  · rw [bodiesAt_append]
    simpa [Registration.bodyAt?] using records.matching other depth

/-- Recording goes on where a body is made to wait for a signal. -/
theorem Records.handler (records : registry.Records log) {name : String} {body : HandlerBody}
    (granted : registry.enter (.handler name body) = .ok after) :
    after.Records (log ++ [.handler name body]) := by
  obtain ⟨signals, attached, given⟩ := exists_of_bind_eq_ok granted
  cases given
  obtain ⟨bodies, before, listed⟩ := SignalTable.attach_eq_ok attached
  obtain ⟨declared, rfl⟩ := (records.handlers name bodies).mp before
  refine .of_listed (fun other bodies => ?_) (fun other absent => ?_) fun other depth => ?_
  · rw [listed, bodiesFor_append]
    by_cases here : other = name
    · subst here
      simp [Registration.bodyFor?, declared, eq_comm]
    · simp [Registration.bodyFor?, here, Ne.symm here, records.handlers]
  · have here : other ≠ name := by
      rintro rfl
      exact absent (List.mem_append_left _ declared)
    rw [bodiesFor_append, records.unattached other fun mem => absent (List.mem_append_left _ mem)]
    simp [Registration.bodyFor?, Ne.symm here]
  · rw [bodiesAt_append]
    simpa [Registration.bodyAt?] using records.matching other depth

/-- Recording goes on where a body is made to wait for changes of a variable. -/
theorem Records.watch (records : registry.Records log) {name : String} {depth : Nat}
    {body : HandlerBody} (granted : registry.enter (.watch name depth body) = .ok after) :
    after.Records (log ++ [.watch name depth body]) := by
  cases granted
  have same (other : String) :
      bodiesFor other (log ++ [.watch name depth body]) = bodiesFor other log := by
    rw [bodiesFor_append]
    exact List.append_nil _
  refine .of_listed (fun other bodies => ?_) (fun other absent => ?_) fun other level => ?_
  · rw [same, records.handlers]
    simp
  · rw [same]
    exact records.unattached other fun mem => absent (List.mem_append_left _ mem)
  · change (registry.watches.register name depth body).bodies other level = _
    rw [WatchTable.bodies_register, records.matching, bodiesAt_append]
    by_cases here : name = other ∧ depth = level <;> simp [Registration.bodyAt?, here]

/-- **A registration that is granted is recorded behind the others.** -/
theorem Records.enter (records : registry.Records log)
    (granted : registry.enter registration = .ok after) :
    after.Records (log ++ [registration]) := by
  cases registration with
  | signal name => exact records.signal granted
  | handler name body => exact records.handler granted
  | watch name depth body => exact records.watch granted

/-- Recording goes on while registrations are attempted. -/
theorem Records.attempt (records : registry.Records log) (attempts : List Registration) :
    (registry.attempt attempts).2.Records (log ++ (registry.attempt attempts).1) := by
  induction attempts generalizing registry log with
  | nil => simpa [Registry.attempt] using records
  | cons registration rest ih =>
    unfold Registry.attempt
    cases entered : registry.enter registration with
    | ok after => simpa using ih (records.enter entered)
    | error fault => exact ih records

/-- **Whatever is attempted, the tables record what was granted.** -/
theorem records_attempts (attempts : List Registration) :
    (empty.attempt attempts).2.Records (empty.attempt attempts).1 := by
  simpa using records_empty.attempt attempts

/-- A watched variable is one that a body was registered for. -/
theorem Records.isWatched_iff (records : registry.Records log) {name : String} :
    registry.watches.isWatched name = true ↔ ∃ depth body, .watch name depth body ∈ log := by
  rw [WatchTable.isWatched_iff]
  refine exists_congr fun depth => ?_
  simp only [records.matching, ← mem_bodiesAt]
  exact ⟨List.exists_mem_of_ne_nil _, fun ⟨_, mem⟩ => List.ne_nil_of_mem mem⟩

end Registry

end ReactiveScript
