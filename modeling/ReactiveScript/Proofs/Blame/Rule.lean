import ReactiveScript.Proofs.Blame.Library
import ReactiveScript.Proofs.Blame.Path

/-! # Evaluations that account for their faults

Bodies are stored on the machine and run later: functions, what waits for signals and variables,
handlers in line. As long as all of them stem from one program (`Machine.Stems`), what is entered in
the course of an evaluation are nodes of the program, so the evaluation accounts for every fault
that comes out of it and for every failure that it records (`Eval.Accounts`). The rules below follow
the ways in which evaluations are put together. -/

namespace ReactiveScript

variable {program : List Stmt} {machine there before after : Machine}

/-- **The bodies that a machine holds stem from a program**, and the functions of a host raise their
faults without a place. -/
structure Machine.Stems (program : List Stmt) (machine : Machine) : Prop where
  /-- The bodies of functions. -/
  functions : ∀ entry ∈ machine.functions.entries, Node.AllStandIn program entry.2.body
  /-- What waits for signals. -/
  signals : ∀ entry ∈ machine.signals.handlers.entries, ∀ body ∈ entry.2,
    Node.HandlerIn program body
  /-- What waits for variables. -/
  watches : ∀ entry ∈ machine.watches.watches.entries, ∀ watch ∈ entry.2,
    Node.HandlerIn program watch.body
  /-- The handlers in line. -/
  pending : ∀ handler ∈ machine.pending, Node.HandlerIn program handler.body
  /-- The functions of a host. -/
  hosts : ∀ entry ∈ machine.natives.entries, ∀ run, entry.2 = .host run →
    ∀ call, (run call).Unplaced

namespace Machine.Stems

/-- The watches of a variable are watches of the table. -/
theorem watch_of_mem (stems : machine.Stems program) {name : String} {watch : Watch}
    (mem : watch ∈ machine.watches.of name) : Node.HandlerIn program watch.body := by
  unfold WatchTable.of at mem
  cases found : machine.watches.watches.find? name with
  | none =>
    rw [found] at mem
    cases mem
  | some watches =>
    rw [found] at mem
    exact stems.watches _ (Table.mem_of_find? found) watch mem

/-- What waits for a variable stems from the program. -/
theorem of_mem_bodies (stems : machine.Stems program) {name : String} {depth : Nat}
    {body : HandlerBody} (mem : body ∈ machine.watches.bodies name depth) :
    Node.HandlerIn program body := by
  obtain ⟨watch, found, rfl⟩ := List.mem_map.mp mem
  exact stems.watch_of_mem (List.mem_filter.mp found).1

/-- What waits for a signal stems from the program. -/
theorem signal_of_mem (stems : machine.Stems program) {name : String} {bodies : List HandlerBody}
    (listed : machine.signals.bodies name = .ok bodies) {body : HandlerBody} (mem : body ∈ bodies) :
    Node.HandlerIn program body := by
  unfold SignalTable.bodies at listed
  split at listed
  · rename_i found known
    cases listed
    exact stems.signals _ (Table.mem_of_find? known) body mem
  · cases listed

/-- **A tame change brings in no other bodies.** -/
theorem tame (stems : before.Stems program) (h : before.Tame after) : after.Stems program where
  functions := h.functions ▸ stems.functions
  signals := h.signals ▸ stems.signals
  watches := h.watches ▸ stems.watches
  hosts := h.natives ▸ stems.hosts
  pending handler mem := by
    rcases h.pending handler mem with mem | ⟨name, depth, waits⟩
    · exact stems.pending handler mem
    · exact stems.of_mem_bodies waits

/-- A function whose body stems from the program may be made known. -/
theorem insert (stems : machine.Stems program) (name : String) {function : Function}
    (body : Node.AllStandIn program function.body) :
    Machine.Stems program { machine with functions := machine.functions.insert name function } where
  functions entry mem := by
    rcases Table.mem_insert mem with rfl | mem
    · exact body
    · exact stems.functions entry mem
  signals := stems.signals
  watches := stems.watches
  pending := stems.pending
  hosts := stems.hosts

end Machine.Stems

namespace Eval

variable {α β : Type} {action : Eval α} {next : α → Eval β}

/-- **An evaluation keeps to a program**: however it ends, the bodies on the machine stem from the
program, the failures are those from before, and its faults have no place. -/
def KeepsTo (program : List Stmt) (action : Eval α) (machine : Machine) : Prop :=
  match action machine with
  | .ok _ after => after.Stems program ∧ after.failures = machine.failures
  | .error (.fault fault) after =>
    (after.Stems program ∧ after.failures = machine.failures) ∧ fault.span = .unknown
  | .error .exhausted after => after.Stems program ∧ after.failures = machine.failures

namespace KeepsTo

/-- What is tame keeps to every program from which the bodies stem. -/
theorem of_tame (stems : machine.Stems program) (tame : IsTame action machine) :
    KeepsTo program action machine := by
  unfold IsTame at tame
  unfold KeepsTo
  cases ended : action machine with
  | ok value after =>
    rw [ended] at tame
    exact ⟨stems.tame tame, tame.failures⟩
  | error stop after =>
    rw [ended] at tame
    cases stop with
    | fault fault => exact ⟨⟨stems.tame tame.1, tame.1.failures⟩, tame.2⟩
    | exhausted => exact ⟨stems.tame tame, tame.failures⟩

/-- A change of the machine after which bodies stem from the program as before. -/
theorem change {alter : Machine → Machine} (stems : (alter machine).Stems program)
    (failures : (alter machine).failures = machine.failures) :
    KeepsTo program (modify alter) machine := ⟨stems, failures⟩

/-- Such a change followed by a tame evaluation. -/
theorem change_bind {alter : Machine → Machine} {follow : Unit → Eval β}
    (stems : (alter machine).Stems program) (failures : (alter machine).failures = machine.failures)
    (tame : IsTame (follow ()) (alter machine)) :
    KeepsTo program (modify alter >>= follow) machine := by
  have ended : (modify alter : Eval Unit) machine = .ok () (alter machine) := rfl
  have later := of_tame stems tame
  unfold KeepsTo at later ⊢
  rw [bind_of_ok ended, ← failures]
  exact later

/-- An evaluation after something that is read off the machine. -/
theorem reading_bind {read : Machine → Except Fault α} (stems : machine.Stems program)
    (unplaced : Unplaced (read machine))
    (h : ∀ value, read machine = .ok value → KeepsTo program (next value) machine) :
    KeepsTo program (Eval.reading read >>= next) machine := by
  have look : (Eval.reading read >>= next) machine =
      (Eval.ofExcept (read machine) >>= next) machine := rfl
  unfold KeepsTo
  rw [look]
  cases found : read machine with
  | error fault => exact ⟨⟨stems, rfl⟩, unplaced fault found⟩
  | ok value => exact h value found

end KeepsTo

end Eval

variable {α β : Type} {budget : Nat}

/-- **A stage accounts for its faults**: however it ends, the bodies on the machine stem from the
program, every failure that was not there before is recorded for a handler of the program, and a
fault that comes out has passed through nodes of the program only. -/
structure Accounts (program : List Stmt) (stage : Stage α) : Prop where
  /-- The bodies stem from the program. -/
  stems : stage.after.Stems program
  /-- The failures are recorded for handlers of the program. -/
  failures : ∀ failure ∈ stage.after.failures,
    failure ∈ stage.machine.failures ∨ Records program stage failure
  /-- What comes out is accounted for. -/
  faults : ∀ fault final, stage.outcome = .error (.fault fault) final →
    Traces program stage fault

namespace Accounts

/-! ## What is done at once -/

section Plain

variable {action : Eval α} {next : α → Plan β}

/-- **What keeps to the program** raises what it raises itself, and records nothing. -/
theorem of_keepsTo (keeps : action.KeepsTo program machine) :
    Accounts program ⟨budget, liftM action, machine⟩ := by
  have reached : (machine.perform action).machine.Stems program ∧
      (machine.perform action).machine.failures = machine.failures := by
    unfold Eval.KeepsTo at keeps
    unfold Machine.perform
    cases ended : action machine with
    | ok value final =>
      rw [ended] at keeps
      exact keeps
    | error stop final =>
      rw [ended] at keeps
      cases stop with
      | fault fault => exact keeps.1
      | exhausted => exact keeps
  refine ⟨reached.1, fun failure mem => .inl (reached.2 ▸ mem), fun fault final ran => ?_⟩
  have ended : action machine = .error (.fault fault) final := ran
  unfold Eval.KeepsTo at keeps
  rw [ended] at keeps
  exact ⟨[], .atOnce ended keeps.2, List.forall_mem_nil _⟩

/-- **A tame evaluation.** -/
theorem of_tame (stems : machine.Stems program) (tame : action.IsTame machine) :
    Accounts program ⟨budget, liftM action, machine⟩ := of_keepsTo (.of_tame stems tame)

/-- A value that is given at once. -/
theorem pure {value : α} (stems : machine.Stems program) :
    Accounts program ⟨budget, Pure.pure value, machine⟩ := of_tame stems .pure

/-- A fault of the program. -/
theorem fail {cause : Cause} (stems : machine.Stems program) :
    Accounts program ⟨budget, liftM (Eval.fail cause : Eval α), machine⟩ := of_tame stems .fail

/-- What is cut off. -/
theorem exhausted (stems : machine.Stems program) :
    Accounts program ⟨budget, liftM (Eval.exhausted : Eval α), machine⟩ :=
  of_tame stems .exhausted

end Plain

/-! ## One after the other -/

section Row

variable {first : Plan α} {action : Eval α} {next : α → Plan β}

/-- **One plan after the other.** The second starts where the first has ended. -/
theorem bind (h : Accounts program ⟨budget, first, machine⟩)
    (second : ∀ value between, between.Stems program →
      first.toEval budget machine = .ok value between →
      Accounts program ⟨budget, next value, between⟩) :
    Accounts program ⟨budget, first >>= next, machine⟩ := by
  have entered : Enters ⟨budget, first >>= next, machine⟩ ⟨budget, first, machine⟩ [] :=
    .first (.here _)
  cases ended : first.toEval budget machine with
  | error stop final =>
    -- the second is never reached, so that all there is comes from the first
    have same : (⟨budget, first >>= next, machine⟩ : Stage β).outcome = .error stop final :=
      Eval.bind_of_error ended
    have reached : (⟨budget, first >>= next, machine⟩ : Stage β).after =
        (⟨budget, first, machine⟩ : Stage α).after := Eval.perform_bind_of_error ended
    refine ⟨reached ▸ h.stems, fun failure mem => ?_, fun fault _ ran => ?_⟩
    · exact (h.failures failure (reached ▸ mem)).imp_right (·.outwards entered)
    · cases same.symm.trans ran
      exact (h.faults fault final ended).outwards entered (List.forall_mem_nil _)
  | ok value between =>
    have same : (⟨budget, first >>= next, machine⟩ : Stage β).outcome =
        (⟨budget, next value, between⟩ : Stage β).outcome := Eval.bind_of_ok ended
    have onward : Enters ⟨budget, first >>= next, machine⟩ ⟨budget, next value, between⟩ [] :=
      .second ended (.here _)
    have at_once : (⟨budget, first, machine⟩ : Stage α).after = between := by
      rw [Stage.after, Eval.perform_of_ok ended]
    have reached : (⟨budget, first >>= next, machine⟩ : Stage β).after =
        (⟨budget, next value, between⟩ : Stage β).after :=
      congrArg Outcome.machine (Eval.perform_bind_of_ok ended)
    -- the second starts with the bodies that the first has left, and with its failures
    have rest := second value between (at_once ▸ h.stems) ended
    refine ⟨reached ▸ rest.stems, fun failure mem => ?_, fun fault final ran => ?_⟩
    · rcases rest.failures failure (reached ▸ mem) with earlier | recorded
      · exact (h.failures failure (at_once.symm ▸ earlier)).imp_right (·.outwards entered)
      · exact .inr (recorded.outwards onward)
    · exact (rest.faults fault final (same ▸ ran)).outwards onward (List.forall_mem_nil _)

/-- A plan after something tame. -/
theorem tame_bind (stems : machine.Stems program) (tame : action.IsTame machine)
    (second : ∀ value between, between.Stems program → action machine = .ok value between →
      Accounts program ⟨budget, next value, between⟩) :
    Accounts program ⟨budget, liftM action >>= next, machine⟩ := (of_tame stems tame).bind second

/-- A plan that looks at the machine first. -/
theorem get {follow : Machine → Plan β} (stems : machine.Stems program)
    (h : Accounts program ⟨budget, follow machine, machine⟩) :
    Accounts program ⟨budget, MonadState.get >>= follow, machine⟩ := by
  have ended : Accounts program ⟨budget, liftM (MonadState.get : Eval Machine) >>= follow,
      machine⟩ := by
    refine tame_bind stems .look fun value between _ ran => ?_
    cases ran
    exact h
  exact ended

/-- A plan after something that is read off the machine. -/
theorem reading_bind {read : Machine → Except Fault α} (stems : machine.Stems program)
    (unplaced : Unplaced (read machine))
    (h : ∀ value, read machine = .ok value → Accounts program ⟨budget, next value, machine⟩) :
    Accounts program ⟨budget, liftM (Eval.reading read) >>= next, machine⟩ := by
  refine tame_bind stems (.reading unplaced) fun value between _ ran => ?_
  have opened : Eval.ofExcept (read machine) machine = .ok value between := ran
  cases found : read machine with
  | error fault =>
    rw [found] at opened
    cases opened
  | ok given =>
    rw [found] at opened
    cases opened
    exact h _ found

/-- A change of the machine after which bodies stem from the program as before. -/
theorem change {alter : Machine → Machine} (stems : (alter machine).Stems program)
    (failures : (alter machine).failures = machine.failures) :
    Accounts program ⟨budget, liftM (modify alter : Eval Unit), machine⟩ := by
  have ended : (modify alter : Eval Unit) machine = .ok () (alter machine) := rfl
  refine ⟨stems, fun failure mem => .inl ?_, fun fault final ran => ?_⟩
  · exact failures ▸ mem
  · cases ended.symm.trans ran

end Row

/-! ## Inside -/

section Inside

variable {outer : Stage α} {inner : Stage β} {nodes : List Node}

/-- **A stage around another one**, which keeps what the other one records and raises nothing but
its faults. -/
theorem around (entered : Enters outer inner nodes)
    (inside : ∀ node ∈ nodes, node.StandsIn program) (h : Accounts program inner)
    (failures : inner.machine.failures = outer.machine.failures)
    (stems : outer.after.Stems program) (kept : outer.after.failures = inner.after.failures)
    (raises : ∀ fault final, outer.outcome = .error (.fault fault) final → ∃ raised middle,
      inner.outcome = .error (.fault raised) middle ∧ fault = raised.through nodes) :
    Accounts program outer := by
  refine ⟨stems, fun failure mem => ?_, fun fault final ran => ?_⟩
  · rcases h.failures failure (kept ▸ mem) with earlier | recorded
    · exact .inl (failures ▸ earlier)
    · exact .inr (recorded.outwards entered)
  · obtain ⟨raised, middle, ended, rfl⟩ := raises fault final ran
    exact (h.faults raised middle ended).outwards entered inside

/-- A plan between changes of the machine. -/
theorem enclosed {plan : Plan α} {before : Machine → Machine}
    {undo : Option Stop → Machine → Machine}
    (h : Accounts program ⟨budget, plan, before machine⟩)
    (failures : (before machine).failures = machine.failures)
    (undoing : ∀ stop final, final.Stems program → (undo stop final).Stems program ∧
      (undo stop final).failures = final.failures) :
    Accounts program ⟨budget, .enclosed before undo plan, machine⟩ := by
  obtain ⟨stop, reached⟩ := Stage.exists_after_enclosed budget before undo plan machine
  obtain ⟨stems, kept⟩ := undoing stop _ h.stems
  refine around (.enclosed (.here _)) (List.forall_mem_nil _) h failures (reached ▸ stems)
    (reached ▸ kept) fun fault final ran => ?_
  simp only [Stage.outcome, Plan.toEval] at ran
  split at ran
  · cases ran
  · rename_i stop middle ended
    obtain ⟨rfl, -⟩ := EStateM.Result.error.inj ran
    exact ⟨fault, middle, ended, rfl⟩

/-- **A plan that stops the machine when it fails.** -/
theorem halting {plan : Plan α} (h : Accounts program ⟨budget, plan, machine⟩) :
    Accounts program ⟨budget, plan.halting, machine⟩ := by
  refine enclosed h rfl fun stop final stems => ?_
  match stop with
  | some (.fault _) =>
    obtain ⟨functions, signals, watches, pending, hosts⟩ := stems
    exact ⟨⟨functions, signals, watches, pending, hosts⟩, rfl⟩
  | some .exhausted | none => exact ⟨stems, rfl⟩

/-- A plan of which it is noted if it is cut off. -/
theorem returning {plan : Plan α} (h : Accounts program ⟨budget, plan, machine⟩) :
    Accounts program ⟨budget, plan.returning, machine⟩ := by
  refine enclosed h rfl fun stop final stems => ?_
  match stop with
  | some .exhausted => exact ⟨stems.tame (.world final _), rfl⟩
  | some (.fault _) | none => exact ⟨stems, rfl⟩

end Inside

/-! ## Nodes -/

/-- **A node that is blamed for what is done there.** -/
theorem atNode {outer own : Stage α} {node : Node} (inside : node.StandsIn program)
    (h : Accounts program own) (entered : Enters outer own [node])
    (same : outer.outcome = Eval.blaming node.span (own.plan.toEval own.budget) own.machine)
    (failures : own.machine.failures = outer.machine.failures) : Accounts program outer := by
  have reached : outer.after = own.after := by
    rw [Stage.after_eq, same, Stage.after_eq, Stage.outcome, Eval.blaming]
    cases own.plan.toEval own.budget own.machine with
    | ok value final => rfl
    | error stop final => cases stop <;> rfl
  refine around entered (List.forall_mem_singleton.mpr inside) h failures (reached ▸ h.stems)
    (congrArg Machine.failures reached) fun fault final ran => ?_
  rw [same] at ran
  unfold Eval.blaming at ran
  split at ran
  · cases ran
  · rename_i raised middle ended
    cases ran
    exact ⟨raised, _, ended, rfl⟩
  · cases ran

/-- What does nothing. -/
theorem of_idle {stage : Stage α} {value : α} (stems : stage.machine.Stems program)
    (ended : stage.outcome = .ok value stage.machine) : Accounts program stage := by
  have reached : stage.after = stage.machine := by rw [Stage.after_eq, ended]
  refine ⟨reached ▸ stems, fun failure mem => .inl (reached ▸ mem), fun fault final ran => ?_⟩
  cases ended.symm.trans ran

/-- What is done at a node of the program. -/
theorem located {outer own : Plan α} {idle : α} {node : Node} (inside : node.StandsIn program)
    (shape : outer.toEval budget = Eval.located node.span idle (own.toEval budget))
    (entered : machine.running = true → Enters ⟨budget, outer, machine⟩
      ⟨budget, own, Eval.movedTo machine node.span⟩ [node])
    (stems : machine.Stems program)
    (h : ∀ {moved : Machine}, moved.Stems program → Accounts program ⟨budget, own, moved⟩) :
    Accounts program ⟨budget, outer, machine⟩ := by
  have ended := congrFun shape machine
  cases running : machine.running with
  | true =>
    refine atNode inside (h (stems.tame (.context machine _))) (entered running) ?_ rfl
    exact ended.trans (Eval.located_of_running running)
  | false =>
    -- a machine that has stopped does nothing at a node
    exact of_idle stems (ended.trans (Eval.located_of_stopped running))

/-- **An expression of the program**, if its plan accounts for its faults. -/
theorem expr {expression : Expr} (inside : (Node.expr expression).StandsIn program)
    (stems : machine.Stems program)
    (h : ∀ {moved : Machine}, moved.Stems program →
      Accounts program ⟨budget, expression.plan budget, moved⟩) :
    Accounts program ⟨budget, .expr expression, machine⟩ :=
  located inside (Eval.exprWithin_eq budget expression) (.expr · (.here _)) stems h

/-- **A statement of the program**, if its plan accounts for its faults. -/
theorem stmt {statement : Stmt} (inside : (Node.stmt statement).StandsIn program)
    (stems : machine.Stems program)
    (h : ∀ {moved : Machine}, moved.Stems program →
      Accounts program ⟨budget, statement.plan budget, moved⟩) :
    Accounts program ⟨budget, .stmt statement, machine⟩ :=
  located inside (Eval.stmtWithin_eq budget statement) (.stmt · (.here _)) stems h

/-- **The label of a case of the program.** -/
theorem label {chosen : Case Stmt} (inside : (Node.case chosen).StandsIn program)
    (h : Accounts program ⟨budget, .expr chosen.label, machine⟩) :
    Accounts program ⟨budget, .label chosen, machine⟩ :=
  atNode inside h (.label (.here _)) rfl rfl

/-- A body that is cut off at once. -/
theorem body_zero {statements : List Stmt} (stems : machine.Stems program) :
    Accounts program ⟨0, .body statements, machine⟩ := by
  refine ⟨stems, fun _ mem => .inl mem, fun fault final ran => ?_⟩
  have cut : (⟨0, .body statements, machine⟩ : Stage Flow).outcome =
    .error .exhausted machine := rfl
  cases cut.symm.trans ran

/-- **A body**, if its statements account for their faults within a smaller budget. -/
theorem body {statements : List Stmt}
    (h : Accounts program ⟨budget, .block statements, machine⟩) :
    Accounts program ⟨budget + 1, .body statements, machine⟩ := by
  have same := Stage.outcome_body budget statements machine
  have reached := Stage.after_body budget statements machine
  exact around (.body (.here _)) (List.forall_mem_nil _) h rfl (reached ▸ h.stems)
    (congrArg Machine.failures reached) fun fault final ran => ⟨fault, final, same ▸ ran, rfl⟩

end Accounts

end ReactiveScript
