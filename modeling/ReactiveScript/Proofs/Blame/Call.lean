import ReactiveScript.Proofs.Blame.Rule

/-! # Calls and handlers account for their faults

A budget within which bodies account for what happens in them makes calls account for it, since the
bodies of functions stem from the program, and so do handlers: a fault in one is kept, with the node
to blame, and does not reach the evaluation that waits (`Accounts.handler`). -/

namespace ReactiveScript

open Eval

variable {program : List Stmt} {machine : Machine} {budget : Nat}

/-- **Bodies of a program that are run within a budget** account for what happens in them; a fault
that comes out of a body has passed through one of its statements, and so has a place. -/
structure Runs (program : List Stmt) (budget : Nat) : Prop where
  /-- What happens in a body is accounted for. -/
  accounts {body : List Stmt} {machine : Machine} : Node.AllStandIn program body →
    machine.Stems program → Accounts program ⟨budget, .body body, machine⟩
  /-- What comes out of a body has a place. -/
  placed {body : List Stmt} {machine after : Machine} {fault : Fault} :
    Node.AllStandIn program body → bodyWithin budget body machine = .error (.fault fault) after →
    fault.span.isKnown = true

namespace Eval

/-- **What a handler leaves** is what its body leaves, in the context from before; if the body ends
with a fault, the fault is kept. -/
theorem exists_perform_runHandler (run : Runner) (handler : Pending) (machine : Machine) :
    ∃ added,
      (machine.perform (Eval.runHandler run handler)).machine =
        { (Machine.perform { machine with context := handler.context }
            (run handler.body)).machine with
          context := machine.context
          failures := (Machine.perform { machine with context := handler.context }
            (run handler.body)).machine.failures ++ added } ∧
      ∀ failure ∈ added, ∃ fault after,
        run handler.body { machine with context := handler.context } =
          .error (.fault fault) after ∧ failure = ⟨handler.label, fault⟩ := by
  unfold Machine.perform Eval.runHandler
  cases run handler.body { machine with context := handler.context } with
  | ok flow after => exact ⟨[], by rw [List.append_nil], List.forall_mem_nil _⟩
  | error stop after =>
    cases stop with
    | exhausted => exact ⟨[], by rw [List.append_nil], List.forall_mem_nil _⟩
    | fault fault =>
      exact ⟨[⟨handler.label, fault⟩], rfl, List.forall_mem_singleton.mpr ⟨fault, after, rfl, rfl⟩⟩

/-- No fault comes out of a handler. -/
theorem runHandler_ne_fault (run : Runner) (handler : Pending) (machine : Machine) (fault : Fault)
    (final : Machine) : Eval.runHandler run handler machine ≠ .error (.fault fault) final := by
  intro ran
  unfold Eval.runHandler at ran
  split at ran <;> cases ran

/-- Binding parameters is tame. -/
theorem IsTame.bindParams (params : List Param) (arguments : List Value) :
    IsTame (Eval.bindParams params arguments) machine := by
  induction params generalizing arguments machine with
  | nil => exact pure
  | cons param params ih =>
    cases arguments with
    | nil => exact pure
    | cons argument arguments =>
      have declared : IsTame (discard <| Eval.declare param.name argument param.type) machine :=
        (declare param.name argument param.type).bind fun _ _ _ => pure
      exact declared.bind fun _ _ _ => ih arguments

end Eval

namespace Accounts

/-- **A call of a function of the program.** -/
theorem invoke (runs : Runs program budget) (name : String) {function : Function}
    (body : Node.AllStandIn program function.body) (arguments : List Value)
    (stems : machine.Stems program) :
    Accounts program ⟨budget, .invoke name function arguments, machine⟩ := by
  refine get stems ?_
  split
  · -- calls are too deep inside each other
    exact fail stems
  · refine bind (enclosed ?_ rfl fun _ final stems => ⟨?_, rfl⟩) fun flow between stems _ => ?_
    · have inside : (machine.enter function).Stems program :=
        ⟨stems.functions, stems.signals, stems.watches, stems.pending, stems.hosts⟩
      exact tame_bind inside (.bindParams function.params arguments) fun _ _ stems _ =>
        runs.accounts body stems
    · -- the name means the function again, whatever its body has declared
      have inserted := stems.insert name body
      exact ⟨inserted.functions, inserted.signals, inserted.watches, inserted.pending,
        inserted.hosts⟩
    · cases flow with
      | leave value => exact of_tame stems (.alloc (Value.coerce_unplaced function.returns value))
      | next value => exact pure stems

/-- **A handler.** A fault that ends it is recorded with the node to blame. -/
theorem handler (runs : Runs program budget)
    (places : ∀ node : Node, node.StandsIn program → node.span.isKnown = true) {handler : Pending}
    (stands : Node.HandlerIn program handler.body) (stems : machine.Stems program) :
    Accounts program ⟨budget, .handler handler, machine⟩ := by
  have body := stands.allStandIn
  have inside := runs.accounts body (stems.tame (.context machine handler.context))
  have here : Handles ⟨budget, .handler handler, machine⟩ handler
      ⟨budget, .body handler.body, { machine with context := handler.context }⟩ :=
    .direct (.here _)
  obtain ⟨added, reached, own⟩ := exists_perform_runHandler (bodyWithin budget) handler machine
  have stems' :
      (machine.perform (runHandler (bodyWithin budget) handler)).machine.Stems program := by
    rw [reached]
    obtain ⟨functions, signals, watches, pending, hosts⟩ := inside.stems
    exact ⟨functions, signals, watches, pending, hosts⟩
  refine ⟨stems', fun failure mem => ?_, fun fault final ran => ?_⟩
  · change failure ∈ (machine.perform (runHandler (bodyWithin budget) handler)).machine.failures
      at mem
    rw [reached] at mem
    rcases List.mem_append.mp mem with mem | mem
    · -- a handler that runs inside this one
      refine (inside.failures failure mem).imp_right fun records => ?_
      obtain ⟨other, body, handles, rest⟩ := records
      exact ⟨other, body, .inside here handles, rest⟩
    · obtain ⟨fault, after, ended, rfl⟩ := own failure mem
      have blamed := (inside.faults fault after ended).blames places (runs.placed body ended)
      exact .inr ⟨handler, _, here, rfl, stands, blamed⟩
  · exact absurd ran (runHandler_ne_fault (bodyWithin budget) handler machine fault final)

/-- **The handlers in line**, and those that they start. -/
theorem settle (runs : Runs program budget)
    (places : ∀ node : Node, node.StandsIn program → node.span.isKnown = true) (rounds : Nat)
    (stems : machine.Stems program) : Accounts program ⟨budget, .settle rounds, machine⟩ := by
  induction rounds generalizing machine with
  | zero =>
    refine get stems ?_
    cases machine.pending.isEmpty with
    | true => exact pure stems
    | false => exact exhausted stems
  | succ rounds ih =>
    refine get stems ?_
    cases line : machine.pending with
    | nil => exact pure stems
    | cons first rest =>
      have stands := stems.pending first (line ▸ List.mem_cons_self)
      have fewer : Machine.Stems program { machine with pending := rest } :=
        ⟨stems.functions, stems.signals, stems.watches,
          fun other mem => stems.pending other (line ▸ List.mem_cons_of_mem _ mem), stems.hosts⟩
      refine bind (change fewer rfl) fun _ _ stems _ => ?_
      exact bind (handler runs places stands stems) fun _ _ stems _ => ih stems

/-- **A call of a built-in function.** -/
theorem native (runs : Runs program budget)
    (places : ∀ node : Node, node.StandsIn program → node.span.isKnown = true) (rounds : Nat)
    {native : Native} (host : ∀ run, native = .host run → ∀ call, (run call).Unplaced)
    (call : Call) (stems : machine.Stems program) :
    Accounts program ⟨budget, .native rounds native call, machine⟩ := by
  refine returning ?_
  cases native with
  | settle => exact bind (settle runs places rounds stems) fun _ _ stems _ => pure stems
  | _ => exact of_tame stems (.native nofun host)

end Accounts

end ReactiveScript
