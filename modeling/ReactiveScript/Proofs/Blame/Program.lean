import ReactiveScript.Proofs.Blame.Evaluation
import ReactiveScript.Proofs.Evaluation.Program
import ReactiveScript.Proofs.Evaluation.Quiet

/-! # Faults of a program point at its nodes

A program is run on a fresh machine, on which nothing was declared and nothing waits. Bodies are run
inside each other to a depth that the budget bounds, so by induction on the budget everything that a
program runs accounts for its faults (`Runs.bodyWithin`). What comes out of a program, and what
is recorded for one of its handlers, has then the place of a node of the program: of the innermost
one through which the fault passed (`source_blames`). -/

namespace ReactiveScript

open Eval

variable {program : List Stmt} {machine : Machine} {run : Runner} {rounds budget : Nat}

/-! ## Faults get places -/

/-- A fault that was blamed on a known place has a known place. -/
theorem Fault.isKnown_orAt (fault : Fault) {span : Span} (known : span.isKnown = true) :
    (fault.orAt span).span.isKnown = true := by
  unfold Fault.orAt
  split
  · assumption
  · exact known

namespace Eval

/-- **An evaluation gives its faults places**: none comes out of it without one. -/
def Places {α : Type} (action : Eval α) : Prop :=
  ∀ {machine : Machine} {fault : Fault} {after : Machine},
    action machine = .error (.fault fault) after → fault.span.isKnown = true

namespace Places

variable {α β : Type} {action : Eval α} {next : α → Eval β}

/-- A value is no fault. -/
theorem pure {value : α} : Places (Pure.pure value) := by
  intro machine fault after ran
  cases ran

/-- Two evaluations in a row give places if both do. -/
theorem bind (first : Places action) (second : ∀ value, Places (next value)) :
    Places (action >>= next) := by
  intro machine fault after ran
  simp only [Bind.bind, EStateM.bind] at ran
  cases ended : action machine with
  | ok value between =>
    rw [ended] at ran
    exact second value ran
  | error stop between =>
    rw [ended] at ran
    cases ran
    exact first ended

/-- What is done at a place gets the place. -/
theorem located {span : Span} {idle : α} (known : span.isKnown = true) (action : Eval α) :
    Places (Eval.located span idle action) := by
  intro machine fault after ran
  cases running : machine.running with
  | false =>
    rw [located_of_stopped running] at ran
    cases ran
  | true =>
    rw [located_of_running running] at ran
    unfold blaming at ran
    split at ran
    · cases ran
    · rename_i raised _ _
      cases ran
      exact raised.isKnown_orAt known
    · cases ran

/-- A statement with a place, whatever it does. -/
theorem stmt {statement : Stmt} (known : statement.span.isKnown = true) :
    Places (Eval.stmt run rounds statement) := by
  cases statement with
  | declaration span type name value =>
    cases value <;> rw [Eval.stmt] <;> exact located known _
  | leave span value => cases value <;> rw [Eval.stmt] <;> exact located known _
  | branch span condition thenBody elseBody =>
    cases elseBody <;> rw [Eval.stmt] <;> exact located known _
  | choice span subject cases fallback =>
    cases fallback <;> rw [Eval.stmt] <;> exact located known _
  | _ => rw [Eval.stmt]; exact located known _

/-- Statements with places, in order. -/
theorem block {statements : List Stmt}
    (known : ∀ statement ∈ statements, statement.span.isKnown = true) :
    Places (Eval.block run rounds statements) := by
  induction statements with
  | nil =>
    rw [Eval.block]
    exact pure
  | cons first rest ih =>
    rw [Eval.block]
    obtain ⟨here, later⟩ := List.forall_mem_cons.mp known
    refine bind (stmt here) fun flow => ?_
    cases flow with
    | leave value => exact pure
    | next value => exact ih later

/-- The statements of a program with places. -/
theorem topLevel {last : Value} {statements : List Stmt}
    (known : ∀ statement ∈ statements, statement.span.isKnown = true) :
    Places (Eval.topLevel budget last statements) := by
  induction statements generalizing last with
  | nil => exact pure
  | cons first rest ih =>
    obtain ⟨here, later⟩ := List.forall_mem_cons.mp known
    refine bind (stmt here) fun flow => ?_
    cases flow with
    | leave value => exact pure
    | next value => exact ih later

/-- What stops the machine when it fails. -/
theorem halting (h : Places action) : Places (Eval.halting action) := by
  intro machine fault after ran
  unfold Eval.halting at ran
  split at ran
  · cases ran
  · rename_i raised final ended
    cases ran
    exact h ended
  · cases ran

end Places

/-! ## Runs of a program -/

/-- A source text that spells a program runs it. -/
theorem source_of_read {text : String} (read : readProgram text = .ok program) (budget : Nat) :
    Eval.source budget text = Eval.program budget program := by
  unfold Eval.source
  rw [read]

/-- What comes out of a source text that spells a program with places has a place. -/
theorem Places.source (budget : Nat) {text : String} (read : readProgram text = .ok program)
    (known : ∀ statement ∈ program, statement.span.isKnown = true) :
    Places (Eval.source budget text) := by
  rw [source_of_read read]
  exact halting (topLevel known)

end Eval

/-- **Bodies that are run within a budget account for their faults.** -/
theorem Runs.bodyWithin (plain : Node.Plain program) (budget : Nat) : Runs program budget := by
  induction budget with
  | zero =>
    refine ⟨fun _ stems => Accounts.body_zero stems, fun _ ran => ?_⟩
    cases ran
  | succ budget ih =>
    refine ⟨fun inside stems => ?_, fun inside ran => ?_⟩
    · exact Accounts.body (Accounts.block plain ih _ inside stems)
    · refine Places.block (fun statement mem => ?_) ran
      exact plain.places _ (inside statement mem)

namespace Accounts

/-- **The statements of a program account for their faults.** -/
theorem topLevel (plain : Node.Plain program) (budget : Nat) {statements : List Stmt}
    (inside : Node.AllStandIn program statements) {last : Value}
    (stems : machine.Stems program) :
    Accounts program ⟨budget, .topLevel last statements, machine⟩ := by
  induction statements generalizing last machine with
  | nil => exact pure stems
  | cons first rest ih =>
    obtain ⟨here, later⟩ := List.forall_mem_cons.mp inside
    refine bind (statement plain (.bodyWithin plain budget) first here stems) ?_
    intro flow _ stems _
    cases flow with
    | leave value => exact pure stems
    | next value => exact ih later stems

/-- **A source text accounts for its faults**, if it spells the program. -/
theorem source (plain : Node.Plain program) (budget : Nat) {text : String}
    (read : readProgram text = .ok program) (stems : machine.Stems program) :
    Accounts program ⟨budget, .source text, machine⟩ := by
  refine halting ?_
  rw [read]
  exact topLevel plain budget (Node.allStandIn_self program) stems

end Accounts

/-! ## Fresh machines -/

/-- **A fresh machine**: nothing was declared on it, nothing waits on it and nothing has failed, and
the functions of a host raise their faults without a place. -/
structure Machine.Fresh (machine : Machine) : Prop where
  /-- There are no functions. -/
  functions : machine.functions = .empty
  /-- There are no signals. -/
  signals : machine.signals = .empty
  /-- There are no watches. -/
  watches : machine.watches = .empty
  /-- No handler is in line. -/
  pending : machine.pending = []
  /-- No handler has failed. -/
  failures : machine.failures = []
  /-- The functions of a host. -/
  hosts : ∀ entry ∈ machine.natives.entries, ∀ run, entry.2 = .host run →
    ∀ call, (run call).Unplaced

/-- On a fresh machine all bodies stem from any program, since there are none. -/
theorem Machine.Fresh.stems (fresh : machine.Fresh) (program : List Stmt) :
    machine.Stems program where
  functions := fresh.functions ▸ List.forall_mem_nil _
  signals := fresh.signals ▸ List.forall_mem_nil _
  watches := fresh.watches ▸ List.forall_mem_nil _
  pending := fresh.pending ▸ List.forall_mem_nil _
  hosts := fresh.hosts

/-- The machine before any program is fresh. -/
theorem Machine.fresh_initial (config : Config) (world : World) :
    (Machine.initial config world).Fresh where
  functions := rfl
  signals := rfl
  watches := rfl
  pending := rfl
  failures := rfl
  hosts _ mem run host :=
    absurd host (Native.ne_host_of_isOwn (Native.isOwn_of_mem_standard mem) run)

/-- A fresh machine with one more built-in function is fresh. -/
theorem Machine.Fresh.register (fresh : machine.Fresh) (name : String) {native : Native}
    (host : ∀ run, native = .host run → ∀ call, (run call).Unplaced) :
    (machine.register name native).Fresh where
  functions := fresh.functions
  signals := fresh.signals
  watches := fresh.watches
  pending := fresh.pending
  failures := fresh.failures
  hosts entry mem := by
    rcases Table.mem_insert mem with rfl | mem
    · exact host
    · exact fresh.hosts entry mem

/-- The machine after a wait is the one on which the handlers have run. -/
theorem Machine.machine_performAndWait (machine : Machine) (budget : Nat) (action : Eval Value) :
    (machine.performAndWait budget action).machine =
      ((machine.perform action).machine.perform (waitForHandlers budget)).machine := by
  unfold Machine.performAndWait
  dsimp only
  split <;> rfl

/-! ## The place of a fault -/

/-- The nodes of a program that was read have places in the text. -/
theorem Node.Plain.of_read {text : String} (read : readProgram text = .ok program)
    (free : Stmt.areImportFree program = true) : Node.Plain program where
  places node inside := by
    have within := inside.within read
    exact decide_eq_true within.line_pos
  closed span path label inside := by
    cases inside.isImportFree free

/-- **What a node of a program is to blame for has a place in the text.** -/
theorem Blames.within {α : Type} {stage : Stage α} {fault : Fault} {text : String}
    (blames : Blames program stage fault) (read : readProgram text = .ok program) :
    fault.span.Within text.toList := by
  obtain ⟨innermost, outer, -, standing, place⟩ := blames
  rw [place]
  exact (standing innermost List.mem_cons_self).within read

/-- **What is recorded for a handler of a program has a place in the text.** -/
theorem Records.within {α : Type} {stage : Stage α} {failure : HandlerFailure} {text : String}
    (records : Records program stage failure) (read : readProgram text = .ok program) :
    failure.fault.span.Within text.toList := by
  obtain ⟨_, _, -, -, -, blames⟩ := records
  exact blames.within read

/-- **Faults point at nodes of the program.** A source text without imports is run on a fresh
machine, and its handlers are waited for. A fault that comes out of it has passed through nodes of
the program, which are all that were entered around the place where it was raised, and it has the
place of the innermost of them, at a line and column of the text. So has every fault that was
recorded for a handler: the handler was run in the meantime, and its body waits somewhere in the
program for a signal or for changes of a variable. -/
theorem source_blames {text : String} (read : readProgram text = .ok program)
    (free : Stmt.areImportFree program = true) (fresh : machine.Fresh) (budget : Nat) :
    (∀ fault after, Eval.source budget text machine = .error (.fault fault) after →
      Blames program ⟨budget, .source text, machine⟩ fault ∧
        fault.span.Within text.toList) ∧
    ∀ failure ∈ (machine.performAndWait budget (Eval.source budget text)).machine.failures,
      (Records program ⟨budget, .source text, machine⟩ failure ∨
        Records program
          ⟨budget, .settle budget, (machine.perform (Eval.source budget text)).machine⟩ failure) ∧
      failure.fault.span.Within text.toList := by
  have plain := Node.Plain.of_read read free
  have accounts := Accounts.source plain budget read (fresh.stems program)
  have reached : (⟨budget, .source text, machine⟩ : Stage Value).after =
      (machine.perform (Eval.source budget text)).machine := by
    rw [Stage.after, Plan.toEval_source]
  have waits := Accounts.settle (.bodyWithin plain budget) plain.places budget accounts.stems
  refine ⟨fun fault after ran => ?_, fun failure mem => ?_⟩
  · have known : fault.span.isKnown = true :=
      Places.source budget read (fun _ mem => plain.places _ (.top mem)) ran
    rw [← Plan.toEval_source] at ran
    have blames := (accounts.faults fault after ran).blames plain.places known
    exact ⟨blames, blames.within read⟩
  · rw [Machine.machine_performAndWait, ← reached, waitForHandlers, ← Plan.toEval_settle] at mem
    rw [← reached]
    -- recorded while the handlers were waited for, or in the run before that
    rcases waits.failures failure mem with earlier | records
    · rcases accounts.failures failure earlier with before | records
      · rw [fresh.failures] at before
        cases before
      · exact ⟨.inl records, records.within read⟩
    · exact ⟨.inr records, records.within read⟩

/-! ## Divisions by zero -/

/-- A function that divides by zero, and a call of it. -/
def dividingText : String := "int f()\x7breturn 1/0;\x7df();"

/-- A handler that divides by zero, and its signal. -/
def dividingHandlerText : String := "signal s;when(s)\x7b1/0;\x7demit s;"

/-- A text that can be seen to spell a program without imports spells one. -/
theorem exists_importFree {text : String}
    (h : (readProgram text).toOption.any Stmt.areImportFree = true) :
    ∃ program, readProgram text = .ok program ∧ Stmt.areImportFree program = true := by
  cases read : readProgram text with
  | ok program =>
    rw [read] at h
    exact ⟨program, rfl, h⟩
  | error fault =>
    rw [read] at h
    cases h

/-- The division is to blame for the fault of a program that calls the function around it, and for
the fault of the handler that it stands in. -/
theorem divisions_blamed :
    (∃ program fault after, readProgram dividingText = .ok program ∧
      Eval.source 9 dividingText (.initial .standard .bare) = .error (.fault fault) after ∧
      Blames program ⟨9, .source dividingText, .initial .standard .bare⟩ fault ∧
      fault.span = .at 1 17) ∧
    ∃ program failure, readProgram dividingHandlerText = .ok program ∧
      ((Machine.initial .standard .bare).performAndWait 9
        (Eval.source 9 dividingHandlerText)).machine.failures = [failure] ∧
      (Records program ⟨9, .source dividingHandlerText, .initial .standard .bare⟩ failure ∨
        Records program ⟨9, .settle 9, ((Machine.initial .standard .bare).perform
          (Eval.source 9 dividingHandlerText)).machine⟩ failure) ∧
      failure.fault.span = .at 1 19 := by
  have fresh : (Machine.initial .standard .bare).Fresh := Machine.fresh_initial _ _
  constructor
  · obtain ⟨program, read, free⟩ : ∃ program, readProgram dividingText = .ok program ∧
        Stmt.areImportFree program = true := exists_importFree (by decide +kernel)
    have ended : ((Machine.initial .standard .bare).perform
        (Eval.source 9 dividingText)).fault?.map (·.span) = some (.at 1 17) := by decide +kernel
    obtain ⟨fault, given, place⟩ := Option.map_eq_some_iff.mp ended
    have ran := eq_error_of_result (Outcome.result_of_fault? given)
    have blames := ((source_blames read free fresh 9).1 fault _ ran).1
    exact ⟨program, fault, _, read, ran, blames, place⟩
  · obtain ⟨program, read, free⟩ : ∃ program, readProgram dividingHandlerText = .ok program ∧
        Stmt.areImportFree program = true := exists_importFree (by decide +kernel)
    have kept : ((Machine.initial .standard .bare).performAndWait 9
        (Eval.source 9 dividingHandlerText)).machine.failures.map (·.fault.span) = [.at 1 19] := by
      decide +kernel
    obtain ⟨failure, only, place⟩ := List.map_eq_singleton_iff.mp kept
    have mem := only ▸ List.mem_singleton_self failure
    have recorded := ((source_blames read free fresh 9).2 failure mem).1
    exact ⟨program, failure, read, only, recorded, place⟩

end ReactiveScript
