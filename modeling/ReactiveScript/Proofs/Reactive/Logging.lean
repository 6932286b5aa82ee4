import ReactiveScript.Proofs.Blame.Call
import ReactiveScript.Proofs.Reactive.Aside

/-! # Evaluations that log what they register

An evaluation that starts without functions of a host takes a course of single steps, and every
registration in it is made by a statement that the evaluation executes, itself or in a handler that
it runs (`Logs`). The rules below follow the ways in which evaluations are put together; the
statements that register something are treated as one (`Stmt.Asks`). -/

namespace ReactiveScript

variable {α β γ : Type}

/-! ## Statements that register -/

namespace Stmt

/-- **The statements that ask for a registration**, with what they do. -/
inductive Asks : Stmt → Eval Unit → Prop
  /-- A signal is declared. -/
  | signal (span : Span) (name : String) : Asks (.signal span name) (Eval.declareSignal name)
  /-- A body is to wait for a signal. -/
  | when (span : Span) (name : String) (body : HandlerBody) :
    Asks (.when span name body) (Eval.attachHandler name body)
  /-- A body is to wait for changes of a variable. -/
  | watch (span : Span) (name : String) (body : HandlerBody) :
    Asks (.watch span name body) (Eval.registerWatch name body)

/-- **What a statement registers on a machine**; a watch is registered where its variable is
bound. -/
inductive Registers (machine : Machine) : Stmt → Registration → Prop
  /-- A signal is declared. -/
  | signal (span : Span) (name : String) : Registers machine (.signal span name) (.signal name)
  /-- A body is to wait for a signal. -/
  | when (span : Span) (name : String) (body : HandlerBody) :
    Registers machine (.when span name body) (.handler name body)
  /-- A body is to wait for changes of a variable. -/
  | watch (span : Span) {name : String} (body : HandlerBody) {depth : Nat}
      (bound : machine.scopes.depthOf name = .ok depth) :
    Registers machine (.watch span name body) (.watch name depth body)

/-- A statement registers one thing on a machine. -/
theorem Registers.unique {machine : Machine} {statement : Stmt} {registration other : Registration}
    (h : statement.Registers machine registration) (h' : statement.Registers machine other) :
    other = registration := by
  cases h with
  | signal span name =>
    cases h'
    rfl
  | when span name body =>
    cases h'
    rfl
  | watch span body bound =>
    cases h' with
    | watch _ _ bound' =>
      obtain rfl := Except.ok.inj (bound.symm.trans bound')
      rfl

/-- What a statement registers depends on the variables only. -/
theorem Registers.of_scopes_eq {before after : Machine} {statement : Stmt}
    {registration : Registration} (h : statement.Registers before registration)
    (same : after.scopes = before.scopes) : statement.Registers after registration := by
  cases h with
  | signal span name => exact .signal span name
  | when span name body => exact .when span name body
  | watch span body bound => exact .watch span body (same ▸ bound)

end Stmt

namespace Eval

variable {machine after : Machine} {name : String} {body : HandlerBody} {stop : Stop}

/-- A subscription never fails. -/
theorem exists_of_subscribe (name : String) (value : Value) (machine : Machine) :
    ∃ after, subscribe name value machine = .ok () after := by
  cases value <;> exact ⟨_, rfl⟩

/-- **Declaring a signal is one registration**, or it is refused and changes nothing. -/
theorem declareSignal_cases (name : String) (machine : Machine) :
    (∃ registry, machine.registry.enter (.signal name) = .ok registry ∧
      declareSignal name machine = .ok () (machine.withRegistry registry)) ∨
    ∃ fault, machine.registry.enter (.signal name) = .error fault ∧
      declareSignal name machine = .error (.fault fault) machine := by
  have entered : machine.registry.enter (.signal name) =
      (machine.signals.declare name >>= fun signals => pure ⟨signals, machine.watches⟩) := rfl
  rw [entered]
  cases declared : machine.signals.declare name with
  | ok signals => exact .inl ⟨⟨signals, machine.watches⟩, rfl, reading_bind_of_ok declared⟩
  | error fault => exact .inr ⟨fault, rfl, reading_bind_of_error declared⟩

/-- **Letting a body wait for a signal is one registration**, or it is refused and changes
nothing. -/
theorem attachHandler_cases (name : String) (body : HandlerBody) (machine : Machine) :
    (∃ registry, machine.registry.enter (.handler name body) = .ok registry ∧
      attachHandler name body machine = .ok () (machine.withRegistry registry)) ∨
    ∃ fault, machine.registry.enter (.handler name body) = .error fault ∧
      attachHandler name body machine = .error (.fault fault) machine := by
  have entered : machine.registry.enter (.handler name body) =
      (machine.signals.attach name body >>= fun signals => pure ⟨signals, machine.watches⟩) := rfl
  rw [entered]
  cases attached : machine.signals.attach name body with
  | ok signals => exact .inl ⟨⟨signals, machine.watches⟩, rfl, reading_bind_of_ok attached⟩
  | error fault => exact .inr ⟨fault, rfl, reading_bind_of_error attached⟩

/-- **A body is made to wait for changes of a variable** where the variable is bound, and what the
variable holds is noted; where it is bound nowhere, nothing changes. -/
theorem registerWatch_cases (name : String) (body : HandlerBody) (machine : Machine) :
    (∃ depth registry value after, machine.scopes.depthOf name = .ok depth ∧
      machine.registry.enter (.watch name depth body) = .ok registry ∧
      subscribe name value (machine.withRegistry registry) = .ok () after ∧
      registerWatch name body machine = .ok () after) ∨
    ∃ fault, machine.scopes.depthOf name = .error fault ∧
      registerWatch name body machine = .error (.fault fault) machine := by
  cases bound : machine.scopes.depthOf name with
  | error fault => exact .inr ⟨fault, rfl, reading_bind_of_error bound⟩
  | ok depth =>
    -- where the variable is bound it has a value
    obtain ⟨binding, resolved⟩ := ScopeStack.resolves_of_depthOf bound
    have held : machine.scopes.lookup name = .ok binding.value := by
      unfold ScopeStack.lookup
      rw [resolved.found.1]
    let registry : Registry := ⟨machine.signals, machine.watches.register name depth body⟩
    obtain ⟨after, subscribed⟩ :=
      exists_of_subscribe name binding.value (machine.withRegistry registry)
    refine .inl ⟨depth, registry, binding.value, after, rfl, rfl, subscribed, ?_⟩
    refine (reading_bind_of_ok bound).trans ((reading_bind_of_ok held).trans ?_)
    exact subscribed

end Eval

namespace Stmt

variable {statement : Stmt} {action : Eval Unit} {machine after : Machine}
  {registration : Registration} {registry : Registry}

/-- **A registration that is granted**: the tables have it, at most something is noted besides, and
the built-in functions are the same. -/
structure Granted (statement : Stmt) (machine : Machine) (registration : Registration)
    (registry : Registry) (after : Machine) : Prop where
  /-- The statement registers it. -/
  registers : statement.Registers machine registration
  /-- The tables grant it. -/
  entered : machine.registry.enter registration = .ok registry
  /-- Nothing else is registered. -/
  course : (machine.withRegistry registry).Course [] after
  /-- The tables have it. -/
  recorded : after.registry = registry
  /-- The built-in functions are the same. -/
  natives : after.natives = machine.natives

/-- **What comes of asking for a registration**: it is granted, or the tables do not grant it and
nothing changes. -/
theorem Asks.granted_or_refused (asks : statement.Asks action) (machine : Machine) :
    (∃ registration registry after, statement.Granted machine registration registry after ∧
      action machine = .ok () after) ∨
    ∃ fault, (∀ registration, statement.Registers machine registration →
      machine.registry.enter registration = .error fault) ∧
      action machine = .error (.fault fault) machine := by
  cases asks with
  | signal span name =>
    have registers : (Stmt.signal span name).Registers machine (.signal name) := .signal span name
    rcases Eval.declareSignal_cases name machine with
      ⟨registry, entered, ended⟩ | ⟨fault, refused, ended⟩
    · exact .inl ⟨_, registry, _, ⟨registers, entered, .refl, rfl, rfl⟩, ended⟩
    · exact .inr ⟨fault, fun _ h => registers.unique h ▸ refused, ended⟩
  | when span name body =>
    have registers : (Stmt.when span name body).Registers machine (.handler name body) :=
      .when span name body
    rcases Eval.attachHandler_cases name body machine with
      ⟨registry, entered, ended⟩ | ⟨fault, refused, ended⟩
    · exact .inl ⟨_, registry, _, ⟨registers, entered, .refl, rfl, rfl⟩, ended⟩
    · exact .inr ⟨fault, fun _ h => registers.unique h ▸ refused, ended⟩
  | watch span name body =>
    rcases Eval.registerWatch_cases name body machine with
      ⟨depth, registry, value, after, bound, entered, subscribed, ended⟩ | ⟨fault, unbound, ended⟩
    · obtain ⟨store, same, _⟩ := Eval.notes_of_subscribe subscribed
      have recorded : after.registry = registry := by rw [same]; rfl
      have natives : after.natives = machine.natives := by rw [same]; rfl
      refine .inl ⟨_, registry, after, ⟨.watch span body bound, entered, ?_, recorded, natives⟩,
        ended⟩
      -- the variable is watched by now, since the body was registered for it
      cases entered
      exact .single (.note (machine.watches.isWatched_register name depth body) subscribed)
    · -- where the variable is bound nowhere, there is nothing to register
      refine .inr ⟨fault, fun registration h => ?_, ended⟩
      cases h with
      | watch _ _ bound => cases unbound.symm.trans bound

/-- **What the tables grant is recorded** where a statement asks for it. -/
theorem Asks.recorded (asks : statement.Asks action)
    (registers : statement.Registers machine registration)
    (entered : machine.registry.enter registration = .ok registry) :
    ∃ after, action machine = .ok () after ∧ after.registry = registry := by
  rcases asks.granted_or_refused machine with
    ⟨other, registry', after, granted, ended⟩ | ⟨fault, refused, -⟩
  · obtain rfl := registers.unique granted.registers
    obtain rfl := Except.ok.inj (granted.entered.symm.trans entered)
    exact ⟨after, ended, granted.recorded⟩
  · cases (refused registration registers).symm.trans entered

/-- **A registration that is refused changes nothing.** -/
theorem Asks.refused (asks : statement.Asks action) {stop : Stop}
    (ran : action machine = .error stop after) : after = machine := by
  rcases asks.granted_or_refused machine with ⟨_, _, _, _, ended⟩ | ⟨_, _, ended⟩ <;>
    cases ended.symm.trans ran
  rfl

/-- **A statement that asks for a registration** takes a course in which it registers what it asks
for, or nothing. -/
theorem Asks.course (asks : statement.Asks action) (machine : Machine) :
    (machine.perform action).machine.natives = machine.natives ∧
      ∃ log, machine.Course log (machine.perform action).machine ∧
        ∀ registration ∈ log, statement.Registers machine registration := by
  unfold Machine.perform
  rcases asks.granted_or_refused machine with
    ⟨registration, registry, after, granted, ended⟩ | ⟨fault, -, ended⟩
  · rw [ended]
    refine ⟨granted.natives, [registration], ?_, List.forall_mem_singleton.mpr granted.registers⟩
    exact (Machine.Course.single (.enter granted.entered)).trans granted.course
  · rw [ended]
    exact ⟨rfl, [], .refl, List.forall_mem_nil _⟩

end Stmt

/-! ## Executed statements -/

variable {stage : Stage α} {middle : Stage β} {budget : Nat} {machine there : Machine}
  {statement : Stmt} {nodes : List Node} {registration : Registration}

/-- **A stage executes a statement**, itself or in a handler that it runs. -/
inductive Executes (stage : Stage α) (statement : Stmt) (there : Machine) : Prop
  /-- The stage comes to the statement. -/
  | itself {budget : Nat} {nodes : List Node}
    (h : Enters stage ⟨budget, .stmt statement, there⟩ nodes)
  /-- A handler that the stage runs comes to the statement. -/
  | inside {handler : Pending} {body : Stage Flow} {budget : Nat} {nodes : List Node}
    (handles : Handles stage handler body)
    (h : Enters body ⟨budget, .stmt statement, there⟩ nodes)

/-- What a stage comes to executes its statements for it. -/
theorem Executes.outwards (executes : Executes middle statement there)
    (h : Enters stage middle nodes) : Executes stage statement there := by
  cases executes with
  | itself enters => exact .itself (h.trans enters)
  | inside handles enters => exact .inside (handles.outwards h) enters

/-- What the body of a handler executes is executed by running the handler. -/
theorem Executes.handler {handler : Pending} (executes : Executes
      ⟨budget, .body handler.body, { machine with context := handler.context }⟩ statement there) :
    Executes ⟨budget, .handler handler, machine⟩ statement there := by
  have here : Handles ⟨budget, .handler handler, machine⟩ handler _ := .direct (.here _)
  cases executes with
  | itself enters => exact .inside here enters
  | inside handles enters => exact .inside (.inside here handles) enters

/-- **A stage makes a registration**: it executes a statement that registers it, on a machine that
is running. -/
def Makes (stage : Stage α) (registration : Registration) : Prop :=
  ∃ statement there, Executes stage statement there ∧ there.running = true ∧
    statement.Registers there registration

/-- What a stage comes to makes its registrations for it. -/
theorem Makes.outwards (makes : Makes middle registration) (h : Enters stage middle nodes) :
    Makes stage registration := by
  obtain ⟨statement, after, executes, rest⟩ := makes
  exact ⟨statement, after, executes.outwards h, rest⟩

/-! ## Stages that log -/

/-- **A stage logs what it registers**: however it ends, no functions of a host have come, and it
has taken a course in which only those registrations are granted that it makes. -/
structure LogsOn (stage : Stage α) : Prop where
  /-- No function of a host has come. -/
  hostFree : stage.after.HostFree
  /-- The course that was taken. -/
  course : ∃ log, stage.machine.Course log stage.after ∧
    ∀ registration ∈ log, Makes stage registration

/-- **A plan logs what it registers**, from every machine without functions of a host. -/
def Logs (budget : Nat) (plan : Plan α) : Prop :=
  ∀ machine : Machine, machine.HostFree → LogsOn ⟨budget, plan, machine⟩

namespace LogsOn

/-- What registers and notes nothing. -/
theorem of_aside {action : Eval α} (free : machine.HostFree) (aside : action.IsAside machine) :
    LogsOn ⟨budget, liftM action, machine⟩ := by
  have h : machine.Aside (machine.perform action).machine := Machine.perform_of_keeps aside
  exact ⟨h.hostFree free, [], .aside h, List.forall_mem_nil _⟩

/-- What does nothing. -/
theorem of_idle {value : α} (free : stage.machine.HostFree)
    (ended : stage.outcome = .ok value stage.machine) : LogsOn stage := by
  have reached : stage.after = stage.machine := by rw [Stage.after_eq, ended]
  exact ⟨reached ▸ free, [], reached ▸ .refl, List.forall_mem_nil _⟩

/-- **A stage around another one**, aside from which it registers and notes nothing. -/
theorem around (first : stage.machine.Aside middle.machine) (h : LogsOn middle)
    (last : middle.after.Aside stage.after) (entered : Enters stage middle nodes) :
    LogsOn stage := by
  obtain ⟨free, log, course, makes⟩ := h
  refine ⟨last.hostFree free, log, (course.after_aside first).before_aside last, ?_⟩
  exact fun registration mem => (makes registration mem).outwards entered

/-- **One plan after the other.** The second starts where the first has ended. -/
theorem bind {first : Plan α} {next : α → Plan β} (h : LogsOn ⟨budget, first, machine⟩)
    (second : ∀ value between, between.HostFree →
      first.toEval budget machine = .ok value between → LogsOn ⟨budget, next value, between⟩) :
    LogsOn ⟨budget, first >>= next, machine⟩ := by
  have entered : Enters ⟨budget, first >>= next, machine⟩ ⟨budget, first, machine⟩ [] :=
    .first (.here _)
  obtain ⟨free, log, course, makes⟩ := h
  cases ended : first.toEval budget machine with
  | error stop final =>
    -- the second is never reached
    have reached : (⟨budget, first >>= next, machine⟩ : Stage β).after =
        (⟨budget, first, machine⟩ : Stage α).after := Eval.perform_bind_of_error ended
    refine ⟨reached ▸ free, log, reached ▸ course, ?_⟩
    exact fun registration mem => (makes registration mem).outwards entered
  | ok value between =>
    have onward : Enters ⟨budget, first >>= next, machine⟩ ⟨budget, next value, between⟩ [] :=
      .second ended (.here _)
    have at_once : (⟨budget, first, machine⟩ : Stage α).after = between := by
      rw [Stage.after, Eval.perform_of_ok ended]
    rw [at_once] at free course
    obtain ⟨free', more, course', makes'⟩ := second value between free ended
    have reached : (⟨budget, first >>= next, machine⟩ : Stage β).after =
        (⟨budget, next value, between⟩ : Stage β).after :=
      congrArg Outcome.machine (Eval.perform_bind_of_ok ended)
    refine ⟨reached ▸ free', log ++ more, reached ▸ course.trans course', ?_⟩
    intro registration mem
    rcases List.mem_append.mp mem with mem | mem
    · exact (makes registration mem).outwards entered
    · exact (makes' registration mem).outwards onward

end LogsOn

namespace Logs

variable {plan first : Plan α} {next : α → Plan β} {action : Eval α}

/-- What registers and notes nothing. -/
theorem of_aside (aside : ∀ {machine : Machine}, action.IsAside machine) :
    Logs budget (liftM action) := fun _ free => .of_aside free aside

/-- A value that is given at once. -/
theorem pure {value : α} : Logs budget (Pure.pure value) := of_aside .pure

/-- What stops at once. -/
theorem throw {stop : Stop} : Logs budget (liftM (MonadExcept.throw stop : Eval α)) :=
  of_aside .throw

/-- One plan after the other. -/
theorem bind (h : Logs budget first) (second : ∀ value, Logs budget (next value)) :
    Logs budget (first >>= next) :=
  fun machine free => (h machine free).bind fun value between free _ => second value between free

/-- A plan after something that registers and notes nothing. -/
theorem aside_bind (aside : ∀ {machine : Machine}, action.IsAside machine)
    (second : ∀ value, Logs budget (next value)) : Logs budget (liftM action >>= next) :=
  (of_aside aside).bind second

/-- A plan that looks at the machine first. -/
theorem get {follow : Machine → Plan β}
    (h : ∀ seen : Machine, seen.HostFree → Logs budget (follow seen)) :
    Logs budget (MonadState.get >>= follow) := by
  intro machine free
  have ended : (MonadState.get : Eval Machine) machine = .ok machine machine := rfl
  exact .around (.refl machine) (h machine free machine free) (.refl _) (.second ended (.here _))

/-- A plan between changes of the machine that register and note nothing. -/
theorem enclosed {before : Machine → Machine} {undo : Option Stop → Machine → Machine}
    (h : Logs budget plan) (entering : ∀ machine : Machine, machine.Aside (before machine))
    (undoing : ∀ (stop : Option Stop) (machine : Machine), machine.Aside (undo stop machine)) :
    Logs budget (.enclosed before undo plan) := by
  intro machine free
  obtain ⟨stop, reached⟩ := Stage.exists_after_enclosed budget before undo plan machine
  have last := undoing stop (⟨budget, plan, before machine⟩ : Stage α).after
  rw [← reached] at last
  exact .around (entering machine) (h _ ((entering machine).hostFree free)) last
    (.enclosed (.here _))

/-- A plan that stops the machine when it fails. -/
theorem halting (h : Logs budget plan) : Logs budget plan.halting := by
  refine enclosed h (fun machine => .refl machine) fun stop machine => ?_
  match stop with
  | some (.fault _) => exact Machine.aside_of_eq rfl rfl rfl
  | some .exhausted | none => exact .refl machine

/-- A plan of which it is noted if it is cut off. -/
theorem returning (h : Logs budget plan) : Logs budget plan.returning := by
  refine enclosed h (fun machine => .refl machine) fun stop machine => ?_
  match stop with
  | some .exhausted => exact machine.aside_world _
  | some (.fault _) | none => exact .refl machine

/-- What is done at a place of the program. -/
theorem located {outer own : Plan α} {span : Span} {idle : α} {node : Node}
    (shape : outer.toEval budget = Eval.located span idle (own.toEval budget))
    (entered : ∀ {machine : Machine}, machine.running = true →
      Enters ⟨budget, outer, machine⟩ ⟨budget, own, Eval.movedTo machine span⟩ [node])
    (h : Logs budget own) : Logs budget outer := by
  intro machine free
  have moved : machine.Aside (Eval.movedTo machine span) := Machine.aside_of_eq rfl rfl rfl
  cases running : machine.running with
  | true =>
    have inside : LogsOn ⟨budget, own, Eval.movedTo machine span⟩ := h _ (moved.hostFree free)
    refine .around moved inside ?_ (entered running)
    rw [Stage.after, Stage.after, Eval.perform_located shape running]
    exact .refl _
  | false =>
    -- a machine that has stopped does nothing at a place of the program
    exact .of_idle free ((congrFun shape machine).trans (Eval.located_of_stopped running))

/-- **An expression**, if its plan logs what it registers. -/
theorem expr {expression : Expr} (h : Logs budget (expression.plan budget)) :
    Logs budget (.expr expression) :=
  located (Eval.exprWithin_eq budget expression) (fun running => .expr running (.here _)) h

/-- **A statement**, if its plan logs what it registers. -/
theorem stmt {statement : Stmt} (h : Logs budget (statement.plan budget)) :
    Logs budget (.stmt statement) :=
  located (Eval.stmtWithin_eq budget statement) (fun running => .stmt running (.here _)) h

/-- **A statement that asks for a registration** makes what it registers. -/
theorem asking {own : Eval Unit} (asks : statement.Asks own) : Logs budget (.stmt statement) := by
  intro machine free
  have shape : Eval.stmtWithin budget statement = Eval.located statement.span (.next .void) (do
      own
      return .next .void) := by
    rw [Eval.stmtWithin_eq]
    cases asks <;> rfl
  have moved : machine.Aside (Eval.movedTo machine statement.span) :=
    Machine.aside_of_eq rfl rfl rfl
  cases running : machine.running with
  | true =>
    obtain ⟨natives, log, course, registers⟩ := asks.course (Eval.movedTo machine statement.span)
    have reached : (⟨budget, .stmt statement, machine⟩ : Stage Flow).after =
        ((Eval.movedTo machine statement.span).perform own).machine :=
      (Eval.perform_located shape running).trans (Eval.perform_bind_pure _ _ _)
    have free' : ((Eval.movedTo machine statement.span).perform own).machine.HostFree := by
      unfold Machine.HostFree
      rw [natives]
      exact free
    refine ⟨reached ▸ free', log, reached ▸ course.after_aside moved, fun registration mem => ?_⟩
    exact ⟨statement, machine, .itself (.here _), running,
      (registers registration mem).of_scopes_eq rfl⟩
  | false =>
    exact .of_idle free ((congrFun shape machine).trans (Eval.located_of_stopped running))

/-- **The label of a case.** -/
theorem label (chosen : Case Stmt) (h : Logs budget (.expr chosen.label)) :
    Logs budget (.label chosen) := by
  intro machine free
  have left : (⟨budget, .label chosen, machine⟩ : Stage Value).after =
      (⟨budget, .expr chosen.label, machine⟩ : Stage Value).after := Eval.perform_blaming _ _ _
  refine .around (.refl machine) (h machine free) ?_ (.label (.here _))
  rw [left]
  exact .refl _

/-- **A body**, if its statements log what they register within a smaller budget. -/
theorem body {statements : List Stmt} (h : Logs budget (.block statements)) :
    Logs (budget + 1) (.body statements) := by
  intro machine free
  refine .around (.refl machine) (h machine free) ?_ (.body (.here _))
  rw [Stage.after_body]
  exact .refl _

/-- **A handler.** What its body registers is registered by running it. -/
theorem handler (handler : Pending) (h : Logs budget (.body handler.body)) :
    Logs budget (.handler handler) := by
  intro machine free
  have turned : machine.Aside { machine with context := handler.context } :=
    Machine.aside_of_eq rfl rfl rfl
  obtain ⟨inside, log, course, makes⟩ := h _ (turned.hostFree free)
  obtain ⟨added, reached, -⟩ :=
    Eval.exists_perform_runHandler (Eval.bodyWithin budget) handler machine
  have last : (⟨budget, .body handler.body, { machine with context := handler.context }⟩ :
      Stage Flow).after.Aside (⟨budget, .handler handler, machine⟩ : Stage Unit).after := by
    have left : (⟨budget, .handler handler, machine⟩ : Stage Unit).after = _ := reached
    rw [left]
    exact Machine.aside_of_eq rfl rfl rfl
  refine ⟨last.hostFree inside, log, (course.after_aside turned).before_aside last, ?_⟩
  intro registration mem
  obtain ⟨statement, there, executes, rest⟩ := makes registration mem
  exact ⟨statement, there, executes.handler, rest⟩

end Logs

end ReactiveScript
