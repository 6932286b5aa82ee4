import Mathlib.Logic.Relation
import ReactiveScript.Proofs.Evaluation.Program
import ReactiveScript.Proofs.Reactive.Dispatch

/-! # What calls in handlers mean

In a function of a labelled module a call by a name means the function of the module, if there is
one. A body that waits for a signal or a variable is kept without the label of the code that it
stands in; when it is started it gets the label of the code that starts it. Between its calls a body
never changes its label (`Machine.Within.label`). So a call in a handler means what it would mean
where the handler was triggered, and what it means where it was written only in the cases that
`handler_resolves_where_triggered` lists. -/

namespace ReactiveScript

open Eval

/-! ## Names behind labels -/

/-- Labels tell names apart. -/
theorem labelled_inj {label label' name : String} (h : labelled label name = labelled label' name) :
    label = label' := by
  have same := congrArg String.toList h
  simp only [labelled, String.toList_append, List.append_assoc] at same
  exact String.toList_inj.mp (List.append_cancel_right same)

/-- A name behind a label is another name. -/
theorem labelled_ne (label name : String) : labelled label name ≠ name := by
  intro same
  have lengths := congrArg (List.length ∘ String.toList) same
  simp only [Function.comp_apply, labelled, String.toList_append, List.length_append] at lengths
  have mark : "_".toList.length = 1 := rfl
  omega

namespace Machine

variable {machine before after : Machine}

/-- The machine in the code of a module that was imported under a label, or of none. -/
def under (machine : Machine) (label : Option String) : Machine :=
  { machine with context := { machine.context with label } }

/-- Whether a label leads a name to a function of its module. -/
def captures (machine : Machine) (label : Option String) (name : String) : Bool :=
  label.any fun label => machine.hasFunction (labelled label name)

/-- A name that no module captures means itself. -/
theorem resolve_under_of_not_captures {label : Option String} {name : String}
    (h : machine.captures label name = false) : (machine.under label).resolve name = name := by
  cases label with
  | none => rfl
  | some label =>
    have missing : ¬ machine.hasFunction (labelled label name) = true := by
      simpa [captures] using h
    exact if_neg missing

/-- A name that a module captures means the function of the module. -/
theorem resolve_under_of_captures {label : Option String} {name : String}
    (h : machine.captures label name = true) :
    ∃ module, label = some module ∧ (machine.under label).resolve name = labelled module name := by
  cases label with
  | none => cases h
  | some module => exact ⟨module, rfl, if_pos h⟩

/-- **Two labels give a name the same meaning** if they are the same label or neither captures the
name, and in no other case. -/
theorem resolve_under_eq_iff (machine : Machine) (first second : Option String) (name : String) :
    (machine.under first).resolve name = (machine.under second).resolve name ↔
      first = second ∨
        (machine.captures first name = false ∧ machine.captures second name = false) := by
  constructor
  · intro same
    cases one : machine.captures first name with
    | false =>
      rw [resolve_under_of_not_captures one] at same
      cases other : machine.captures second name with
      | false => exact .inr ⟨rfl, rfl⟩
      | true =>
        obtain ⟨module, _, means⟩ := resolve_under_of_captures other
        exact absurd (same.trans means).symm (labelled_ne module name)
    | true =>
      obtain ⟨module, rfl, means⟩ := resolve_under_of_captures one
      rw [means] at same
      cases other : machine.captures second name with
      | false =>
        rw [resolve_under_of_not_captures other] at same
        exact absurd same (labelled_ne module name)
      | true =>
        -- Both names stand behind labels, which tells the labels apart.
        obtain ⟨module', rfl, means'⟩ := resolve_under_of_captures other
        exact .inl (congrArg some (labelled_inj (same.trans means')))
  · rintro (rfl | ⟨one, other⟩)
    · rfl
    · rw [resolve_under_of_not_captures one, resolve_under_of_not_captures other]

end Machine

/-! ## Bodies keep their label -/

/-- The discipline of evaluations that stay in the code of one module. -/
def Discipline.label : Discipline where
  Good _ := True
  Calm before after := after.context.label = before.context.label
  Busy before after := after.context.label = before.context.label
  Fair _ _ := True
  good_of_busy _ := trivial
  busy_of_calm h := h
  calm_trans first second := second.trans first
  busy_trans first second := second.trans first
  calm_of_quiet _ h := h.label
  fair_of_busy _ _ := trivial
  fair_of_isPlain _ := trivial
  fair_of_lookup _ _ := trivial
  fair_of_mem_itemsIn _ _ _ := trivial
  operate _ _ _ := Keeps.alloc rfl fun _ _ _ => ⟨rfl, fun _ _ => trivial⟩
  declare _ _ := Keeps.scoping rfl fun _ _ _ _ => ⟨rfl, trivial⟩
  assign _ _ := Keeps.scoping rfl fun _ _ _ _ => ⟨rfl, trivial⟩
  calm_of_settle _ _ h := h
  host _ _ _ _ := Keeps.alloc rfl fun _ _ _ => ⟨rfl, trivial⟩
  good_enter _ _ := trivial
  calm_leave _ _ := rfl
  good_handler _ _ := trivial
  busy_handler _ _ := rfl

namespace Machine

/-- **What happens between the calls of one body**: another place is reached, an expression is
evaluated, a statement is executed, or the variable of a loop is declared. -/
inductive Proceeds : Machine → Machine → Prop
  | moved {machine : Machine} (span : Span) : Proceeds machine (movedTo machine span)
  | expression {budget : Nat} {expression : Expr} {machine after : Machine} {value : Value}
    (ran : exprWithin budget expression machine = .ok value after) : Proceeds machine after
  | statement {budget : Nat} {statement : Stmt} {machine after : Machine} {flow : Flow}
    (ran : stmtWithin budget statement machine = .ok flow after) : Proceeds machine after
  | declared {name : String} {value stored : Value} {type : Ty} {machine after : Machine}
    (ran : declare name value type machine = .ok stored after) : Proceeds machine after

/-- A machine comes after another in the run of one body. -/
def Within : Machine → Machine → Prop := Relation.ReflTransGen Proceeds

/-- Nothing between the calls of a body changes its label. -/
theorem Proceeds.label {before after : Machine} (h : Proceeds before after) :
    after.context.label = before.context.label := by
  cases h with
  | moved span => rfl
  | expression ran => exact ((Discipline.label.exprWithin _ _ trivial).of_eq_ok ran).1
  | statement ran => exact ((Discipline.label.stmtWithin _ _ trivial).of_eq_ok ran).1
  | declared ran => exact ((Discipline.label.declare trivial trivial).of_eq_ok ran).1

/-- **A body keeps its label as long as it runs.** -/
theorem Within.label {before after : Machine} (h : Within before after) :
    after.context.label = before.context.label := by
  induction h with
  | refl => rfl
  | tail _ step ih => exact step.label.trans ih

/-! ## Handlers get the label of their trigger -/

/-- The ways to start handlers: a signal is emitted, a variable is given a value, or a container is
changed. -/
inductive Triggers (trigger : Machine) : Machine → Prop
  | emitted {name : String} {after : Machine} (ran : Eval.emit name trigger = .ok () after) :
    Triggers trigger after
  | assigned (name : String) : Triggers trigger (trigger.notifyVariable name)
  | changed (container : Value) : Triggers trigger (trigger.notifyContainer container)

/-- The handlers that a variable starts have the context of the trigger. -/
theorem context_of_mem_answers {trigger : Machine} {name : String} {handler : Pending}
    (h : handler ∈ trigger.answers name) :
    handler.context = { trigger.context with callDepth := 0 } := by
  unfold answers at h
  split at h
  · obtain ⟨entry, _, rfl⟩ := List.mem_map.mp h
    rfl
  · cases h

/-- **Every started handler has the context of the trigger**, but no calls are going on in it. -/
theorem Triggers.context {trigger after : Machine} (h : trigger.Triggers after) :
    ∃ started, after = trigger.lined started ∧
      ∀ handler ∈ started, handler.context = { trigger.context with callDepth := 0 } := by
  cases h with
  | @emitted name _ ran =>
    obtain ⟨bodies, _, ran⟩ := reading_bind_eq_ok ran
    cases ran
    refine ⟨_, foldl_start (fun place => s!"when:{name}#{place}") bodies.zipIdx trigger, ?_⟩
    intro handler mem
    obtain ⟨entry, _, rfl⟩ := List.mem_map.mp mem
    rfl
  | assigned name => exact ⟨_, notifyVariable_eq trigger name, fun _ => context_of_mem_answers⟩
  | changed container =>
    refine ⟨_, notifyContainer_eq trigger container, fun handler mem => ?_⟩
    obtain ⟨name, _, answer⟩ := List.mem_flatMap.mp mem
    exact context_of_mem_answers answer

end Machine

/-- **Calls in a handler are resolved where the handler is triggered.** Let a machine start
handlers, by emitting a signal or by changing a variable or a container. Whenever one of them runs,
at every moment of its body a call by a name means what it means in the code that triggered the
handler. This is what it means in the code that the body stands in just if both are of one module,
or neither module has a function of that name. -/
theorem handler_resolves_where_triggered {trigger after : Machine}
    (starts : trigger.Triggers after) :
    ∃ started, after = trigger.lined started ∧
      ∀ handler ∈ started, ∀ later now : Machine,
        Machine.Within { later with context := handler.context } now →
        ∀ (written : Option String) (name : String),
          now.resolve name = (now.under trigger.context.label).resolve name ∧
          (now.resolve name = (now.under written).resolve name ↔
            trigger.context.label = written ∨
              (now.captures trigger.context.label name = false ∧
                now.captures written name = false)) := by
  obtain ⟨started, lined, contexts⟩ := starts.context
  refine ⟨started, lined, fun handler mem later now within written name => ?_⟩
  have label : now.context.label = trigger.context.label := by
    rw [within.label, contexts handler mem]
  have same : now.under trigger.context.label = now := by
    rw [← label]
    rfl
  -- A machine that has the label of the trigger is itself, put under that label.
  have differs := now.resolve_under_eq_iff trigger.context.label written name
  rw [same] at differs ⊢
  exact ⟨rfl, differs⟩

/-! ## Handlers that miss their module -/

/-- A module with a function that lets a handler wait for a signal, and one that emits it. -/
def signalling : List (String × String) :=
  [("m.mun", "int helper() \x7b return 1; \x7d" ++
    "void setup() \x7b when (go) \x7b r = helper(); \x7d \x7d" ++
    "void fire() \x7b emit go; \x7d")]

/-- The machine after a program that imports the module under a label, and the handlers it starts.
-/
def Machine.signalled (text : String) : Machine :=
  ((Machine.amid signalling).performAndWait 8
    (source 8 ("int r = 0; signal go; import <m.mun> as m;" ++ text))).machine

/-- The machine after a function of the module has let a handler wait, outside of the module. -/
def Machine.waiting : Machine := .signalled "m_setup();"

/-- A handler that was registered in the module is triggered from outside it: the call in its body
does not mean the function of the module. -/
theorem waiting_resolves_outside :
    ∃ after started, Eval.emit "go" .waiting = .ok () after ∧
      after = Machine.waiting.lined started ∧ started ≠ [] ∧
      ∀ handler ∈ started,
        ¬ Machine.resolve { after with context := handler.context } "helper" =
          (Machine.under { after with context := handler.context } (some "m")).resolve
            "helper" := by
  obtain ⟨well, lengths, outside, captured⟩ :
      (Machine.waiting.perform (Eval.emit "go")).result.toBool = true ∧
      (Machine.waiting.perform (Eval.emit "go")).machine.pending.length =
        Machine.waiting.pending.length + 1 ∧
      Machine.waiting.context.label = none ∧
      Machine.waiting.captures (some "m") "helper" = true := by decide +kernel
  obtain ⟨_, ran⟩ := eq_ok_of_perform well
  obtain ⟨started, lined, resolves⟩ := handler_resolves_where_triggered (.emitted ran)
  refine ⟨_, started, ran, lined, ?_, fun handler mem same => ?_⟩
  · rintro rfl
    rw [lined, Machine.lined_nil] at lengths
    omega
  · have meaning := (resolves handler mem _ _ .refl (some "m") "helper").2.mp same
    rw [outside, lined] at meaning
    rcases meaning with differs | ⟨_, free⟩
    · cases differs
    · have still : Machine.waiting.captures (some "m") "helper" = false := free
      rw [captured] at still
      cases still

/-- A handler that is registered outside of the module, beside a function of its own. -/
def outsider : String := "int helper() \x7b return 2; \x7d when (go) \x7b r = helper(); \x7d"

/-- The integer that a variable holds. -/
def Machine.readsInt (machine : Machine) (name : String) : Option Int64 :=
  (machine.scopes.lookup name).toOption.bind Value.asInt?

/-- **A handler may miss its module, and may stray into another.** Registered in a function of the
module and triggered from outside it, a handler does not find the function that its body calls,
although the module has it. Registered outside the module and triggered from inside it, a handler
calls the function of the module in place of the one beside it. -/
theorem handler_misses_its_module :
    ((Machine.signalled "m_setup(); emit go;").hasFunction "m_helper" = true ∧
      (Machine.signalled "m_setup(); emit go;").failures.map (·.fault.message) =
        ["function 'helper' is not defined"]) ∧
    (Machine.signalled (outsider ++ "m_fire();")).readsInt "r" = some 1 ∧
    (Machine.signalled (outsider ++ "emit go;")).readsInt "r" = some 2 := by
  decide +kernel

end ReactiveScript
