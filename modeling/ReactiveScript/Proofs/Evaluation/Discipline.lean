import ReactiveScript.Machine.Evaluate
import ReactiveScript.Proofs.Container.Lookup
import ReactiveScript.Proofs.Evaluation.Operation

/-! # Disciplines

A discipline says what expressions and statements may do to a machine and what holds of the values
that they hand on. It names what it asks of the single operations of the machine; from there on
every expression, statement, body, handler and program obeys it (`Proofs.Evaluation.Program`), so
that an invariant of the whole language is proved by looking at the operations only. Expressions may
do less than statements: what an expression does is `Calm`, what a statement does is `Busy`. -/

namespace ReactiveScript

/-- What evaluations may do, and why the single operations do no more. -/
structure Discipline where
  /-- What holds of every machine. -/
  Good : Machine → Prop
  /-- What an expression may do to a machine. -/
  Calm : Machine → Machine → Prop
  /-- What a statement may do to a machine. -/
  Busy : Machine → Machine → Prop
  /-- What holds of every value that is at hand. -/
  Fair : Store → Value → Prop
  /-- A statement leads to a good machine. -/
  good_of_busy {before after : Machine} : Busy before after → Good after
  /-- A statement may do what an expression may do. -/
  busy_of_calm {before after : Machine} : Calm before after → Busy before after
  /-- Expressions may follow each other. -/
  calm_trans {first second third : Machine} : Calm first second → Calm second third →
    Calm first third
  /-- Statements may follow each other. -/
  busy_trans {first second third : Machine} : Busy first second → Busy second third →
    Busy first third
  /-- An expression may do what is quiet. -/
  calm_of_quiet {before after : Machine} : Good before → before.Quiet after → Calm before after
  /-- A value at hand stays as it is while others work. -/
  fair_of_busy {before after : Machine} {value : Value} : Busy before after →
    Fair before.store value → Fair after.store value
  /-- A value that is no container may always be at hand. -/
  fair_of_isPlain {store : Store} {value : Value} : value.isPlain = true → Fair store value
  /-- The value of a variable may be at hand. -/
  fair_of_lookup {machine : Machine} {name : String} {value : Value} : Good machine →
    machine.scopes.lookup name = .ok value → Fair machine.store value
  /-- What a loop goes through may be at hand. -/
  fair_of_mem_itemsIn {machine : Machine} {container item : Value} : Good machine →
    Fair machine.store container → item ∈ machine.store.itemsIn container →
    Fair machine.store item
  /-- The operations on containers are calm and hand on what may be at hand. -/
  operate {machine : Machine} {α : Type} {action : Alloc α} {operands : List Value}
    {results : α → List Value} : Good machine →
    Operation machine.memory action operands results →
    (∀ value ∈ operands, Fair machine.store value) →
    (Eval.alloc action).Keeps Calm machine fun after result =>
      ∀ value ∈ results result, Fair after.store value
  /-- A declaration is a statement. -/
  declare {machine : Machine} {name : String} {value : Value} {type : Ty} : Good machine →
    Fair machine.store value →
    (Eval.declare name value type).Keeps Busy machine fun after => Fair after.store
  /-- An assignment is a statement. -/
  assign {machine : Machine} {name : String} {value : Value} : Good machine →
    Fair machine.store value →
    (Eval.assign name value).Keeps Busy machine fun after => Fair after.store
  /-- Where handlers are waited for in an expression, they are calm. -/
  calm_of_settle {machine : Machine} {name : String} {before after : Machine} : Good machine →
    machine.natives.find? name = some .settle → Busy before after → Calm before after
  /-- Where a host has functions of its own, these are calm. -/
  host {machine : Machine} {name : String} {run : Call → Alloc Value} {before : Machine}
    {call : Call} : Good machine → machine.natives.find? name = some (.host run) → Good before →
    (∀ value ∈ call.arguments, Fair before.store value) →
    (Eval.alloc (run call)).Keeps Calm before fun after => Fair after.store
  /-- A call starts from a good machine. -/
  good_enter {machine : Machine} (function : Function) : Good machine →
    Good (machine.enter function)
  /-- A call is calm whatever the statements of its body do. -/
  calm_leave {machine after : Machine} {name : String} {function : Function} : Good machine →
    Busy (machine.enter function) after → Calm machine (after.leave machine.context name function)
  /-- A handler starts from a good machine. -/
  good_handler {machine : Machine} (context : Context) : Good machine →
    Good { machine with context }
  /-- The evaluation that waits for a handler goes on in its own context. -/
  busy_handler {machine after : Machine} {context : Context}
    (failures : List HandlerFailure) :
    Busy { machine with context } after →
    Busy machine { after with context := machine.context, failures }

namespace Discipline

variable (D : Discipline) {α β : Type} {machine : Machine}

/-- An expression leads to a good machine. -/
theorem good_of_calm {before after : Machine} (h : D.Calm before after) : D.Good after :=
  D.good_of_busy (D.busy_of_calm h)

/-- A value at hand stays as it is while an expression is evaluated. -/
theorem fair_of_calm {before after : Machine} {value : Value} (h : D.Calm before after)
    (fair : D.Fair before.store value) : D.Fair after.store value :=
  D.fair_of_busy (D.busy_of_calm h) fair

/-- Doing nothing is calm. -/
theorem calm_refl (good : D.Good machine) : D.Calm machine machine :=
  D.calm_of_quiet good (.refl machine)

/-- Doing nothing is allowed to a statement. -/
theorem busy_refl (good : D.Good machine) : D.Busy machine machine :=
  D.busy_of_calm (D.calm_refl good)

/-- An evaluation that is calm and gives a value that may be at hand. -/
abbrev Evaluates (action : Eval Value) (machine : Machine) : Prop :=
  action.Keeps D.Calm machine fun after => D.Fair after.store

/-- An evaluation that is calm and gives values that may be at hand. -/
abbrev EvaluatesAll (action : Eval (List Value)) (machine : Machine) : Prop :=
  action.Keeps D.Calm machine fun after values => ∀ value ∈ values, D.Fair after.store value

/-- The value that a statement ends with may be at hand. -/
def FairFlow (store : Store) : Flow → Prop
  | .next value => D.Fair store value
  | .leave value => D.Fair store value

/-- An evaluation that does what a statement may do. -/
abbrev Executes (action : Eval Flow) (machine : Machine) : Prop :=
  action.Keeps D.Busy machine fun after => D.FairFlow after.store

/-- A way to run bodies that does what statements may do. -/
def Runs (run : Runner) : Prop :=
  ∀ body machine, D.Good machine → D.Executes (run body) machine

/-- Giving a value that is no container. -/
theorem plain {value : Value} (good : D.Good machine) (h : value.isPlain = true) :
    D.Evaluates (pure value) machine :=
  Eval.Keeps.pure (D.calm_refl good) (D.fair_of_isPlain h)

/-- Giving the outcome of an operation that makes no containers. -/
theorem plainOutcome {outcome : Except Fault Value} (good : D.Good machine)
    (h : ∀ value, outcome = .ok value → value.isPlain = true) :
    D.Evaluates (Eval.ofExcept outcome) machine :=
  Eval.Keeps.ofExcept (D.calm_refl good) fun value found => D.fair_of_isPlain (h value found)

/-- A quiet evaluation is calm. -/
theorem quietly {action : Eval α} (good : D.Good machine) (h : Eval.IsQuiet action machine) :
    action.Keeps D.Calm machine fun _ _ => True :=
  h.mono (D.calm_of_quiet good) fun _ _ => trivial

/-- A quiet evaluation that gives no container. -/
theorem quietlyPlain {action : Eval Value} (good : D.Good machine)
    (h : Eval.IsQuietPlain action machine) : D.Evaluates action machine :=
  h.mono (D.calm_of_quiet good) fun _ plain => D.fair_of_isPlain plain

/-- A calm evaluation is allowed to a statement. -/
theorem busily {action : Eval α} {gives : Machine → α → Prop}
    (h : action.Keeps D.Calm machine gives) : action.Keeps D.Busy machine gives :=
  h.mono D.busy_of_calm fun _ given => given

/-- An operation that adds containers and gives a value. -/
theorem operation {action : Alloc Value} {operands : List Value} (good : D.Good machine)
    (making : Making machine.memory action operands ([·]))
    (fair : ∀ value ∈ operands, D.Fair machine.store value) :
    D.Evaluates (Eval.alloc action) machine :=
  (D.operate good (.make making) fair).mono id fun _ given => given _ (List.mem_singleton.mpr rfl)

/-- That an evaluation does not return is noted outside the memory. -/
theorem returning {action : Eval Value} (h : D.Evaluates action machine) :
    D.Evaluates (Eval.returning action) machine :=
  Eval.Keeps.returning h fun {after} reached =>
    D.calm_trans reached (D.calm_of_quiet (D.good_of_calm reached) (after.quiet_world _))

/-- One value that may be at hand. -/
theorem fair_one {store : Store} {value : Value} (h : D.Fair store value) :
    ∀ other ∈ [value], D.Fair store other :=
  List.forall_mem_singleton.mpr h

/-- Two values that may be at hand. -/
theorem fair_two {store : Store} {first second : Value} (h : D.Fair store first)
    (h' : D.Fair store second) : ∀ other ∈ [first, second], D.Fair store other :=
  List.forall_mem_cons.mpr ⟨h, D.fair_one h'⟩

/-- Three values that may be at hand. -/
theorem fair_three {store : Store} {first second third : Value} (h : D.Fair store first)
    (h' : D.Fair store second) (h'' : D.Fair store third) :
    ∀ other ∈ [first, second, third], D.Fair store other :=
  List.forall_mem_cons.mpr ⟨h, D.fair_two h' h''⟩

/-- Setting a key in entries that may be at hand. -/
theorem fair_setEntry {store store' : Store} {shut : Option Container} {key value : Value}
    {entries set : List (Value × Value)} (done : store'.setEntry shut key value entries = some set)
    (fairKey : D.Fair store key) (fairValue : D.Fair store value)
    (fair : ∀ old ∈ entryValues entries, D.Fair store old) :
    ∀ found ∈ entryValues set, D.Fair store found := by
  intro found mem
  obtain ⟨entry, mem, which⟩ := mem_entryValues.mp mem
  obtain ⟨forKey, forValue⟩ := Store.forall_mem_setEntry done fairKey fairValue
    (fun old mem => ⟨fair _ (mem_entryValues.mpr ⟨old, mem, .inl rfl⟩),
      fair _ (mem_entryValues.mpr ⟨old, mem, .inr rfl⟩)⟩) entry mem
  rcases which with rfl | rfl
  · exact forKey
  · exact forValue

end Discipline

end ReactiveScript
