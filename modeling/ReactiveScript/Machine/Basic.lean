import ReactiveScript.Config.Basic
import ReactiveScript.FileTree
import ReactiveScript.Library.Native
import ReactiveScript.Reactive.Table
import ReactiveScript.Scope

/-! # The state of a running program

A machine holds everything that a running program can see or change. An evaluation takes a machine
to another one and ends with a value, with a fault, or exhausted, if it was cut off before its end.
A fault does not undo what was done before it. -/

namespace ReactiveScript

/-- What belongs to one line of evaluation: the program has one, and every handler has its own. -/
structure Context where
  /-- The place of what was evaluated last. -/
  current : Span
  /-- The directory that imports are resolved against first. -/
  directory : String
  /-- How many calls are going on. -/
  callDepth : Nat
  /-- The label of the module whose function is running, if it was imported under one. -/
  label : Option String
deriving DecidableEq, Repr

/-- The context of a program that has not started. -/
def Context.initial : Context := ⟨.unknown, ".", 0, none⟩

/-- A handler that waits to be run. -/
structure Pending where
  /-- What the handler is called in messages. -/
  label : String
  /-- What it runs. -/
  body : HandlerBody
  /-- The context in which it runs. -/
  context : Context

/-- A fault that ended a handler. -/
structure HandlerFailure where
  /-- What the handler is called. -/
  label : String
  /-- The fault that ended it. -/
  fault : Fault
deriving DecidableEq, Repr

/-- The line that reports the failure of a handler. -/
def HandlerFailure.render (failure : HandlerFailure) : String :=
  s!"{failure.fault.render} (in handler '{failure.label}')"

/-- What surrounds a program. -/
structure World where
  /-- The arguments that the program was started with. -/
  arguments : List String
  /-- The files that it can see. -/
  files : FileTree
  /-- The files as they were after each of its changes to them, in order. -/
  revisions : List FileTree := []
  /-- What it has not read of its input. -/
  input : List Char
  /-- What it has printed. -/
  output : String
  /-- The milliseconds since the beginning of 1970. -/
  clock : Nat
  /-- The state of the source of random numbers. -/
  seed : UInt64
  /-- Whether there will be more input, which cuts off a program that asks for it now. -/
  moreInput : Bool := false
  /-- Set when a program was cut off because it asked for more input. -/
  starved : Bool := false
  /-- Set when a call of a built-in function did not return. -/
  hung : Bool := false

/-- The state of a running program. -/
structure Machine where
  /-- The containers. -/
  store : Store
  /-- The variables. -/
  scopes : ScopeStack
  /-- The declared functions. -/
  functions : Table Function
  /-- The built-in functions. -/
  natives : Table Native
  /-- The signals with the bodies that wait for them. -/
  signals : SignalTable
  /-- The bodies that wait for changes of variables. -/
  watches : WatchTable
  /-- The handlers that were started and have not run, in order. -/
  pending : List Pending
  /-- Cleared when a fault has ended a program; nothing is evaluated after that. -/
  running : Bool
  /-- The settings. -/
  config : Config
  /-- The faults that have ended handlers, in order. -/
  failures : List HandlerFailure
  /-- The full paths of the modules that were imported. -/
  imported : List String
  /-- What surrounds the program. -/
  world : World
  /-- The context of the evaluation that is going on. -/
  context : Context

/-- A machine before any program. -/
def Machine.initial (config : Config) (world : World) : Machine where
  store := .empty
  scopes := .empty
  functions := .empty
  natives := Native.standard
  signals := .empty
  watches := .empty
  pending := []
  running := true
  config := config
  failures := []
  imported := []
  world := world
  context := .initial

/-- The machine with one more built-in function. -/
def Machine.register (machine : Machine) (name : String) (native : Native) : Machine :=
  { machine with natives := machine.natives.insert name native }

/-- The machine after a call of a built-in function that did not return. -/
def Machine.hang (machine : Machine) : Machine :=
  { machine with world := { machine.world with hung := true } }

/-- Whether a function of some name can be called. -/
def Machine.hasFunction (machine : Machine) (name : String) : Bool :=
  machine.functions.contains name || machine.natives.contains name

/-- An evaluation. -/
abbrev Eval := EStateM Stop Machine

/-- How a statement ends: the next one follows, or the function is left with a value. -/
inductive Flow where
  | next (value : Value)
  | leave (value : Value)

namespace Eval

/-- A fault of the program. -/
def fail {α : Type} (cause : Cause) : Eval α := throw (.fault cause.fault)

/-- An evaluation that is cut off. -/
def exhausted {α : Type} : Eval α := throw .exhausted

/-- The outcome of an operation that does not depend on the machine. -/
def ofExcept {α : Type} : Except Fault α → Eval α
  | .ok value => pure value
  | .error fault => throw (.fault fault)

/-- An operation on the containers. -/
def alloc {α : Type} (action : Alloc α) : Eval α := fun machine =>
  match action.run machine.store with
  | .ok (value, store) => .ok value { machine with store }
  | .error stop => .error stop machine

/-- What is found by going through the containers, if that comes to an end. -/
def looking {α : Type} (look : Store → Except Stop α) : Eval α := fun machine =>
  match look machine.store with
  | .ok value => .ok value machine
  | .error stop => .error stop machine

/-- Something that is read off the machine. -/
def reading {α : Type} (read : Machine → Except Fault α) : Eval α := do
  ofExcept (read (← get))

/-- An evaluation between a change of the machine and its undoing, which happens however the
evaluation ends. -/
def bracket {α : Type} (before after : Machine → Machine) (action : Eval α) : Eval α :=
  fun machine =>
    match action (before machine) with
    | .ok value machine => .ok value (after machine)
    | .error stop machine => .error stop (after machine)

/-- An evaluation whose faults get a place unless they have one. -/
def blaming {α : Type} (span : Span) (action : Eval α) : Eval α := fun machine =>
  match action machine with
  | .ok value machine => .ok value machine
  | .error (.fault fault) machine => .error (.fault (fault.orAt span)) machine
  | .error .exhausted machine => .error .exhausted machine

/-- An evaluation of which it is noted if it does not return. -/
def returning {α : Type} (action : Eval α) : Eval α := fun machine =>
  match action machine with
  | .ok value machine => .ok value machine
  | .error (.fault fault) machine => .error (.fault fault) machine
  | .error .exhausted machine => .error .exhausted machine.hang

/-- Makes a place the current one. -/
def moveTo (span : Span) : Eval Unit :=
  modify fun machine => { machine with context := { machine.context with current := span } }

/-- An evaluation at a place of the program: nothing happens unless the machine is running, the
place becomes the current one, and it becomes the place of a fault that has none. -/
def located {α : Type} (span : Span) (idle : α) (action : Eval α) : Eval α := do
  if (← get).running then
    moveTo span
    blaming span action
  else return idle

/-- The value of a variable. -/
def lookup (name : String) : Eval Value := reading (·.scopes.lookup name)

/-- A change of the scopes that gives a value. -/
def scoping (change : ScopeStack → Alloc (Value × ScopeStack)) : Eval Value := do
  let (stored, scopes) ← alloc (change (← get).scopes)
  modify ({ · with scopes })
  return stored

/-- Declares a variable. -/
def declare (name : String) (value : Value) (type : Ty) : Eval Value :=
  scoping (·.declare name value type)

/-- Gives a variable a value. -/
def assign (name : String) (value : Value) : Eval Value := scoping (·.assign name value)

/-- Whether a value counts as true. -/
def truthy (value : Value) : Eval Bool := return value.truthyIn (← get).store

/-- Makes a function known by its name. -/
def define (function : Function) : Eval Unit :=
  modify fun machine =>
    { machine with functions := machine.functions.insert function.name function }

end Eval

end ReactiveScript
