import ReactiveScript.Machine.Basic
import ReactiveScript.Value.Container

/-! # Starting handlers

Emitting a signal and changing a watched variable start handlers. A started handler waits in line,
and sees the context that started it, except that no calls are going on in it. A container that is
changed in place tells every watched variable that still holds it. -/

namespace ReactiveScript

namespace Machine

/-- The machine with one more handler in line. -/
def start (machine : Machine) (label : String) (body : HandlerBody) : Machine :=
  { machine with
    pending := machine.pending ++ [⟨label, body, { machine.context with callDepth := 0 }⟩] }

/-- The machine with bodies in line as handlers with labels that number them. -/
def startAll (machine : Machine) (label : String) (bodies : List HandlerBody) : Machine :=
  bodies.zipIdx.foldl (fun machine (body, place) => machine.start s!"{label}#{place}" body) machine

/-- The machine after the watches of a variable are told that it has changed: those start that were
registered where the variable is bound now. -/
def notifyVariable (machine : Machine) (name : String) : Machine :=
  match machine.scopes.depthOf name with
  | .ok depth => machine.startAll s!"watch:{name}" (machine.watches.bodies name depth)
  | .error _ => machine

/-- The watched variables that hold or held a container. -/
def subscribers (machine : Machine) : Value → List String
  | .list handle => (machine.store.list handle).subscribers
  | .dict handle => (machine.store.dict handle).subscribers
  | _ => []

/-- Whether a variable holds a container, and no other one. -/
def holds (machine : Machine) (name : String) (container : Value) : Bool :=
  match machine.scopes.lookup name, container with
  | .ok (.list held), .list handle => held == handle
  | .ok (.dict held), .dict handle => held == handle
  | _, _ => false

/-- The machine after the variables that hold a container are told that it has changed. -/
def notifyContainer (machine : Machine) (container : Value) : Machine :=
  (machine.subscribers container).foldl
    (fun machine name =>
      if machine.holds name container then machine.notifyVariable name else machine)
    machine

end Machine

namespace Eval

/-- Notes in a container that a watched variable holds it. -/
def subscribe (name : String) : Value → Eval Unit
  | .list handle => alloc (Alloc.listSubscribe handle name)
  | .dict handle => alloc (Alloc.dictSubscribe handle name)
  | _ => pure ()

/-- Tells the watches of a variable that it was given a value. -/
def afterAssignment (name : String) (value : Value) : Eval Unit := do
  if (← get).watches.isWatched name then
    subscribe name value
    modify (·.notifyVariable name)

/-- Declares a signal. -/
def declareSignal (name : String) : Eval Unit := do
  let signals ← reading (·.signals.declare name)
  modify ({ · with signals })

/-- Lets a body wait for a signal. -/
def attachHandler (name : String) (body : HandlerBody) : Eval Unit := do
  let signals ← reading (·.signals.attach name body)
  modify ({ · with signals })

/-- Starts every body that waits for a signal. -/
def emit (name : String) : Eval Unit := do
  let bodies ← reading (·.signals.bodies name)
  modify (·.startAll s!"when:{name}" bodies)

/-- Lets a body wait for changes of a variable where it is bound now. -/
def registerWatch (name : String) (body : HandlerBody) : Eval Unit := do
  let depth ← reading (·.scopes.depthOf name)
  let value ← lookup name
  modify fun machine => { machine with watches := machine.watches.register name depth body }
  subscribe name value

end Eval

end ReactiveScript
