import ReactiveScript.Syntax.Tree
import ReactiveScript.Table

/-! # Signals and watches

Which bodies wait for which signal, and which bodies wait for a change of which variable at which
depth of scopes. -/

namespace ReactiveScript

/-- The statements that run when what they wait for happens. -/
abbrev HandlerBody := List Stmt

/-- The declared signals with the bodies that wait for each, in the order of attachment. -/
structure SignalTable where
  /-- The bodies by signal. -/
  handlers : Table (List HandlerBody)

namespace SignalTable

/-- The table without signals. -/
def empty : SignalTable := ⟨.empty⟩

/-- Whether a signal is declared. -/
def isDeclared (table : SignalTable) (name : String) : Bool := table.handlers.contains name

/-- Declares a signal. -/
def declare (table : SignalTable) (name : String) : Except Fault SignalTable :=
  if table.isDeclared name then .error (Cause.signalDeclared name).fault
  else .ok ⟨table.handlers.insert name []⟩

/-- The bodies that wait for a signal. -/
def bodies (table : SignalTable) (name : String) : Except Fault (List HandlerBody) :=
  match table.handlers.find? name with
  | some found => .ok found
  | none => .error (Cause.signalUndeclared name).fault

/-- Lets a body wait for a signal. -/
def attach (table : SignalTable) (name : String) (body : HandlerBody) :
    Except Fault SignalTable := do
  let found ← table.bodies name
  return ⟨table.handlers.insert name (found ++ [body])⟩

end SignalTable

/-- A body that waits for a change of a variable in the scope at some depth. -/
structure Watch where
  /-- How many scopes stand below that of the variable. -/
  depth : Nat
  /-- What runs when the variable changes. -/
  body : HandlerBody

/-- The watched variables with their watches in the order of registration. -/
structure WatchTable where
  /-- The watches by variable. -/
  watches : Table (List Watch)

namespace WatchTable

/-- The table without watches. -/
def empty : WatchTable := ⟨.empty⟩

/-- All watches of a variable. -/
def of (table : WatchTable) (name : String) : List Watch := (table.watches.find? name).getD []

/-- Lets a body wait for changes of a variable in the scope at some depth. -/
def register (table : WatchTable) (name : String) (depth : Nat) (body : HandlerBody) : WatchTable :=
  ⟨table.watches.insert name (table.of name ++ [⟨depth, body⟩])⟩

/-- The bodies that wait for changes of a variable in the scope at some depth. -/
def bodies (table : WatchTable) (name : String) (depth : Nat) : List HandlerBody :=
  ((table.of name).filter (·.depth == depth)).map Watch.body

/-- Whether some body waits for changes of a variable of that name. -/
def isWatched (table : WatchTable) (name : String) : Bool := !(table.of name).isEmpty

end WatchTable

end ReactiveScript
