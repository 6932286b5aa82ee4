import ReactiveScript.Table
import ReactiveScript.Value.Convert

/-! # Scopes

Variables live in scopes: one for the whole program and one more for every call that is going on. A
name means the binding of the innermost scope that has it. -/

namespace ReactiveScript

/-- A variable: its value and the type it was declared with. -/
structure Binding where
  /-- The value that the variable holds. -/
  value : Value
  /-- The type that the variable was declared with. -/
  declared : Ty

/-- The variables of one scope. -/
abbrev Scope := Table Binding

/-- The scopes of a program: the locals, innermost first, over the globals. -/
structure ScopeStack where
  /-- The scopes of the calls that are going on, innermost first. -/
  locals : List Scope
  /-- The scope of the whole program. -/
  globals : Scope

namespace ScopeStack

/-- The scopes of a program that has declared nothing. -/
def empty : ScopeStack := ⟨[], .empty⟩

/-- How many scopes stand over the globals. -/
def depth (scopes : ScopeStack) : Nat := scopes.locals.length

/-- The scopes after one more is opened. -/
def push (scopes : ScopeStack) : ScopeStack := { scopes with locals := .empty :: scopes.locals }

/-- The scopes after the innermost is closed; the globals stay. -/
def pop (scopes : ScopeStack) : ScopeStack := { scopes with locals := scopes.locals.drop 1 }

/-- The binding that a name means: that of the innermost scope that has one. -/
def binding? (scopes : ScopeStack) (name : String) : Option Binding :=
  match scopes.locals.findSome? (·.find? name) with
  | some binding => some binding
  | none => scopes.globals.find? name

/-- Whether a name is bound. -/
def contains (scopes : ScopeStack) (name : String) : Bool := (scopes.binding? name).isSome

/-- The value of a variable. -/
def lookup (scopes : ScopeStack) (name : String) : Except Fault Value :=
  match scopes.binding? name with
  | some binding => .ok binding.value
  | none => .error (Cause.undefinedVariable name).fault

/-- How many scopes stand below the one that a name is bound in. -/
def depthOf (scopes : ScopeStack) (name : String) : Except Fault Nat :=
  match scopes.locals.findIdx? (·.contains name) with
  | some place => .ok (scopes.depth - place)
  | none =>
    if scopes.globals.contains name then .ok 0
    else .error (Cause.undefinedVariable name).fault

/-- The scopes after a name is bound in the innermost. -/
def bind (scopes : ScopeStack) (name : String) (binding : Binding) : ScopeStack :=
  match scopes.locals with
  | [] => { scopes with globals := scopes.globals.insert name binding }
  | innermost :: outer => { scopes with locals := innermost.insert name binding :: outer }

/-- The scopes, innermost first, after the binding that a name means gets a value. -/
def updateIn (name : String) (value : Value) : List Scope → List Scope
  | [] => []
  | scope :: outer =>
    match scope.find? name with
    | some binding => scope.insert name { binding with value } :: outer
    | none => scope :: updateIn name value outer

/-- The scopes after the binding that a name means gets a value. -/
def update (scopes : ScopeStack) (name : String) (value : Value) : ScopeStack :=
  if scopes.locals.any (·.contains name) then
    { scopes with locals := updateIn name value scopes.locals }
  else
    match scopes.globals.find? name with
    | some binding => { scopes with globals := scopes.globals.insert name { binding with value } }
    | none => scopes

/-- Declares a variable in the innermost scope; its value is converted to its type. -/
def declare (scopes : ScopeStack) (name : String) (value : Value) (declared : Ty) :
    Alloc (Value × ScopeStack) := do
  let stored ← Value.coerce declared value
  return (stored, scopes.bind name ⟨stored, declared⟩)

/-- Gives a variable a value, converted to the type of the value that it holds unless the variable
was declared with any type. -/
def assign (scopes : ScopeStack) (name : String) (value : Value) :
    Alloc (Value × ScopeStack) := do
  match scopes.binding? name with
  | none => Alloc.fail (.undefinedVariable name)
  | some binding =>
    let stored ←
      if binding.declared.isAny then pure value
      else Value.coerce (binding.value.typeIn (← get)) value
    return (stored, scopes.update name stored)

/-- The variables of a scope with their values, in ascending order of their names. -/
def listing (scope : Scope) : List (String × Value) :=
  scope.sorted.map fun (name, binding) => (name, binding.value)

/-- The variables of the innermost scope. -/
def currentListing (scopes : ScopeStack) : List (String × Value) :=
  listing (scopes.locals.headD scopes.globals)

/-- The variables of the whole program. -/
def globalListing (scopes : ScopeStack) : List (String × Value) := listing scopes.globals

@[simp] theorem depth_push (scopes : ScopeStack) : scopes.push.depth = scopes.depth + 1 := rfl

@[simp] theorem pop_push (scopes : ScopeStack) : scopes.push.pop = scopes := rfl

end ScopeStack

end ReactiveScript
