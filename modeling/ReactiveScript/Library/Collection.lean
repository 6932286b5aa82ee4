import ReactiveScript.Machine.Notify
import ReactiveScript.Text.Search
import ReactiveScript.Value.Text

/-! # Containers and scopes

Questions about containers and changes of them. A change in place tells the watches of the variables
that hold the container. -/

namespace ReactiveScript

/-- The place in a sequence that a bound of a slice stands for: negative ones count from the end,
and what lies outside is moved to the nearer end. -/
def slicePlace (length : Nat) (bound : Int64) : Nat :=
  let place := if bound.toInt < 0 then bound.toInt + length else bound.toInt
  min place.toNat length

/-- The part of a sequence between two bounds. -/
def slice {α : Type} (items : List α) (first last : Int64) : List α :=
  let start := slicePlace items.length first
  (items.take (slicePlace items.length last)).drop start

/-- The number of items in a value. -/
def lengthOf (store : Store) : Value → Except Fault Nat
  | .text s => .ok s.length
  | .list handle => .ok (store.list handle).items.length
  | .dict handle => .ok (store.dict handle).entries.length
  | other => .error (Cause.operandUndefined "length" other.kindName).fault

/-- Whether a container or text holds a value. -/
def Alloc.contains (container value : Value) : Alloc Bool :=
  match container, value with
  | .list handle, _ => Alloc.listContains handle value
  | .dict handle, _ => Alloc.dictContains handle value
  | .text whole, .text part => return Text.occurs part.toList whole.toList
  | .text _, other => Alloc.fail (.containsKind other.kindName)
  | other, _ => Alloc.fail (.operandNeeds "contains" "a container" other.kindName)

/-- Takes the first item that is the same as a value out of a list, and tells whether there was one;
takes a key out of a dictionary, and gives the value that was under it. -/
def Alloc.remove (container value : Value) : Alloc Value :=
  match container with
  | .list handle => return .boolean (← Alloc.listRemove handle value)
  | .dict handle => return (← Alloc.dictRemove handle value).getD .void
  | other => Alloc.fail (.operandNeeds "remove" "a list or dict" other.kindName)

/-- The part of a list or text between two bounds. -/
def Alloc.slice (sequence : Value) (first last : Int64) : Alloc Value :=
  match sequence with
  | .list handle => do
    let cell := (← get).list handle
    Alloc.newList cell.element (ReactiveScript.slice cell.items first last)
  | .text s => return .text (String.ofList (ReactiveScript.slice s.toList first last))
  | other => Alloc.fail (.operandNeeds "slice" "a list or string" other.kindName)

/-- The variables of a scope as a dictionary. -/
def Alloc.scopeDict (listing : List (String × Value)) : Alloc Value :=
  Alloc.newDict .text .any (listing.map fun (name, value) => (.text name, value))

namespace Eval

/-- A function on containers and scopes. -/
def collection (function : CollectionFunction) (call : Call) : Eval Value := do
  match function with
  | .type =>
    ofExcept (call.expect 1)
    let value ← ofExcept (call.argument 0)
    return .text (value.typeIn (← get).store).render
  | .length =>
    ofExcept (call.expect 1)
    let value ← ofExcept (call.argument 0)
    let length ← reading fun machine => lengthOf machine.store value
    return .int (Int64.ofNat length)
  | .append =>
    ofExcept (call.expect 2)
    let handle ← ofExcept (call.list 0)
    let item ← ofExcept (call.argument 1)
    alloc (Alloc.listPush handle item)
    modify (·.notifyContainer (.list handle))
    return .void
  | .remove =>
    ofExcept (call.expect 2)
    let container ← ofExcept (call.argument 0)
    let value ← ofExcept (call.argument 1)
    let removed ← alloc (Alloc.remove container value)
    modify (·.notifyContainer container)
    return removed
  | .contains =>
    ofExcept (call.expect 2)
    let value ← ofExcept (call.argument 1)
    let container ← ofExcept (call.argument 0)
    return .boolean (← alloc (Alloc.contains container value))
  | .keys =>
    ofExcept (call.expect 1)
    let cell := (← get).store.dict (← ofExcept (call.dict 0))
    alloc (Alloc.newList cell.key (cell.entries.map Prod.fst))
  | .values =>
    ofExcept (call.expect 1)
    let cell := (← get).store.dict (← ofExcept (call.dict 0))
    alloc (Alloc.newList cell.value (cell.entries.map Prod.snd))
  | .sort =>
    ofExcept (call.expect 1)
    let cell := (← get).store.list (← ofExcept (call.list 0))
    let items ← ofExcept (sortValues cell.items)
    alloc (Alloc.newList cell.element items)
  | .slice =>
    ofExcept (call.expect 3)
    let first ← ofExcept (call.int 1)
    let last ← ofExcept (call.int 2)
    alloc (Alloc.slice (← ofExcept (call.argument 0)) first last)
  | .localScope => alloc (Alloc.scopeDict (← get).scopes.currentListing)
  | .globalScope => alloc (Alloc.scopeDict (← get).scopes.globalListing)

end Eval

end ReactiveScript
