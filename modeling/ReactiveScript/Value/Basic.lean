import ReactiveScript.Fault
import ReactiveScript.Number.Binary
import ReactiveScript.Ty

/-! # Values and the store of containers

A value is a scalar or the handle of a container. Containers live in a store, so that two variables
can hold the same one and see each other's changes, and a container can even hold itself. -/

namespace ReactiveScript

/-- The name of a container in the store. -/
abbrev Handle := Nat

/-- A value. -/
inductive Value where
  | int (value : Int64)
  | float (value : Float)
  | complex (re im : Float)
  | boolean (value : Bool)
  | text (value : String)
  /-- The value of what has no value. -/
  | void
  /-- The value of a variable of any type before it is given one. -/
  | untyped
  | list (handle : Handle)
  | dict (handle : Handle)
deriving Inhabited

/-- A list in the store. -/
structure ListCell where
  /-- The type that items are converted to. -/
  element : Ty
  /-- The items in order. -/
  items : List Value
  /-- The watched variables that hold or held the list. -/
  subscribers : List String

/-- A dictionary in the store. -/
structure DictCell where
  /-- The type that keys are converted to. -/
  key : Ty
  /-- The type that values are converted to. -/
  value : Ty
  /-- The keys with their values, in the order in which the keys came. -/
  entries : List (Value × Value)
  /-- The watched variables that hold or held the dictionary. -/
  subscribers : List String

/-- All containers of a running program. -/
structure Store where
  /-- The lists by handle. -/
  lists : Array ListCell
  /-- The dictionaries by handle. -/
  dicts : Array DictCell

namespace Store

/-- The store without containers. -/
def empty : Store := ⟨#[], #[]⟩

/-- The list of a handle; a handle that was never given out reads as an empty list of anything. -/
def list (store : Store) (handle : Handle) : ListCell :=
  store.lists.getD handle ⟨.any, [], []⟩

/-- The dictionary of a handle; a handle that was never given out reads as an empty dictionary. -/
def dict (store : Store) (handle : Handle) : DictCell :=
  store.dicts.getD handle ⟨.any, .any, [], []⟩

/-- Changes the list of a handle. -/
def modifyList (store : Store) (handle : Handle) (change : ListCell → ListCell) : Store :=
  { store with lists := store.lists.modify handle change }

/-- Changes the dictionary of a handle. -/
def modifyDict (store : Store) (handle : Handle) (change : DictCell → DictCell) : Store :=
  { store with dicts := store.dicts.modify handle change }

/-- How many containers the store holds. -/
def size (store : Store) : Nat := store.lists.size + store.dicts.size

end Store

/-- Why an operation or an evaluation gives no value. -/
inductive Stop where
  /-- A fault of the program. -/
  | fault (fault : Fault)
  /-- It was cut off, or would go on for ever. -/
  | exhausted

/-- The result of something that may go on for ever. -/
def ended {α : Type} : Option α → Except Stop α
  | some result => .ok result
  | none => .error .exhausted

/-- What has gone well may be followed by what goes on for ever. -/
instance : MonadLift (Except Fault) (Except Stop) := ⟨Except.mapError .fault⟩

/-- What comes to an end may be followed by what fails. -/
instance : MonadLift Option (Except Stop) := ⟨ended⟩

/-- An operation on values: it may read and change the store. Where it fails or goes on for ever the
store stays as it was. -/
abbrev Alloc := StateT Store (Except Stop)

namespace Alloc

/-- A failed operation. -/
def fail {α : Type} (cause : Cause) : Alloc α := throw (.fault cause.fault)

/-- A new list. -/
def newList (element : Ty) (items : List Value) : Alloc Value := do
  let store ← get
  set { store with lists := store.lists.push ⟨element, items, []⟩ }
  return .list store.lists.size

/-- A new dictionary with the given entries. -/
def newDict (key value : Ty) (entries : List (Value × Value)) : Alloc Value := do
  let store ← get
  set { store with dicts := store.dicts.push ⟨key, value, entries, []⟩ }
  return .dict store.dicts.size

end Alloc

namespace Value

/-- The word for the kind of a value. -/
def kindName : Value → String
  | .int _ => "int"
  | .float _ => "float"
  | .complex .. => "complex"
  | .boolean _ => "boolean"
  | .text _ => "string"
  | .void => "void"
  | .untyped => "?"
  | .list _ => "list"
  | .dict _ => "dict"

/-- The type of a value, with the tags of a container. -/
def typeIn (store : Store) : Value → Ty
  | .int _ => .int
  | .float _ => .float
  | .complex .. => .complex
  | .boolean _ => .boolean
  | .text _ => .text
  | .void => .void
  | .untyped => .any
  | .list handle => .list (store.list handle).element
  | .dict handle => .dict (store.dict handle).key (store.dict handle).value

/-- Whether a value counts as true: neither zero, nor empty, nor without a value, nor no number. -/
def truthyIn (store : Store) : Value → Bool
  | .int n => n != 0
  | .float x => x != 0 && !x.isNaN
  | .complex re im => re != 0 || im != 0
  | .boolean b => b
  | .text s => !s.isEmpty
  | .void => false
  | .untyped => false
  | .list handle => !(store.list handle).items.isEmpty
  | .dict handle => !(store.dict handle).entries.isEmpty

/-- Whether a value is a number. -/
def isNumeric : Value → Bool
  | .int _ | .float _ | .complex .. => true
  | _ => false

/-- The integer that a value is. -/
def asInt? : Value → Option Int64
  | .int n => some n
  | _ => none

/-- An integer result, or the fault of a cause where none fits. -/
def intOr (cause : Cause) : Option Int64 → Except Fault Value
  | some n => .ok (.int n)
  | none => .error cause.fault

/-- The real number that a value is. -/
def asFloat? : Value → Option Float
  | .int n => some (Number.ofWord n)
  | .float x => some x
  | _ => none

/-- The complex number that a value is. -/
def asComplex? : Value → Option (Float × Float)
  | .int n => some (Number.ofWord n, 0)
  | .float x => some (x, 0)
  | .complex re im => some (re, im)
  | _ => none

/-- The text that a value is. -/
def asText? : Value → Option String
  | .text s => some s
  | _ => none

end Value

end ReactiveScript
