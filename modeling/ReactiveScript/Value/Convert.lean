import ReactiveScript.Value.Reading

/-! # Implicit conversion

Declared types and the tags of containers convert what is stored under them: integers widen to the
other numbers, what has no value becomes the zero of the type, and a container that carries other
tags is copied item by item. A container whose tags fit is kept as it is, handle and all. -/

namespace ReactiveScript

/-- The entries after a key is given a value: in place if the key is there, else at the end. The
keys are compared while a container is shut. -/
def Store.setEntry (store : Store) (shut : Option Container) (key value : Value) :
    List (Value × Value) → Option (List (Value × Value))
  | [] => return [(key, value)]
  | (other, old) :: rest => do
    if ← store.sameBeside shut other key then return (other, value) :: rest
    else return (other, old) :: (← store.setEntry shut key value rest)

namespace Value

/-- The value of a type that a declaration without a value gives. -/
def zeroOf : Ty → Alloc Value
  | .int => return .int 0
  | .float => return .float 0
  | .complex => return .complex 0 0
  | .boolean => return .boolean false
  | .text => return .text ""
  | .void => return .void
  | .any => return .untyped
  | .list element => Alloc.newList element []
  | .dict key value => Alloc.newDict key value []
  | .unknown name => Alloc.fail (.unknownType name)

/-- Whether a tag admits what another tag admits without conversion. -/
def tagFits (wanted present : Ty) : Bool := wanted.isAny || wanted = present

/-- Converts the entries of a dictionary one after the other; of two keys that become the same the
first keeps its place and the second gives the value. -/
def convertEntries (convertKey convertValue : Value → Alloc Value) :
    List (Value × Value) → List (Value × Value) → Alloc (List (Value × Value))
  | done, [] => return done
  | done, (key, value) :: rest => do
    let newKey ← convertKey key
    let newValue ← convertValue value
    let store ← get
    let set ← store.setEntry none newKey newValue done
    convertEntries convertKey convertValue set rest

/-- Converts a value to a type. -/
def coerce : Ty → Value → Alloc Value
  | .any, value => return value
  | .unknown name, _ => Alloc.fail (.unknownType name)
  | .void, _ => return .void
  | target, .void => zeroOf target
  | target, .untyped => zeroOf target
  | .int, .int n => return .int n
  | .float, .float x => return .float x
  | .complex, .complex re im => return .complex re im
  | .boolean, .boolean b => return .boolean b
  | .text, .text s => return .text s
  | .float, .int n => return .float (Number.ofWord n)
  | .complex, .int n => return .complex (Number.ofWord n) 0
  | .complex, .float x => return .complex x 0
  | .list element, .list handle => do
    let cell := (← get).list handle
    if tagFits element cell.element then return .list handle
    else
      let items ← cell.items.mapM (coerce element)
      Alloc.newList element items
  | .dict key value, .dict handle => do
    let cell := (← get).dict handle
    if tagFits key cell.key && tagFits value cell.value then return .dict handle
    else
      let entries ← convertEntries (coerce key) (coerce value) [] cell.entries
      Alloc.newDict key value entries
  | target, value => Alloc.fail (.mismatch target.render value.kindName)

end Value

end ReactiveScript
