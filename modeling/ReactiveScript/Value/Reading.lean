import ReactiveScript.Value.Datum

/-! # Going through values

Whoever reads a value opens the containers in it and those inside them, and whoever compares two
values opens them side by side. Neither looks out for containers inside themselves, so neither need
come to an end. Both are given a budget of containers that may be opened inside each other, and find
nothing where it runs out. There are budgets that are as good as any larger one, because the
containers of a store are only so many; what ends within no budget goes on for ever. -/

namespace ReactiveScript

namespace Value

/-- Whether two values are the same complex number. -/
def sameComplex (left right : Value) : Bool :=
  match left.asComplex?, right.asComplex? with
  | some (a, b), some (c, d) => a == c && b == d
  | _, _ => false

/-- Whether two values are the same without anything being opened: numbers by size across their
kinds, and everything else by kind and content. -/
def samePlain : Value → Value → Bool
  | .int m, .int n => m == n
  | .complex re im, other => sameComplex (.complex re im) other
  | .int m, .complex re im => sameComplex (.int m) (.complex re im)
  | .float x, .complex re im => sameComplex (.float x) (.complex re im)
  | .int m, .float y => Number.ofWord m == y
  | .float x, .int n => x == Number.ofWord n
  | .float x, .float y => x == y
  | .boolean a, .boolean b => a == b
  | .text s, .text t => s == t
  | .void, .void => true
  | .untyped, .untyped => true
  | _, _ => false

end Value

namespace Store

/-- The trees of a key and of a value, if both are read. -/
def readEntry (read : Value → Option Datum) (entry : Value × Value) : Option (Datum × Datum) := do
  return (← read entry.1, ← read entry.2)

/-- The tree of a value, opening at most `budget` containers inside each other; nothing if that is
not enough. -/
def readWithin (store : Store) : Nat → Value → Option Datum
  | _, .int n => some (.int n)
  | _, .float x => some (.float x)
  | _, .complex re im => some (.complex re im)
  | _, .boolean b => some (.boolean b)
  | _, .text s => some (.text s)
  | _, .void => some .void
  | _, .untyped => some .untyped
  | 0, .list _ => none
  | 0, .dict _ => none
  | budget + 1, .list handle => do
    let cell := store.list handle
    let items ← cell.items.mapM (store.readWithin budget)
    return .list handle cell.element items
  | budget + 1, .dict handle => do
    let cell := store.dict handle
    let entries ← cell.entries.mapM (readEntry (store.readWithin budget))
    return .dict handle cell.key cell.value entries

/-- Whether two entries are the same. The values are compared only where the keys are the same. -/
def sameEntry (same : Value → Value → Option Bool) (entry candidate : Value × Value) :
    Option Bool := do
  if ← same entry.1 candidate.1 then same entry.2 candidate.2 else return false

/-- Whether two values are the same, opening at most `budget` pairs of containers inside each other;
nothing if that is not enough to tell. A container is the same as itself. Items are compared until
two differ, and an entry is looked for until one is found. A container that is being changed is
`shut`: whoever opens it waits for ever. -/
def sameWithin (store : Store) (shut : Option Container) : Nat → Value → Value → Option Bool
  | 0, .list one, .list other => if one = other then some true else none
  | 0, .dict one, .dict other => if one = other then some true else none
  | budget + 1, .list one, .list other =>
    if one = other then some true
    else if shut = some (.list one) ∨ shut = some (.list other) then none
    else if (store.list one).items.length = (store.list other).items.length then
      ((store.list one).items.zip (store.list other).items).allM fun pair =>
        store.sameWithin shut budget pair.1 pair.2
    else some false
  | budget + 1, .dict one, .dict other =>
    if one = other then some true
    else if shut = some (.dict one) ∨ shut = some (.dict other) then none
    else if (store.dict one).entries.length = (store.dict other).entries.length then
      (store.dict one).entries.allM fun entry =>
        (store.dict other).entries.anyM (sameEntry (store.sameWithin shut budget) entry)
    else some false
  | _, left, right => some (left.samePlain right)

/-- The tree of a value, if reading it comes to an end: containers inside each other are different
ones, and there are no more than the store has. -/
def read (store : Store) (value : Value) : Option Datum := store.readWithin (store.size + 1) value

/-- Whether two values are the same, if comparing them comes to an end while a container is shut:
pairs of containers that are opened inside each other are different ones. -/
def sameBeside (store : Store) (shut : Option Container) (left right : Value) : Option Bool :=
  store.sameWithin shut (store.size * store.size + 1) left right

/-- Whether two values are the same, if comparing them comes to an end. -/
def same (store : Store) (left right : Value) : Option Bool := store.sameBeside none left right

end Store

end ReactiveScript
