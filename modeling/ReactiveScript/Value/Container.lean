import ReactiveScript.Number.Binary
import ReactiveScript.Value.Convert

/-! # Lists and dictionaries

The operations on one container of the store. What is stored is converted to the tags of the
container first; an index may count from the end. -/

namespace ReactiveScript

/-- The position that an index of a sequence of some length names; negative ones count from the
end. -/
def resolveIndex? (index : Int64) (length : Nat) : Option Nat :=
  let place := if index.toInt < 0 then index.toInt + length else index.toInt
  if 0 ≤ place ∧ place < length then some place.toNat else none

/-- The position that a value names in a sequence of some length. -/
def indexIn (container : String) (index : Value) (length : Nat) : Except Fault Nat :=
  match index.asInt? with
  | none => .error (Cause.indexKind container index.kindName).fault
  | some n =>
    match resolveIndex? n length with
    | some place => .ok place
    | none => .error (Cause.indexRange container n.toInt length).fault

/-- The values without the first one that is the same as a given value, if there is one. They are
compared while a container is shut. -/
def Store.removeFirst (store : Store) (shut : Option Container) (value : Value) :
    List Value → Option (Option (List Value))
  | [] => return none
  | item :: items => do
    if ← store.sameBeside shut item value then return some items
    else return (← store.removeFirst shut value items).map (item :: ·)

/-- The value under a key, if there is one. -/
def Store.findEntry (store : Store) (key : Value) : List (Value × Value) → Option (Option Value)
  | [] => return none
  | (other, value) :: entries => do
    if ← store.same other key then return some value else store.findEntry key entries

/-- The value under a key, and the entries without it, if there is one. The keys are compared while
a container is shut. -/
def Store.removeEntry (store : Store) (shut : Option Container) (key : Value) :
    List (Value × Value) → Option (Option (Value × List (Value × Value)))
  | [] => return none
  | (other, value) :: entries => do
    if ← store.sameBeside shut other key then return some (value, entries)
    else
      return (← store.removeEntry shut key entries).map fun (found, rest) =>
        (found, (other, value) :: rest)

/-- The rank of a number in the order that sorts numbers: by size, negative zero before zero, and
what is no number last. -/
def numberRank (x : Float) : Int :=
  let magnitude : Int := (x.toBits.toNat % Nat.pow 2 63 : Nat)
  if Number.isNegative x && !x.isNaN then -magnitude - 1 else magnitude

/-- The values with their ranks, if all are real numbers. -/
def numberRanks? (items : List Value) : Option (List (Int × Value)) :=
  items.mapM fun item => item.asFloat?.map fun x => (numberRank x, item)

/-- The values with their texts, if all are texts. -/
def textRanks? (items : List Value) : Option (List (String × Value)) :=
  items.mapM fun item => item.asText?.map fun s => (s, item)

/-- The values in ascending order: numbers by size or texts by their characters, where equal ones
keep their order. -/
def sortValues (items : List Value) : Except Fault (List Value) :=
  match numberRanks? items with
  | some ranked => .ok ((ranked.mergeSort fun left right => left.1 ≤ right.1).map Prod.snd)
  | none =>
    match textRanks? items with
    | some ranked => .ok ((ranked.mergeSort fun left right => left.1 ≤ right.1).map Prod.snd)
    | none => .error Cause.unsortable.fault

/-- The names after one more, unless it is there. -/
def addName (name : String) (names : List String) : List String :=
  if names.contains name then names else names ++ [name]

namespace Alloc

/-- The item of a list at an index. -/
def listGet (handle : Handle) (index : Value) : Alloc Value := do
  let items := ((← get).list handle).items
  let place ← indexIn "list" index items.length
  return items.getD place .void

/-- Gives the item of a list at an index a new value. -/
def listSet (handle : Handle) (index value : Value) : Alloc Unit := do
  let stored ← Value.coerce ((← get).list handle).element value
  let place ← indexIn "list" index ((← get).list handle).items.length
  modify (·.modifyList handle fun cell => { cell with items := cell.items.set place stored })

/-- Puts a value behind the items of a list. -/
def listPush (handle : Handle) (value : Value) : Alloc Unit := do
  let stored ← Value.coerce ((← get).list handle).element value
  modify (·.modifyList handle fun cell => { cell with items := cell.items ++ [stored] })

/-- Takes the first item that is the same as a value out of a list, and tells whether there was one.
The list is shut meanwhile. -/
def listRemove (handle : Handle) (value : Value) : Alloc Bool := do
  let store ← get
  match ← store.removeFirst (some (.list handle)) value (store.list handle).items with
  | none => return false
  | some items =>
    set (store.modifyList handle fun cell => { cell with items })
    return true

/-- Whether a list holds the same value. -/
def listContains (handle : Handle) (value : Value) : Alloc Bool := do
  let store ← get
  liftM ((store.list handle).items.anyM (store.same · value))

/-- Puts the items of a list into ascending order. -/
def listSort (handle : Handle) : Alloc Unit := do
  let sorted ← sortValues ((← get).list handle).items
  modify (·.modifyList handle fun cell => { cell with items := sorted })

/-- Notes that a watched variable holds a list. -/
def listSubscribe (handle : Handle) (name : String) : Alloc Unit :=
  modify (·.modifyList handle fun cell =>
    { cell with subscribers := addName name cell.subscribers })

/-- The value under a key of a dictionary, nothing if the key is not there. -/
def dictGet (handle : Handle) (key : Value) : Alloc Value := do
  let store ← get
  let found ← store.findEntry key (store.dict handle).entries
  return found.getD .void

/-- Whether a dictionary has a key. -/
def dictContains (handle : Handle) (key : Value) : Alloc Bool := do
  let store ← get
  let found ← store.findEntry key (store.dict handle).entries
  return found.isSome

/-- Gives a key of a dictionary a value. The dictionary is shut while the keys are compared. -/
def dictSet (handle : Handle) (key value : Value) : Alloc Unit := do
  let storedKey ← Value.coerce ((← get).dict handle).key key
  let stored ← Value.coerce ((← get).dict handle).value value
  let store ← get
  let entries ← store.setEntry (some (.dict handle)) storedKey stored (store.dict handle).entries
  set (store.modifyDict handle fun cell => { cell with entries })

/-- Takes a key out of a dictionary and gives the value that was under it. The dictionary is shut
while the keys are compared. -/
def dictRemove (handle : Handle) (key : Value) : Alloc (Option Value) := do
  let store ← get
  match ← store.removeEntry (some (.dict handle)) key (store.dict handle).entries with
  | none => return none
  | some (value, entries) =>
    set (store.modifyDict handle fun cell => { cell with entries })
    return some value

/-- Notes that a watched variable holds a dictionary. -/
def dictSubscribe (handle : Handle) (name : String) : Alloc Unit :=
  modify (·.modifyDict handle fun cell =>
    { cell with subscribers := addName name cell.subscribers })

/-- A new list of values that are converted to a type first. -/
def typedList (element : Ty) (items : List Value) : Alloc Value := do
  let converted ← items.mapM (Value.coerce element)
  newList element converted

/-- A new dictionary of entries that are converted to types first. -/
def typedDict (key value : Ty) (entries : List (Value × Value)) : Alloc Value := do
  let converted ← Value.convertEntries (Value.coerce key) (Value.coerce value) [] entries
  newDict key value converted

end Alloc

end ReactiveScript
