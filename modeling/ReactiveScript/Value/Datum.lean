import ReactiveScript.Value.Basic

/-! # Values as trees

A value with all that is inside it is a tree. `Store.view` looks at a value from outside: a
container that stands inside itself is cut off at its second occurrence, so that there always is a
tree. A program that goes through a value does not look out for that (`Store.readWithin`). -/

namespace ReactiveScript

/-- A container by its kind and handle. -/
inductive Container where
  | list (handle : Handle)
  | dict (handle : Handle)
deriving DecidableEq, Repr, Inhabited

/-- A value with the contents of its containers. -/
inductive Datum where
  | int (value : Int64)
  | float (value : Float)
  | complex (re im : Float)
  | boolean (value : Bool)
  | text (value : String)
  | void
  | untyped
  | list (handle : Handle) (element : Ty) (items : List Datum)
  | dict (handle : Handle) (key value : Ty) (entries : List (Datum × Datum))
  /-- A container inside itself. -/
  | cycle (container : Container)
deriving Inhabited

/-- The tree of a value below some ancestors, cut off after `depth` containers. -/
def Store.viewBelow (store : Store) : Nat → List Container → Value → Datum
  | _, _, .int n => .int n
  | _, _, .float x => .float x
  | _, _, .complex re im => .complex re im
  | _, _, .boolean b => .boolean b
  | _, _, .text s => .text s
  | _, _, .void => .void
  | _, _, .untyped => .untyped
  | 0, _, .list handle => .cycle (.list handle)
  | 0, _, .dict handle => .cycle (.dict handle)
  | depth + 1, above, .list handle =>
    if above.contains (.list handle) then .cycle (.list handle)
    else
      let cell := store.list handle
      .list handle cell.element (cell.items.map (store.viewBelow depth (.list handle :: above)))
  | depth + 1, above, .dict handle =>
    if above.contains (.dict handle) then .cycle (.dict handle)
    else
      let cell := store.dict handle
      let inner := store.viewBelow depth (.dict handle :: above)
      .dict handle cell.key cell.value
        (cell.entries.map fun (key, value) => (inner key, inner value))

/-- The tree of a value. Below more ancestors than there are containers one stands twice. -/
def Store.view (store : Store) (value : Value) : Datum :=
  store.viewBelow (store.size + 1) [] value

namespace Datum

/-- The container that a tree stands for. -/
def container? : Datum → Option Container
  | .list handle _ _ => some (.list handle)
  | .dict handle _ _ _ => some (.dict handle)
  | .cycle container => some container
  | _ => none

mutual

/-- Whether two trees are alike: of one kind, with contents alike in order; tags do not count. -/
def alike : Datum → Datum → Bool
  | .int m, .int n => m == n
  | .float x, .float y => x == y
  | .complex a b, .complex c d => a == c && b == d
  | .boolean a, .boolean b => a == b
  | .text s, .text t => s == t
  | .void, .void => true
  | .untyped, .untyped => true
  | .list one _ items, .list other _ others => one == other || alikeItems items others
  | .dict one _ _ entries, .dict other _ _ others => one == other || alikeEntries entries others
  | .cycle container, other => other.container? == some container
  | other, .cycle container => other.container? == some container
  | _, _ => false

/-- Whether two lists of trees are alike item by item. -/
def alikeItems : List Datum → List Datum → Bool
  | [], [] => true
  | item :: items, other :: others => alike item other && alikeItems items others
  | _, _ => false

/-- Whether two lists of entries are alike one by one. -/
def alikeEntries : List (Datum × Datum) → List (Datum × Datum) → Bool
  | [], [] => true
  | (key, value) :: entries, (otherKey, otherValue) :: others =>
    alike key otherKey && alike value otherValue && alikeEntries entries others
  | _, _ => false

end

mutual

/-- Whether a tree was cut off at a container inside itself. -/
def isCyclic : Datum → Bool
  | .list _ _ items => anyCyclic items
  | .dict _ _ _ entries => anyCyclicEntry entries
  | .cycle _ => true
  | _ => false

/-- Whether one of the trees was cut off. -/
def anyCyclic : List Datum → Bool
  | [] => false
  | item :: items => isCyclic item || anyCyclic items

/-- Whether one of the entries was cut off. -/
def anyCyclicEntry : List (Datum × Datum) → Bool
  | [] => false
  | (key, value) :: entries => isCyclic key || isCyclic value || anyCyclicEntry entries

end

end Datum

/-- Whether two values are alike. -/
def Store.alike (store : Store) (left right : Value) : Bool :=
  (store.view left).alike (store.view right)

end ReactiveScript
