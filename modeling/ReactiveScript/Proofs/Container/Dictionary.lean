import Mathlib.Data.List.Nodup
import ReactiveScript.Proofs.Container.Lookup
import ReactiveScript.Proofs.Store.Conform

/-! # Dictionaries are maps that remember the order of their keys

A dictionary of the store is a list of entries that is searched from the front. Beside it stands
`OrderedMap`, a map together with the order in which its keys came: a key that is set again keeps
its place, and a key that is removed and set again comes last. The main statement is
`dict_history`: whatever is done to a new dictionary, one step after the other, every step answers
what the map answers. Keys are what is compared by kind and content (`PlainKey`); what is stored
under them is arbitrary. -/

namespace ReactiveScript

/-! ## Keys -/

/-- A key that is compared by its kind and content: neither a floating-point or complex number nor a
container. -/
inductive PlainKey where
  | int (value : Int64)
  | boolean (value : Bool)
  | text (value : String)
  | void
  | untyped
deriving DecidableEq, Repr

namespace PlainKey

/-- The key as a value. -/
def value : PlainKey → Value
  | .int n => .int n
  | .boolean b => .boolean b
  | .text s => .text s
  | .void => .void
  | .untyped => .untyped

/-- Two keys are the same value only if they are the same key, whatever the store holds and whatever
is shut: nothing is opened. -/
@[simp] theorem sameBeside_value (store : Store) (shut : Option Container) (key other : PlainKey) :
    store.sameBeside shut key.value other.value = some (decide (key = other)) := by
  have opened : store.sameBeside shut key.value other.value
      = some (key.value.samePlain other.value) := by
    cases key <;> cases other <;> rfl
  rw [opened]
  congr 1
  cases key <;> cases other <;> simp [value, Value.samePlain, beq_eq_decide]

/-- Two keys are the same value only if they are the same key. -/
theorem same_value_iff {store : Store} {key other : PlainKey} :
    store.same key.value other.value = some true ↔ key = other := by
  rw [Store.same, sameBeside_value, Option.some.injEq, decide_eq_true_iff]

end PlainKey

/-! ## The map -/

/-- **A finite map with the order of its keys.** -/
@[ext] structure OrderedMap where
  /-- The value under a key. -/
  value? : PlainKey → Option Value
  /-- The keys in the order in which they came. -/
  order : List PlainKey
  /-- No key stands twice in the order. -/
  nodup : order.Nodup
  /-- The order names exactly the keys that have a value. -/
  mem_order : ∀ key, key ∈ order ↔ (value? key).isSome = true

namespace OrderedMap

variable (map : OrderedMap) (key : PlainKey)

/-- The map without keys. -/
def empty : OrderedMap where
  value? _ := none
  order := []
  nodup := .nil
  mem_order := by simp

/-- The map after a key is given a value. The key keeps its place, or comes last if it is new. -/
def set (value : Value) : OrderedMap where
  value? other := if other = key then some value else map.value? other
  order := if key ∈ map.order then map.order else map.order ++ [key]
  nodup := by
    split
    · exact map.nodup
    · rename_i absent
      refine List.nodup_append.mpr ⟨map.nodup, by simp, ?_⟩
      rintro other mem _ (_ | ⟨_, ⟨⟩⟩) rfl
      exact absent mem
  mem_order other := by
    have known := map.mem_order other
    by_cases same : other = key
    · subst same
      split <;> simp_all
    · split <;> simp [same, known]

/-- The map after a key is taken out. -/
def remove : OrderedMap where
  value? other := if other = key then none else map.value? other
  order := map.order.erase key
  nodup := map.nodup.erase key
  mem_order other := by
    rw [map.nodup.mem_erase_iff, map.mem_order]
    by_cases same : other = key <;> simp [same]

/-- The value under a key, or nothing. -/
def get : Value := (map.value? key).getD .void

/-- The keys with their values, in order. -/
def listing : List (Value × Value) := map.order.map fun key => (key.value, map.get key)

end OrderedMap

/-! ## Entries that spell a map -/

section Entries

variable {store : Store} {shut : Option Container} {key : PlainKey} {order : List PlainKey}
variable {get : PlainKey → Value}

/-- A key that is not in the order is told apart from all keys. -/
theorem misses_spelled (absent : key ∉ order) :
    store.Misses shut key.value (order.map fun key => (key.value, get key)) := by
  intro entry mem
  obtain ⟨other, known, rfl⟩ := List.mem_map.mp mem
  rw [PlainKey.sameBeside_value, decide_eq_false (ne_of_mem_of_not_mem known absent)]

/-- A key that is in the order splits the entries. -/
theorem splits_spelled (store : Store) (shut : Option Container) (get : PlainKey → Value)
    {before : List PlainKey} (behind : List PlainKey) (absent : key ∉ before) :
    store.Splits shut key.value ((before ++ key :: behind).map fun key => (key.value, get key))
      (before.map fun key => (key.value, get key)) (key.value, get key)
      (behind.map fun key => (key.value, get key)) :=
  ⟨by simp, misses_spelled absent, by simp⟩

/-- What is under one key of an order does not matter to the others. -/
theorem map_congr_of_not_mem {get' : PlainKey → Value}
    (others : ∀ other, other ≠ key → get other = get' other) (absent : key ∉ order) :
    (order.map fun key => (key.value, get key)) = order.map fun key => (key.value, get' key) := by
  refine List.map_congr_left fun other mem => ?_
  rw [others other (ne_of_mem_of_not_mem mem absent)]

end Entries

namespace OrderedMap

variable {store : Store} {shut : Option Container} {map : OrderedMap} {key : PlainKey}

/-- A key that is set has its value. -/
@[simp] theorem get_set_self {value : Value} : (map.set key value).get key = value := by
  simp [get, set]

/-- A key that is set leaves the others alone. -/
theorem get_set_of_ne {value : Value} {other : PlainKey} (differs : other ≠ key) :
    map.get other = (map.set key value).get other := by
  simp [get, set, differs]

/-- A key that is taken out leaves the others alone. -/
theorem get_remove_of_ne {other : PlainKey} (differs : other ≠ key) :
    map.get other = (map.remove key).get other := by
  simp [get, remove, differs]

/-- A key keeps its place. -/
theorem order_set_of_mem {value : Value} (mem : key ∈ map.order) :
    (map.set key value).order = map.order := if_pos mem

/-- A new key comes last. -/
theorem order_set_of_not_mem {value : Value} (absent : key ∉ map.order) :
    (map.set key value).order = map.order ++ [key] := if_neg absent

/-- A key that has no value is told apart from the keys of the entries. -/
theorem misses_listing (absent : map.value? key = none) :
    store.Misses shut key.value map.listing :=
  misses_spelled (by simp [map.mem_order, absent])

/-- A key that has a value stands at one place of the order. -/
theorem order_split {value : Value} (found : map.value? key = some value) :
    ∃ before behind, map.order = before ++ key :: behind ∧ key ∉ before ∧ key ∉ behind := by
  obtain ⟨before, behind, split⟩ :=
    List.append_of_mem ((map.mem_order key).mpr (Option.isSome_of_mem found))
  have nodup := map.nodup
  rw [split, List.nodup_middle, List.nodup_cons, List.mem_append, not_or] at nodup
  exact ⟨before, behind, split, nodup.1⟩

/-- **Searching the entries is looking into the map.** -/
theorem findEntry_listing : store.findEntry key.value map.listing = some (map.value? key) := by
  cases found : map.value? key with
  | none => exact (misses_listing found).findEntry_eq
  | some value =>
    obtain ⟨before, behind, split, absent, -⟩ := order_split found
    have splits := splits_spelled store none map.get behind absent
    rw [listing, split, splits.entries, splits.misses.findEntry_append splits.same, get, found,
      Option.getD_some]

/-- **Setting an entry is setting a key of the map.** -/
theorem setEntry_listing {value : Value} :
    store.setEntry shut key.value value map.listing = some (map.set key value).listing := by
  cases found : map.value? key with
  | none =>
    have absent : key ∉ map.order := by simp [map.mem_order, found]
    rw [(misses_listing found).setEntry_eq, listing, listing, order_set_of_not_mem absent,
      map_congr_of_not_mem (fun _ => get_set_of_ne) absent, List.map_append, List.map_singleton,
      get_set_self]
  | some old =>
    obtain ⟨before, behind, split, absent, absent'⟩ := order_split found
    have mem : key ∈ map.order := by simp [split]
    have splits := splits_spelled store shut map.get behind absent
    rw [listing, split, splits.setEntry_eq, listing, order_set_of_mem mem, split,
      map_congr_of_not_mem (fun _ => get_set_of_ne) absent,
      map_congr_of_not_mem (fun _ => get_set_of_ne) absent', List.map_append, List.map_cons,
      get_set_self]

/-- Removing a key that is not there changes nothing. -/
theorem remove_eq_self (absent : map.value? key = none) : map.remove key = map := by
  have unknown : key ∉ map.order := by simp [map.mem_order, absent]
  have values : (map.remove key).value? = map.value? := by
    funext other
    by_cases same : other = key <;> simp [remove, same, absent]
  exact OrderedMap.ext values (List.erase_of_not_mem unknown)

/-- The keys of the entries are pairwise different. -/
theorem pairwise_listing : (map.listing.map Prod.fst).Pairwise fun key other =>
    store.same key other = some false := by
  have keys : map.listing.map Prod.fst = map.order.map PlainKey.value := by simp [listing]
  rw [keys, List.pairwise_map]
  refine map.nodup.imp fun {key other} differ => ?_
  rw [Store.same, PlainKey.sameBeside_value, decide_eq_false differ]

/-- **Removing an entry is removing a key of the map.** -/
theorem removeEntry_listing :
    store.removeEntry shut key.value map.listing =
      some ((map.value? key).map fun value => (value, (map.remove key).listing)) := by
  cases found : map.value? key with
  | none => exact (misses_listing found).removeEntry_eq
  | some value =>
    obtain ⟨before, behind, split, absent, absent'⟩ := order_split found
    have splits := splits_spelled store shut map.get behind absent
    have order : (map.remove key).order = before ++ behind := by
      change map.order.erase key = _
      rw [split, List.erase_append_right _ absent, List.erase_cons_head]
    rw [listing, split, splits.removeEntry_eq, Option.map_some, listing, order, List.map_append,
      map_congr_of_not_mem (fun _ => get_remove_of_ne) absent,
      map_congr_of_not_mem (fun _ => get_remove_of_ne) absent', get, found, Option.getD_some]

end OrderedMap

/-! ## Histories -/

/-- Something that is done to a dictionary. -/
inductive DictStep where
  | set (key : PlainKey) (value : Value)
  | remove (key : PlainKey)
  | lookup (key : PlainKey)
  | contains (key : PlainKey)
  | keys
  | values
  | length

/-- What a step answers. -/
inductive DictAnswer where
  | done
  | removed (value : Option Value)
  | found (value : Value)
  | holds (answer : Bool)
  | listed (values : List Value)
  | counted (length : Nat)

namespace DictStep

/-- The step on a dictionary of the store. -/
def onStore (handle : Handle) : DictStep → Alloc DictAnswer
  | .set key value => do
    Alloc.dictSet handle key.value value
    return .done
  | .remove key => return .removed (← Alloc.dictRemove handle key.value)
  | .lookup key => return .found (← Alloc.dictGet handle key.value)
  | .contains key => return .holds (← Alloc.dictContains handle key.value)
  | .keys => return .listed (((← get).dict handle).entries.map Prod.fst)
  | .values => return .listed (((← get).dict handle).entries.map Prod.snd)
  | .length => return .counted ((← get).dict handle).entries.length

/-- The answer of the step on a map. -/
def answer (map : OrderedMap) : DictStep → DictAnswer
  | .set _ _ => .done
  | .remove key => .removed (map.value? key)
  | .lookup key => .found (map.get key)
  | .contains key => .holds (map.value? key).isSome
  | .keys => .listed (map.order.map PlainKey.value)
  | .values => .listed (map.order.map map.get)
  | .length => .counted map.order.length

/-- The map after the step. -/
def after (map : OrderedMap) : DictStep → OrderedMap
  | .set key value => map.set key value
  | .remove key => map.remove key
  | _ => map

end DictStep

namespace OrderedMap

/-- The answers of some steps on a map, one after the other. -/
def answers (map : OrderedMap) : List DictStep → List DictAnswer
  | [] => []
  | step :: rest => step.answer map :: (step.after map).answers rest

/-- The map after some steps. -/
def after (map : OrderedMap) (steps : List DictStep) : OrderedMap :=
  steps.foldl DictStep.after map

end OrderedMap

/-- A dictionary for anything that holds what a map holds, in its order. -/
structure Store.Spells (store : Store) (handle : Handle) (map : OrderedMap) : Prop where
  /-- The dictionary was given out. -/
  known : handle < store.dicts.size
  /-- Keys are taken as they are. -/
  key : (store.dict handle).key = .any
  /-- Values are taken as they are. -/
  value : (store.dict handle).value = .any
  /-- The entries are those of the map. -/
  entries : (store.dict handle).entries = map.listing

namespace Alloc

variable {store : Store} {handle : Handle} {key value : Value}

/-- Setting a key of a dictionary that takes anything sets the entry. -/
theorem run_dictSet {set : List (Value × Value)} (anyKey : (store.dict handle).key = .any)
    (anyValue : (store.dict handle).value = .any)
    (done : store.setEntry (some (.dict handle)) key value (store.dict handle).entries = some set) :
    (dictSet handle key value).run store = .ok ((), store.modifyDict handle fun cell =>
      { cell with entries := set }) := by
  have taken : ∀ value, (Value.coerce .any value).run store = .ok (value, store) := by
    intro value
    rw [Value.coerce]
    rfl
  change ((Value.coerce (store.dict handle).key key).run store >>= fun first =>
    (Value.coerce (first.2.dict handle).value value).run first.2 >>= _) = _
  rw [anyKey, taken]
  change ((Value.coerce (store.dict handle).value value).run store >>= fun second =>
    (liftM (second.2.setEntry (some (.dict handle)) key second.1
      (second.2.dict handle).entries) : Alloc _).run second.2 >>= _) = _
  rw [anyValue, taken]
  change ((liftM (store.setEntry (some (.dict handle)) key value (store.dict handle).entries) :
    Alloc _).run store >>= _) = _
  rw [done]
  rfl

end Alloc

namespace Store.Spells

variable {store : Store} {handle : Handle} {map : OrderedMap}

/-- Other entries spell another map. -/
theorem replace (spells : store.Spells handle map) (other : OrderedMap) :
    (store.modifyDict handle fun cell => { cell with entries := other.listing }).Spells handle
      other := by
  have cell := Store.dict_modifyDict spells.known
    (fun cell => { cell with entries := other.listing }) handle
  rw [if_pos rfl] at cell
  refine ⟨?_, ?_, ?_, ?_⟩
  · simpa [Store.modifyDict] using spells.known
  · rw [cell]
    exact spells.key
  · rw [cell]
    exact spells.value
  · rw [cell]

/-- **One step.** The dictionary answers what the map answers, and spells the map after the step. -/
theorem step (spells : store.Spells handle map) (step : DictStep) :
    ∃ after, (step.onStore handle).run store = .ok (step.answer map, after) ∧
      after.Spells handle (step.after map) := by
  have search (key : PlainKey) :
      store.findEntry key.value (store.dict handle).entries = some (map.value? key) := by
    rw [spells.entries, OrderedMap.findEntry_listing]
  cases step with
  | set key value =>
    have set : store.setEntry (some (.dict handle)) key.value value (store.dict handle).entries
        = some (map.set key value).listing := by
      rw [spells.entries, OrderedMap.setEntry_listing]
    refine ⟨_, ?_, spells.replace (map.set key value)⟩
    rw [DictStep.onStore, StateT.run_bind, Alloc.run_dictSet spells.key spells.value set]
    rfl
  | remove key =>
    have removed : store.removeEntry (some (.dict handle)) key.value (store.dict handle).entries
        = some ((map.value? key).map fun value => (value, (map.remove key).listing)) := by
      rw [spells.entries, OrderedMap.removeEntry_listing]
    rw [DictStep.onStore, StateT.run_bind, Alloc.run_dictRemove removed]
    cases found : map.value? key with
    | none =>
      -- There is nothing to take out, and the map without the key is the map.
      refine ⟨store, ?_, ?_⟩
      · rw [DictStep.answer, found]
        rfl
      · rw [DictStep.after, OrderedMap.remove_eq_self found]
        exact spells
    | some value =>
      refine ⟨_, ?_, spells.replace (map.remove key)⟩
      rw [DictStep.answer, found]
      rfl
  | lookup key =>
    refine ⟨store, ?_, spells⟩
    rw [DictStep.onStore, StateT.run_bind, Alloc.run_dictGet (search key)]
    rfl
  | contains key =>
    refine ⟨store, ?_, spells⟩
    rw [DictStep.onStore, StateT.run_bind, Alloc.run_dictContains (search key)]
    rfl
  | keys =>
    refine ⟨store, ?_, spells⟩
    have keys : (store.dict handle).entries.map Prod.fst = map.order.map PlainKey.value := by
      simp [spells.entries, OrderedMap.listing]
    rw [DictStep.answer, ← keys]
    rfl
  | values =>
    refine ⟨store, ?_, spells⟩
    have values : (store.dict handle).entries.map Prod.snd = map.order.map map.get := by
      simp [spells.entries, OrderedMap.listing]
    rw [DictStep.answer, ← values]
    rfl
  | length =>
    refine ⟨store, ?_, spells⟩
    have length : (store.dict handle).entries.length = map.order.length := by
      simp [spells.entries, OrderedMap.listing]
    rw [DictStep.answer, ← length]
    rfl

/-- **Some steps.** -/
theorem steps (spells : store.Spells handle map) (steps : List DictStep) :
    ∃ after, (steps.mapM (DictStep.onStore handle)).run store = .ok (map.answers steps, after) ∧
      after.Spells handle (map.after steps) := by
  induction steps generalizing store map with
  | nil => exact ⟨store, rfl, spells⟩
  | cons first rest ih =>
    obtain ⟨middle, answered, spelled⟩ := spells.step first
    obtain ⟨after, answers, spelled⟩ := ih spelled
    refine ⟨after, ?_, spelled⟩
    rw [List.mapM_cons, StateT.run_bind, answered]
    change ((rest.mapM (DictStep.onStore handle) >>= fun found => pure (_ :: found)).run middle) = _
    rw [StateT.run_bind, answers]
    rfl

end Store.Spells

/-- **A dictionary refines a map that remembers the order of its keys.** A new dictionary for
anything answers every step of every history as the map does, and holds the entries of the map in
its order, under keys that are pairwise different. -/
theorem dict_history (store : Store) (steps : List DictStep) :
    ∃ handle created after,
      (Alloc.newDict .any .any []).run store = .ok (.dict handle, created) ∧
      (steps.mapM (DictStep.onStore handle)).run created =
        .ok (OrderedMap.empty.answers steps, after) ∧
      (after.dict handle).entries = (OrderedMap.empty.after steps).listing ∧
      ((after.dict handle).entries.map Prod.fst).Pairwise fun key other =>
        after.same key other = some false := by
  have created : Store.Spells { store with dicts := store.dicts.push ⟨.any, .any, [], []⟩ }
      store.dicts.size .empty := by
    have cell := store.dict_push ⟨.any, .any, [], []⟩ store.dicts.size
    rw [if_pos rfl] at cell
    exact ⟨by simp, by rw [cell], by rw [cell], by rw [cell]; rfl⟩
  obtain ⟨after, answered, spells⟩ := created.steps steps
  refine ⟨store.dicts.size, _, after, rfl, answered, spells.entries, ?_⟩
  rw [spells.entries]
  exact OrderedMap.pairwise_listing

-- A key that is set again keeps its place; one that was removed in between comes last.
example : (OrderedMap.empty.after [.set (.text "b") .void, .set (.text "a") .void,
    .set (.int 1) .void, .set (.text "a") .untyped, .remove (.text "b"),
    .set (.text "b") .void]).order = [.text "a", .int 1, .text "b"] := by decide

end ReactiveScript
