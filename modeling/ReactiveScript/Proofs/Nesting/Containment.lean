import Mathlib.Data.List.Perm.Subperm
import Mathlib.Logic.Relation
import ReactiveScript.Proofs.Datum.View
import ReactiveScript.Proofs.Nesting.Budget

/-! # Containers inside containers

A type is definite when the type of anything stands nowhere in it. In a sound store what a container
of a definite type holds has exactly the type that the tags name, and that type is less deep. So
opening such a container, and what it holds, and so on, comes to an end: the container is not inside
itself (`Sound.not_within_self`), it is all there (`Sound.whole_of_definite`), and its tree is no
deeper than its type (`Sound.nesting_view_le`). -/

namespace ReactiveScript

namespace Ty

/-- Whether a type leaves nothing open. -/
def isDefinite : Ty → Bool
  | .any => false
  | .list element => element.isDefinite
  | .dict key value => key.isDefinite && value.isDefinite
  | _ => true

/-- How many containers stand inside each other in a value of a type, if the type is definite. -/
def nesting : Ty → Nat
  | .list element => element.nesting + 1
  | .dict key value => max key.nesting value.nesting + 1
  | _ => 0

end Ty

namespace Datum

mutual

/-- How many containers stand inside each other in a tree. -/
def nesting : Datum → Nat
  | .list _ _ items => nestingOfItems items + 1
  | .dict _ _ _ entries => nestingOfEntries entries + 1
  | _ => 0

/-- How many containers stand inside each other in the items of a list. -/
def nestingOfItems : List Datum → Nat
  | [] => 0
  | item :: items => max item.nesting (nestingOfItems items)

/-- How many containers stand inside each other in the keys and values of a dictionary. -/
def nestingOfEntries : List (Datum × Datum) → Nat
  | [] => 0
  | (key, value) :: entries => max (max key.nesting value.nesting) (nestingOfEntries entries)

end

theorem nestingOfItems_le_iff {items : List Datum} {bound : Nat} :
    nestingOfItems items ≤ bound ↔ ∀ item ∈ items, item.nesting ≤ bound := by
  induction items with
  | nil => simp [nestingOfItems]
  | cons item items ih => rw [nestingOfItems, Nat.max_le, ih, List.forall_mem_cons]

theorem nestingOfEntries_le_iff {entries : List (Datum × Datum)} {bound : Nat} :
    nestingOfEntries entries ≤ bound ↔
      ∀ entry ∈ entries, entry.1.nesting ≤ bound ∧ entry.2.nesting ≤ bound := by
  induction entries with
  | nil => simp [nestingOfEntries]
  | cons entry entries ih =>
    obtain ⟨key, value⟩ := entry
    rw [nestingOfEntries, Nat.max_le, Nat.max_le, ih, List.forall_mem_cons]

end Datum

namespace Value

/-- The container that a value is, if it is one. -/
def container? : Value → Option Container
  | .list handle => some (.list handle)
  | .dict handle => some (.dict handle)
  | _ => none

theorem container?_eq_some_iff {value : Value} {container : Container} :
    value.container? = some container ↔ value = container.value := by
  cases value <;> cases container <;> simp [container?, Container.value]

end Value

namespace Store

variable {store : Store} {type : Ty} {value : Value} {handle : Handle}

/-- Whether a container holds another one as an item, as a key or as a value. -/
def Contains (store : Store) : Container → Container → Prop
  | .list handle, inner => inner.value ∈ (store.list handle).items
  | .dict handle, inner =>
    ∃ entry ∈ (store.dict handle).entries, entry.1 = inner.value ∨ entry.2 = inner.value

/-- Equality of values is not decidable, but that of the containers that they are is. -/
theorem contains_list_iff {inner : Container} :
    store.Contains (.list handle) inner ↔
      some inner ∈ (store.list handle).items.map Value.container? := by
  simp [Contains, Value.container?_eq_some_iff]

/-- Whether a container is reached by opening another one, what that one holds, and so on. -/
def Within (store : Store) (outer inner : Container) : Prop :=
  Relation.TransGen store.Contains outer inner

/-- Whether the type of a value leaves nothing open. -/
def Definite (store : Store) (value : Value) : Prop := (value.typeIn store).isDefinite = true

/-! ## What containers of a definite type hold -/

/-- **What conforms to a definite type has that type.** A tag that admits anything would let a
container with another tag pass. -/
theorem typeIn_of_conforms (definite : type.isDefinite = true)
    (conforms : store.Conforms type value) : value.typeIn store = type := by
  cases type with
  | any => cases definite
  | list element =>
    cases value with
    | list handle =>
      obtain rfl | same := conforms
      · cases definite
      · exact congrArg Ty.list same
    | _ => cases conforms
  | dict key value' =>
    cases value with
    | dict handle =>
      have parts : key.isDefinite = true ∧ value'.isDefinite = true := by
        simpa [Ty.isDefinite] using definite
      obtain ⟨rfl | sameKey, rfl | sameValue⟩ := conforms
      -- A tag that admits anything is no part of a definite type.
      · cases parts.1
      · cases parts.1
      · cases parts.2
      · exact congrArg₂ Ty.dict sameKey sameValue
    | _ => cases conforms
  | _ => cases value <;> first | rfl | cases conforms

theorem definite_dict_iff : store.Definite (.dict handle) ↔
    (store.dict handle).key.isDefinite = true ∧ (store.dict handle).value.isDefinite = true := by
  simp [Definite, Value.typeIn, Ty.isDefinite]

/-- The items of a list of a definite type have the type of its tag. -/
theorem Sound.typeIn_item (sound : store.Sound) (definite : store.Definite (.list handle))
    {item : Value} (mem : item ∈ (store.list handle).items) :
    item.typeIn store = (store.list handle).element :=
  typeIn_of_conforms definite (sound.items handle item mem).2

/-- The keys of a dictionary of a definite type have the type of its first tag, and the values that
of its second. -/
theorem Sound.typeIn_entry (sound : store.Sound) (definite : store.Definite (.dict handle))
    {entry : Value × Value} (mem : entry ∈ (store.dict handle).entries) :
    entry.1.typeIn store = (store.dict handle).key ∧
      entry.2.typeIn store = (store.dict handle).value := by
  obtain ⟨key, value⟩ := definite_dict_iff.mp definite
  exact ⟨typeIn_of_conforms key (sound.keys handle entry mem).2,
    typeIn_of_conforms value (sound.values handle entry mem).2⟩

/-- **The items of a list of a definite type are of a definite type that is less deep.** -/
theorem Sound.definite_item (sound : store.Sound) (definite : store.Definite (.list handle))
    {item : Value} (mem : item ∈ (store.list handle).items) :
    store.Definite item ∧
      (item.typeIn store).nesting < ((Value.list handle).typeIn store).nesting := by
  have same := sound.typeIn_item definite mem
  refine ⟨?_, ?_⟩
  · rw [Definite, same]
    exact definite
  · rw [same]
    exact Nat.lt_succ_self _

/-- **The keys and values of a dictionary of a definite type are of definite types that are less
deep.** -/
theorem Sound.definite_entry (sound : store.Sound) (definite : store.Definite (.dict handle))
    {entry : Value × Value} (mem : entry ∈ (store.dict handle).entries) :
    (store.Definite entry.1 ∧
      (entry.1.typeIn store).nesting < ((Value.dict handle).typeIn store).nesting) ∧
    store.Definite entry.2 ∧
      (entry.2.typeIn store).nesting < ((Value.dict handle).typeIn store).nesting := by
  obtain ⟨sameKey, sameValue⟩ := sound.typeIn_entry definite mem
  obtain ⟨key, value⟩ := definite_dict_iff.mp definite
  rw [Definite, Definite, sameKey, sameValue]
  refine ⟨⟨key, ?_⟩, value, ?_⟩
  · exact Nat.lt_succ_of_le (Nat.le_max_left _ _)
  · exact Nat.lt_succ_of_le (Nat.le_max_right _ _)

/-! ## No container of a definite type is inside itself -/

/-- One container inside another. -/
theorem Sound.definite_of_contains (sound : store.Sound) {outer inner : Container}
    (definite : store.Definite outer.value) (contains : store.Contains outer inner) :
    store.Definite inner.value ∧
      (inner.value.typeIn store).nesting < (outer.value.typeIn store).nesting := by
  cases outer with
  | list handle => exact sound.definite_item definite contains
  | dict handle =>
    obtain ⟨entry, mem, key | value⟩ := contains
    · rw [← key]
      exact (sound.definite_entry definite mem).1
    · rw [← value]
      exact (sound.definite_entry definite mem).2

/-- Any number of containers inside each other. -/
theorem Sound.definite_of_within (sound : store.Sound) {outer inner : Container}
    (definite : store.Definite outer.value) (within : store.Within outer inner) :
    store.Definite inner.value ∧
      (inner.value.typeIn store).nesting < (outer.value.typeIn store).nesting := by
  induction within with
  | single contains => exact sound.definite_of_contains definite contains
  | tail _ contains ih =>
    obtain ⟨definite', less⟩ := sound.definite_of_contains ih.1 contains
    exact ⟨definite', Nat.lt_trans less ih.2⟩

/-- **A container of a definite type is not inside itself.** -/
theorem Sound.not_within_self (sound : store.Sound) {container : Container}
    (definite : store.Definite container.value) : ¬ store.Within container container :=
  fun within => Nat.lt_irrefl _ (sound.definite_of_within definite within).2

/-! ## A container of a definite type is all there -/

/-- **A store is sound when the containers that were given out hold what their tags say.** -/
theorem sound_of_known
    (lists : ∀ handle < store.lists.size, ∀ item ∈ (store.list handle).items,
      store.Admits (store.list handle).element item)
    (dicts : ∀ handle < store.dicts.size, ∀ entry ∈ (store.dict handle).entries,
      store.Admits (store.dict handle).key entry.1 ∧
        store.Admits (store.dict handle).value entry.2) : store.Sound := by
  have entries (handle : Handle) : ∀ entry ∈ (store.dict handle).entries,
      store.Admits (store.dict handle).key entry.1 ∧
        store.Admits (store.dict handle).value entry.2 := by
    by_cases known : handle < store.dicts.size
    · exact dicts handle known
    · simp [dict_of_unknown known]
  refine ⟨fun handle => ?_, fun handle entry mem => (entries handle entry mem).1,
    fun handle entry mem => (entries handle entry mem).2⟩
  by_cases known : handle < store.lists.size
  · exact lists handle known
  · simp [list_of_unknown known]

/-- A container of a definite type was given out. -/
theorem holds_of_definite (definite : store.Definite value) : store.Holds value := by
  cases value with
  | list handle =>
    by_contra unknown
    simp [Definite, Value.typeIn, list_of_unknown unknown, Ty.isDefinite] at definite
  | dict handle =>
    by_contra unknown
    simp [Definite, Value.typeIn, dict_of_unknown unknown, Ty.isDefinite] at definite
  | _ => trivial

/-- A container that holds another one was given out. -/
theorem holds_of_contains {outer inner : Container} (contains : store.Contains outer inner) :
    store.Holds outer.value := by
  by_contra unknown
  cases outer with
  | list handle => simp [Contains, list_of_unknown unknown] at contains
  | dict handle => simp [Contains, dict_of_unknown unknown] at contains

/-- The containers of a store. -/
def containers (store : Store) : List Container :=
  (List.range store.lists.size).map .list ++ (List.range store.dicts.size).map .dict

/-- No more different containers than the store has are in the store. -/
theorem length_le_size {above : List Container} (distinct : above.Nodup)
    (held : ∀ container ∈ above, store.Holds container.value) : above.length ≤ store.size := by
  have known : above ⊆ store.containers := by
    intro container mem
    have here := held container mem
    cases container with
    | list handle => simpa [containers, Container.value, Holds] using here
    | dict handle => simpa [containers, Container.value, Holds] using here
  -- Different elements of a list are no more than its elements.
  have fits := (List.Nodup.subperm distinct known).length_le
  simpa [containers, size] using fits

/-- What reading a value below some containers gives when the types get less and less deep: nothing
is cut off, and the tree is no deeper than the type. -/
structure ReadsWhole (store : Store) (value : Value) (tree : Datum) : Prop where
  acyclic : tree.isCyclic = false
  held : ∀ part ∈ tree.parts, store.Holds part.value
  shallow : tree.nesting ≤ (value.typeIn store).nesting

/-- **A value of a definite type is read to its end.** The containers above it are of deeper types,
so it is none of them; and they are different from each other, so that there is room for one more
until all containers of the store are above it. -/
theorem Sound.readsWhole (sound : store.Sound) {depth : Nat} {above : List Container}
    (definite : store.Definite value) (distinct : above.Nodup)
    (held : ∀ container ∈ above, store.Holds container.value)
    (deeper : ∀ container ∈ above,
      (value.typeIn store).nesting < (container.value.typeIn store).nesting)
    (room : store.size < depth + above.length) :
    store.ReadsWhole value (store.viewBelow depth above value) := by
  induction depth generalizing above value with
  | zero =>
    -- More different containers would be above the value than there are.
    have := length_le_size distinct held
    omega
  | succ depth ih =>
    have new (container : Container) (here : value = container.value) : container ∉ above := by
      intro mem
      exact Nat.lt_irrefl _ (here ▸ deeper container mem)
    -- What the container holds is read below the container too.
    have inside (container : Container) (here : value = container.value) {part : Value}
        (definite' : store.Definite part)
        (less : (part.typeIn store).nesting < (value.typeIn store).nesting) :
        store.ReadsWhole part (store.viewBelow depth (container :: above) part) := by
      refine ih definite' (List.nodup_cons.mpr ⟨new container here, distinct⟩) ?_ ?_ ?_
      · exact List.forall_mem_cons.mpr ⟨here ▸ holds_of_definite definite, held⟩
      · exact List.forall_mem_cons.mpr
          ⟨here ▸ less, fun other mem => Nat.lt_trans less (deeper other mem)⟩
      · rw [List.length_cons]
        omega
    cases value with
    | list handle =>
      have each : ∀ item ∈ (store.list handle).items, store.ReadsWhole item
          (store.viewBelow depth (.list handle :: above) item) := by
        intro item mem
        obtain ⟨definite', less⟩ := sound.definite_item definite mem
        exact inside (.list handle) rfl definite' less
      simp only [viewBelow_list, List.contains_iff_mem, new (.list handle) rfl, if_false]
      refine ⟨Datum.anyCyclic_iff.mpr ?_, Datum.forall_parts_list.mpr ⟨?_, ?_⟩, ?_⟩
      · exact List.forall_mem_map.mpr fun item mem => (each item mem).acyclic
      · exact holds_of_definite definite
      · exact List.forall_mem_map.mpr fun item mem => (each item mem).held
      · refine Nat.succ_le_succ (Datum.nestingOfItems_le_iff.mpr (List.forall_mem_map.mpr ?_))
        intro item mem
        rw [← sound.typeIn_item definite mem]
        exact (each item mem).shallow
    | dict handle =>
      have each : ∀ entry ∈ (store.dict handle).entries,
          store.ReadsWhole entry.1 (store.viewBelow depth (.dict handle :: above) entry.1) ∧
          store.ReadsWhole entry.2 (store.viewBelow depth (.dict handle :: above) entry.2) := by
        intro entry mem
        obtain ⟨⟨definiteKey, lessKey⟩, definiteValue, lessValue⟩ :=
          sound.definite_entry definite mem
        exact ⟨inside (.dict handle) rfl definiteKey lessKey,
          inside (.dict handle) rfl definiteValue lessValue⟩
      simp only [viewBelow_dict, List.contains_iff_mem, new (.dict handle) rfl, if_false]
      refine ⟨Datum.anyCyclicEntry_iff.mpr ?_, Datum.forall_parts_dict.mpr ⟨?_, ?_, ?_⟩, ?_⟩
      · exact List.forall_mem_map.mpr fun entry mem =>
          ⟨(each entry mem).1.acyclic, (each entry mem).2.acyclic⟩
      · exact holds_of_definite definite
      · exact List.forall_mem_map.mpr fun entry mem => (each entry mem).1.held
      · exact List.forall_mem_map.mpr fun entry mem => (each entry mem).2.held
      · refine Nat.succ_le_succ (Datum.nestingOfEntries_le_iff.mpr (List.forall_mem_map.mpr ?_))
        intro entry mem
        obtain ⟨sameKey, sameValue⟩ := sound.typeIn_entry definite mem
        rw [← sameKey, ← sameValue]
        exact ⟨Nat.le_trans (each entry mem).1.shallow (Nat.le_max_left _ _),
          Nat.le_trans (each entry mem).2.shallow (Nat.le_max_right _ _)⟩
    | _ =>
      refine ⟨rfl, fun part mem => ?_, Nat.zero_le _⟩
      cases List.mem_singleton.mp mem
      trivial

/-- The whole tree of a value of a definite type. -/
theorem Sound.readsWhole_view (sound : store.Sound) (definite : store.Definite value) :
    store.ReadsWhole value (store.view value) :=
  sound.readsWhole definite List.nodup_nil (by simp) (by simp) (Nat.lt_succ_self _)

/-- **A value of a definite type is all there.** -/
theorem Sound.whole_of_definite (sound : store.Sound) (definite : store.Definite value) :
    store.Whole value :=
  ⟨(sound.readsWhole_view definite).acyclic, (sound.readsWhole_view definite).held⟩

/-- **A value of a definite type is no deeper than the type.** -/
theorem Sound.nesting_view_le (sound : store.Sound) (definite : store.Definite value) :
    (store.view value).nesting ≤ (value.typeIn store).nesting :=
  (sound.readsWhole_view definite).shallow

end Store

end ReactiveScript
