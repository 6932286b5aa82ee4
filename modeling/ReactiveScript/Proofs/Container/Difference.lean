import ReactiveScript.Proofs.Container.Dictionary
import ReactiveScript.Proofs.Container.Extensionality
import ReactiveScript.Value.Operate
import Mathlib.Data.List.Count

/-! # Subtracting lists

Subtracting a list takes the first item that is the same as each of its items out of another list.
On items that are compared by kind and content (`PlainKey`) this is the difference of multisets, in
order: what stays are the items at some places (`atPlaces`), of items that are the same the earliest
ones go, and a value counts as often as before less as often as in what is subtracted
(`OrderedDifference`). The value may be any one that is the same as one item at most, in particular
any that is neither a floating-point nor a complex number; `rounding_miscounts` shows a number that
two different integers round to. -/

namespace ReactiveScript

/-! ## Keeping some places -/

section Places

variable {α β : Type} {keep : Nat → Bool}

/-- The items at the places that are kept. -/
def atPlaces (keep : Nat → Bool) : List α → List α
  | [] => []
  | item :: items =>
    if keep 0 then item :: atPlaces (fun place => keep (place + 1)) items
    else atPlaces (fun place => keep (place + 1)) items

/-- The places that are kept behind one more item, which is kept or not. -/
def placesBehind (first : Bool) (keep : Nat → Bool) : Nat → Bool
  | 0 => first
  | place + 1 => keep place

/-- Places are kept whatever stands there. -/
theorem map_atPlaces (make : α → β) (keep : Nat → Bool) (items : List α) :
    (atPlaces keep items).map make = atPlaces keep (items.map make) := by
  induction items generalizing keep with
  | nil => rfl
  | cons item items ih =>
    rw [List.map_cons, atPlaces, atPlaces]
    split
    · rw [List.map_cons, ih]
    · rw [ih]

end Places

/-! ## Taking out one item for each of some others -/

section Keys

variable {store : Store} {shut : Option Container} {key : PlainKey} {keys others : List PlainKey}

/-- **The difference keeps the keys at some places**: what is taken out is among the others, and of
equal keys the earlier ones are taken out. -/
theorem exists_diff_eq_atPlaces (keys others : List PlainKey) :
    ∃ keep : Nat → Bool, keys.diff others = atPlaces keep keys ∧
      (∀ i key, keys[i]? = some key → keep i = false → key ∈ others) ∧
      ∀ i j key, keys[i]? = some key → keys[j]? = some key → keep i = false → keep j = true →
        i < j := by
  induction keys generalizing others with
  | nil => exact ⟨fun _ => true, List.nil_diff _, by simp, by simp⟩
  | cons first rest ih =>
    by_cases taken : first ∈ others
    · -- The first key goes, and takes one of the others with it.
      obtain ⟨keep, stays, among, earliest⟩ := ih (others.erase first)
      refine ⟨placesBehind false keep, ?_, ?_, ?_⟩
      · rw [List.cons_diff_of_mem taken, stays]
        rfl
      · rintro (_ | i) key found gone
        · cases found
          exact taken
        · exact List.mem_of_mem_erase (among i key found gone)
      · rintro (_ | i) (_ | j) key found found' gone kept
        · cases kept
        · exact Nat.succ_pos j
        · cases kept
        · exact Nat.succ_lt_succ (earliest i j key found found' gone kept)
    · -- The first key stays, and no equal one goes, as none is among the others.
      obtain ⟨keep, stays, among, earliest⟩ := ih others
      refine ⟨placesBehind true keep, ?_, ?_, ?_⟩
      · rw [List.cons_diff_of_not_mem taken, stays]
        rfl
      · rintro (_ | i) key found gone
        · cases gone
        · exact among i key found gone
      · rintro (_ | i) (_ | j) key found found' gone kept
        · cases gone
        · cases gone
        · cases found'
          exact absurd (among i first found gone) taken
        · exact Nat.succ_lt_succ (earliest i j key found found' gone kept)

/-- The first item that is the same as a key is the first equal key. -/
theorem removeFirst_spelled :
    store.removeFirst shut key.value (keys.map PlainKey.value) =
      some (if key ∈ keys then some ((keys.erase key).map PlainKey.value) else none) := by
  induction keys with
  | nil => rfl
  | cons first rest ih =>
    rw [List.map_cons, Store.removeFirst, ih, PlainKey.sameBeside_value]
    by_cases same : first = key
    · simp [same]
    · by_cases mem : key ∈ rest <;> simp [same, Ne.symm same, mem, List.erase_cons_tail]

/-- **Taking out one item for each of some others leaves the difference.** -/
theorem removeEach_spelled (store : Store) (keys others : List PlainKey) :
    Value.removeEach store (keys.map PlainKey.value) (others.map PlainKey.value) =
      some ((keys.diff others).map PlainKey.value) := by
  induction others generalizing keys with
  | nil => rfl
  | cons key others ih =>
    have once : (if key ∈ keys then some ((keys.erase key).map PlainKey.value) else none).getD
        (keys.map PlainKey.value) = (keys.erase key).map PlainKey.value := by
      split
      · rfl
      · rename_i absent
        rw [List.erase_of_not_mem absent]
        rfl
    rw [List.diff_cons, ← ih, List.map_cons, Value.removeEach, removeFirst_spelled,
      Option.bind_eq_bind, Option.bind_some, once]

end Keys

/-! ## Counting -/

namespace Store

variable {store : Store} {value : Value} {keys others : List PlainKey}

/-- **A value that tells items apart**: items that are the same as the value are the same as each
other. -/
def TellsApart (store : Store) (value : Value) (items : List Value) : Prop :=
  ∀ item ∈ items, ∀ other ∈ items, store.same item value = some true →
    store.same other value = some true → store.same item other = some true

/-- How many items are the same as a value. -/
def occurrences (store : Store) (value : Value) (items : List Value) : Nat :=
  items.countP fun item => store.same item value = some true

/-- A key is the same as nothing else that is compared exactly. -/
theorem view_eq_of_same_key {key : PlainKey} (exact : (store.view value).isExact = true)
    (same : store.same key.value value = some true) : store.view value = store.view key.value := by
  rw [Store.same, sameBeside_of_apart (by cases key <;> simp [PlainKey.value])
    (by cases key <;> simp [PlainKey.value]), Option.some.injEq] at same
  generalize store.view value = tree at exact same
  cases key <;> cases tree <;>
    simp_all [PlainKey.value, Store.view, Store.viewBelow, Datum.same, Datum.isExact,
      Datum.container?]

/-- **What is compared exactly tells keys apart.** -/
theorem tellsApart_of_isExact (exact : (store.view value).isExact = true) :
    store.TellsApart value (keys.map PlainKey.value) := by
  intro item mem other mem' same same'
  obtain ⟨key, -, rfl⟩ := List.mem_map.mp mem
  obtain ⟨key', -, rfl⟩ := List.mem_map.mp mem'
  have trees := (view_eq_of_same_key exact same).symm.trans (view_eq_of_same_key exact same')
  have acyclic (key : PlainKey) : (store.view key.value).isCyclic = false := by
    cases key <;> rfl
  rw [Store.same_eq (acyclic key) (acyclic key'), ← trees,
    ← Store.same_eq (acyclic key) (acyclic key)]
  exact PlainKey.same_value_iff.mpr rfl

/-- **A value that tells the items apart counts in the difference** as often as before, less as
often as in what is subtracted. -/
theorem occurrences_diff
    (apart : store.TellsApart value ((keys ++ others).map PlainKey.value)) :
    store.occurrences value ((keys.diff others).map PlainKey.value) =
      store.occurrences value (keys.map PlainKey.value) -
        store.occurrences value (others.map PlainKey.value) := by
  unfold occurrences
  rw [List.countP_map, List.countP_map, List.countP_map]
  generalize given : (fun item => decide (store.same item value = some true)) = isValue
  have isValue_iff (key : PlainKey) : (isValue ∘ PlainKey.value) key = true ↔
      store.same key.value value = some true := by
    rw [← given, Function.comp_apply, decide_eq_true_iff]
  by_cases found : ∃ key ∈ keys ++ others, store.same key.value value = some true
  · -- Of all keys only this one is the same as the value.
    obtain ⟨key, mem, same⟩ := found
    have only : ∀ other ∈ keys ++ others,
        (isValue ∘ PlainKey.value) other = true ↔ (other == key) = true := by
      intro other mem'
      rw [isValue_iff, beq_iff_eq]
      refine ⟨fun same' => ?_, fun equal => equal ▸ same⟩
      exact PlainKey.same_value_iff.mp (apart _ (List.mem_map_of_mem mem') _
        (List.mem_map_of_mem mem) same' same)
    have counted {part : List PlainKey} (inside : ∀ other ∈ part, other ∈ keys ++ others) :
        part.countP (isValue ∘ PlainKey.value) = part.count key :=
      List.countP_congr fun other mem => only other (inside other mem)
    rw [counted fun _ mem => List.mem_append_left _ (List.diff_subset _ _ mem),
      counted fun _ => List.mem_append_left _, counted fun _ => List.mem_append_right _,
      List.count_diff]
  · -- No key is the same as the value.
    have none : ∀ other ∈ keys.diff others,
        ¬ (isValue ∘ PlainKey.value) other = true :=
      fun other mem same =>
        found ⟨other, List.mem_append_left _ (List.diff_subset _ _ mem),
          (isValue_iff other).mp same⟩
    have none' : ∀ other ∈ keys, ¬ (isValue ∘ PlainKey.value) other = true :=
      fun other mem same => found ⟨other, List.mem_append_left _ mem, (isValue_iff other).mp same⟩
    rw [List.countP_eq_zero.mpr none, List.countP_eq_zero.mpr none', Nat.zero_sub]

end Store

/-! ## Subtraction -/

/-- **What is left of some items without others.** -/
structure OrderedDifference (store : Store) (items others rest : List Value) : Prop where
  /-- It stands in the order of the items. -/
  sublist : rest.Sublist items
  /-- A value that tells the items apart counts as often as among the items less as often as among
  the others. -/
  occurrences : ∀ value, store.TellsApart value (items ++ others) →
    store.occurrences value rest = store.occurrences value items - store.occurrences value others
  /-- It is what stands at some places, and of items that are the same the earlier ones go. -/
  earliest : ∃ keep : Nat → Bool, rest = atPlaces keep items ∧
    ∀ i j item other, items[i]? = some item → items[j]? = some other →
      store.same item other = some true → keep i = false → keep j = true → i < j

/-- The difference of keys is what is left of them. -/
theorem orderedDifference_diff (store : Store) (keys others : List PlainKey) :
    OrderedDifference store (keys.map PlainKey.value) (others.map PlainKey.value)
      ((keys.diff others).map PlainKey.value) where
  sublist := (List.diff_sublist keys others).map _
  occurrences value apart := Store.occurrences_diff (by rwa [List.map_append])
  earliest := by
    obtain ⟨keep, stays, -, earliest⟩ := exists_diff_eq_atPlaces keys others
    refine ⟨keep, by rw [stays, map_atPlaces], ?_⟩
    intro i j item other found found' same gone kept
    rw [List.getElem?_map] at found found'
    obtain ⟨key, at', rfl⟩ := Option.map_eq_some_iff.mp found
    obtain ⟨key', at'', rfl⟩ := Option.map_eq_some_iff.mp found'
    obtain rfl := PlainKey.same_value_iff.mp same
    exact earliest i j key at' at'' gone kept

/-- Subtracting from a list makes a new one with the same tag. -/
theorem run_subtract (store : Store) (left : Handle) (right : Value) :
    (Value.binary .sub (.list left) right).run store =
      ended (Value.removeEach store (store.list left).items (right.asItems store)) >>= fun rest =>
        (Alloc.newList (store.list left).element rest).run store := by
  change ((liftM (Value.removeEach store (store.list left).items (right.asItems store)) :
    Alloc _).run store >>= _) = _
  cases Value.removeEach store (store.list left).items (right.asItems store) <;> rfl

/-- **Subtracting a list takes the earliest equal items out.** Where two lists, or one list twice,
hold items that are compared by kind and content, their difference is a new list with the tag of
the first; it holds what is left of the items without the others, and all lists and dictionaries
that were there stay as they were. Every value tells such items apart that is neither a
floating-point nor a complex number. Subtracting something that is no list is subtracting a list
that holds nothing else. -/
theorem subtract_takes_earliest {store : Store} {left : Handle} {keys : List PlainKey}
    (items : (store.list left).items = keys.map PlainKey.value) :
    (∀ right (others : List PlainKey), (store.list right).items = others.map PlainKey.value →
      ∃ fresh after, (Value.binary .sub (.list left) (.list right)).run store =
          .ok (.list fresh, after) ∧
        ¬ store.Holds (.list fresh) ∧ store.Extends after ∧
        (after.list fresh).element = (store.list left).element ∧
        OrderedDifference after (store.list left).items (store.list right).items
          (after.list fresh).items ∧
        ∀ value, (after.view value).isExact = true →
          after.TellsApart value ((store.list left).items ++ (store.list right).items)) ∧
    ∀ value, (∀ handle, value ≠ .list handle) → ∀ right, (store.list right).items = [value] →
      (Value.binary .sub (.list left) value).run store =
        (Value.binary .sub (.list left) (.list right)).run store := by
  constructor
  · intro right others items'
    have taken : Value.removeEach store (store.list left).items
        ((Value.list right).asItems store) = some ((keys.diff others).map PlainKey.value) := by
      rw [Value.asItems, items, items', removeEach_spelled]
    refine ⟨store.lists.size, _, by rw [run_subtract, taken]; rfl, Nat.lt_irrefl _,
      .pushList store _, ?_, ?_, ?_⟩
    · rw [Store.list_push, if_pos rfl]
    · rw [Store.list_push, if_pos rfl, items, items']
      exact orderedDifference_diff _ keys others
    · -- What is compared without rounding is the same as one key at most.
      intro value exact
      have apart : Store.TellsApart _ value ((keys ++ others).map PlainKey.value) :=
        Store.tellsApart_of_isExact exact
      rwa [List.map_append, ← items, ← items'] at apart
  · -- What is no list is subtracted as a list of it alone.
    intro value plain right alone
    have same : value.asItems store = (Value.list right).asItems store := by
      rw [Value.asItems, alone]
      cases value with
      | list handle => exact absurd rfl (plain handle)
      | _ => rfl
    rw [run_subtract, run_subtract, same]

/-- A list that holds items several times, one to take out of it, and one with a single item. -/
def repeating : Store where
  lists := #[
    ⟨.any, [.int 1, .text "1", .int 1, .boolean true, .void, .int 1, .untyped], []⟩,
    ⟨.int, [.int 1, .void, .int 2, .int 1], []⟩,
    ⟨.any, [.text "1"], []⟩]
  dicts := #[]

/-- Of three equal items the earliest two are taken out, a list without itself is empty, and a text
is taken out as the list that holds it. -/
theorem repeated_items_taken :
    (∃ fresh after, (Value.binary .sub (.list 0) (.list 1)).run repeating =
        .ok (.list fresh, after) ∧
      OrderedDifference after (repeating.list 0).items (repeating.list 1).items
        (after.list fresh).items ∧
      after.occurrences (.int 1) (after.list fresh).items = 3 - 2) ∧
    (∃ fresh after, (Value.binary .sub (.list 0) (.list 0)).run repeating =
        .ok (.list fresh, after) ∧
      OrderedDifference after (repeating.list 0).items (repeating.list 0).items
        (after.list fresh).items ∧
      repeating.Extends after) ∧
    (Value.binary .sub (.list 0) (.text "1")).run repeating =
      (Value.binary .sub (.list 0) (.list 2)).run repeating := by
  have items : (repeating.list 0).items = List.map PlainKey.value
      [.int 1, .text "1", .int 1, .boolean true, .void, .int 1, .untyped] := rfl
  obtain ⟨subtracted, scalar⟩ := subtract_takes_earliest items
  refine ⟨?_, ?_, scalar (.text "1") nofun 2 rfl⟩
  · obtain ⟨fresh, after, ran, -, -, -, difference, apart⟩ :=
      subtracted 1 [.int 1, .void, .int 2, .int 1] rfl
    refine ⟨fresh, after, ran, difference, ?_⟩
    rw [difference.occurrences (.int 1) (apart (.int 1) rfl)]
    cases ran
    rfl
  · obtain ⟨fresh, after, ran, -, extends_, -, difference, -⟩ := subtracted 0 _ items
    exact ⟨fresh, after, ran, difference, extends_⟩

/-- Two lists with integers that round to the same floating-point number. -/
def neighbouring : Store where
  lists := #[⟨.any, [.int 9007199254740992], []⟩, ⟨.any, [.int 9007199254740993], []⟩]
  dicts := #[]

/-- **A number that different integers round to is counted for each of them**: it counts once in
each list, and yet once in their difference, which keeps the first integer. -/
theorem rounding_miscounts :
    ∃ fresh after, (Value.binary .sub (.list 0) (.list 1)).run neighbouring =
        .ok (.list fresh, after) ∧
      after.occurrences (.float 9007199254740992.0) (after.list fresh).items ≠
        after.occurrences (.float 9007199254740992.0) (neighbouring.list 0).items -
          after.occurrences (.float 9007199254740992.0) (neighbouring.list 1).items := by
  refine ⟨_, _, rfl, ?_⟩
  decide

end ReactiveScript
