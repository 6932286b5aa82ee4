import ReactiveScript.Proofs.Datum.Tree
import ReactiveScript.Proofs.Store.Conform

/-! # Reading values out of the store

The tree of a value depends on the containers inside it alone. So a value that contains no container
inside itself is read item by item (`view_list`, `view_dict`), and it reads the same after the store
`Extends`. -/

namespace ReactiveScript

namespace Datum

variable {items : List Datum} {entries : List (Datum × Datum)}

/-- Items are cut off nowhere when each of them is cut off nowhere. -/
theorem anyCyclic_iff : anyCyclic items = false ↔ ∀ item ∈ items, item.isCyclic = false := by
  induction items with
  | nil => simp [anyCyclic]
  | cons item items ih => simp [anyCyclic, ih]

/-- Entries are cut off nowhere when each key and each value is cut off nowhere. -/
theorem anyCyclicEntry_iff : anyCyclicEntry entries = false ↔
    ∀ entry ∈ entries, entry.1.isCyclic = false ∧ entry.2.isCyclic = false := by
  induction entries with
  | nil => simp [anyCyclicEntry]
  | cons entry entries ih =>
    obtain ⟨key, value⟩ := entry
    simp [anyCyclicEntry, ih, and_assoc]

end Datum

namespace Store

/-- Below fewer ancestors than the depth allows a list is read item by item, unless it is one of
them. -/
theorem viewBelow_list (store : Store) (depth : Nat) (above : List Container) (handle : Handle) :
    store.viewBelow (depth + 1) above (.list handle) =
      if above.contains (.list handle) then .cycle (.list handle)
      else .list handle (store.list handle).element
        ((store.list handle).items.map (store.viewBelow depth (.list handle :: above))) :=
  rfl

/-- Below fewer ancestors than the depth allows a dictionary is read entry by entry, unless it is
one of them. -/
theorem viewBelow_dict (store : Store) (depth : Nat) (above : List Container) (handle : Handle) :
    store.viewBelow (depth + 1) above (.dict handle) =
      if above.contains (.dict handle) then .cycle (.dict handle)
      else .dict handle (store.dict handle).key (store.dict handle).value
        ((store.dict handle).entries.map fun entry =>
          (store.viewBelow depth (.dict handle :: above) entry.1,
            store.viewBelow depth (.dict handle :: above) entry.2)) :=
  rfl

/-- A value reads as itself. -/
@[simp] theorem value_viewBelow (store : Store) (depth : Nat) (above : List Container)
    (value : Value) : (store.viewBelow depth above value).value = value := by
  unfold Store.viewBelow
  split <;> try rfl
  · split <;> rfl
  · split <;> rfl

/-- A value reads as itself. -/
@[simp] theorem value_view (store : Store) (value : Value) : (store.view value).value = value :=
  value_viewBelow store _ _ value

/-- **A tree that is cut off nowhere depends on the containers inside it alone.** Another store that
has the same containers gives the same tree, with more depth and below other ancestors, of which the
containers inside it were ancestors before. -/
theorem viewBelow_eq {store other : Store} (kept : Container → Prop)
    (lists : ∀ handle, kept (.list handle) → other.list handle = store.list handle)
    (dicts : ∀ handle, kept (.dict handle) → other.dict handle = store.dict handle)
    {depth depth' : Nat} {above above' : List Container} {value : Value}
    (acyclic : (store.viewBelow depth above value).isCyclic = false)
    (inside : ∀ part ∈ (store.viewBelow depth above value).parts,
      ∀ container, part.container? = some container → kept container)
    (free : ∀ container ∈ above', kept container → container ∈ above) (deeper : depth ≤ depth') :
    other.viewBelow depth' above' value = store.viewBelow depth above value := by
  induction depth generalizing depth' above above' value with
  | zero =>
    cases value with
    | list handle => cases acyclic
    | dict handle => cases acyclic
    | _ => cases depth' <;> rfl
  | succ depth ih =>
    obtain ⟨depth', rfl⟩ : ∃ rest, depth' = rest + 1 := ⟨depth' - 1, by omega⟩
    -- A container below itself is an ancestor again, before and after.
    have below (container : Container) : ∀ ancestor ∈ container :: above', kept ancestor →
        ancestor ∈ container :: above := by
      intro ancestor mem kept
      rcases List.mem_cons.mp mem with rfl | mem
      · exact List.mem_cons_self
      · exact List.mem_cons_of_mem _ (free ancestor mem kept)
    have fresh {container : Container} (keeps : kept container)
        (new : ¬ above.contains container = true) : ¬ above'.contains container = true :=
      fun mem => new (List.contains_iff_mem.mpr (free _ (List.contains_iff_mem.mp mem) keeps))
    cases value with
    | list handle =>
      simp only [viewBelow_list] at acyclic inside ⊢
      split at acyclic
      · cases acyclic
      · rename_i new
        rw [if_neg new] at inside ⊢
        obtain ⟨root, inside⟩ := Datum.forall_parts_list.mp inside
        rw [if_neg (fresh (root _ rfl) new), lists handle (root _ rfl)]
        congr 1
        refine List.map_congr_left fun item mem => ?_
        have mem := List.mem_map_of_mem (f := store.viewBelow depth (.list handle :: above)) mem
        exact ih (Datum.anyCyclic_iff.mp acyclic _ mem) (inside _ mem) (below _) (by omega)
    | dict handle =>
      simp only [viewBelow_dict] at acyclic inside ⊢
      split at acyclic
      · cases acyclic
      · rename_i new
        rw [if_neg new] at inside ⊢
        obtain ⟨root, keys, values⟩ := Datum.forall_parts_dict.mp inside
        rw [if_neg (fresh (root _ rfl) new), dicts handle (root _ rfl)]
        congr 1
        refine List.map_congr_left fun entry mem => ?_
        have mem := List.mem_map_of_mem (f := fun entry : Value × Value =>
          (store.viewBelow depth (.dict handle :: above) entry.1,
            store.viewBelow depth (.dict handle :: above) entry.2)) mem
        obtain ⟨key, value⟩ := Datum.anyCyclicEntry_iff.mp acyclic _ mem
        rw [ih key (keys _ mem) (below _) (by omega), ih value (values _ mem) (below _) (by omega)]
    | _ => rfl

variable {store before middle after : Store} {value : Value} {handle : Handle}

/-- The tree of an item is the tree of the item alone. -/
theorem view_of_viewBelow {depth : Nat} {above : List Container} (shallow : depth ≤ store.size + 1)
    (acyclic : (store.viewBelow depth above value).isCyclic = false) :
    store.view value = store.viewBelow depth above value :=
  viewBelow_eq (fun _ => True) (fun _ _ => rfl) (fun _ _ => rfl) acyclic
    (fun _ _ _ _ => trivial) (fun _ mem => by cases mem) shallow

/-- **A list that contains no container inside itself is read item by item.** -/
theorem view_list (acyclic : (store.view (.list handle)).isCyclic = false) :
    store.view (.list handle) =
      .list handle (store.list handle).element ((store.list handle).items.map store.view) := by
  simp only [view, viewBelow_list, List.contains_nil, Bool.false_eq_true, if_false] at acyclic ⊢
  congr 1
  refine List.map_congr_left fun item mem => (view_of_viewBelow (Nat.le_succ _) ?_).symm
  exact Datum.anyCyclic_iff.mp acyclic _ (List.mem_map_of_mem mem)

/-- **A dictionary that contains no container inside itself is read entry by entry.** -/
theorem view_dict (acyclic : (store.view (.dict handle)).isCyclic = false) :
    store.view (.dict handle) =
      .dict handle (store.dict handle).key (store.dict handle).value
        ((store.dict handle).entries.map
          fun entry => (store.view entry.1, store.view entry.2)) := by
  simp only [view, viewBelow_dict, List.contains_nil, Bool.false_eq_true, if_false] at acyclic ⊢
  congr 1
  refine List.map_congr_left fun entry mem => ?_
  obtain ⟨key, value⟩ := Datum.anyCyclicEntry_iff.mp acyclic _ (List.mem_map_of_mem mem)
  exact (Prod.ext (view_of_viewBelow (Nat.le_succ _) key)
    (view_of_viewBelow (Nat.le_succ _) value)).symm

/-! ## Stores that extend -/

/-- The containers that were there are still there, as they were. -/
structure Extends (before after : Store) : Prop where
  /-- There are at least as many lists. -/
  lists : before.lists.size ≤ after.lists.size
  /-- There are at least as many dictionaries. -/
  dicts : before.dicts.size ≤ after.dicts.size
  /-- Lists are as they were. -/
  list : ∀ handle < before.lists.size, after.list handle = before.list handle
  /-- Dictionaries are as they were. -/
  dict : ∀ handle < before.dicts.size, after.dict handle = before.dict handle

namespace Extends

/-- Every store extends itself. -/
theorem refl (store : Store) : Extends store store :=
  ⟨Nat.le_refl _, Nat.le_refl _, fun _ _ => rfl, fun _ _ => rfl⟩

/-- A store may extend twice. -/
theorem trans (first : Extends before middle) (second : Extends middle after) :
    Extends before after where
  lists := Nat.le_trans first.lists second.lists
  dicts := Nat.le_trans first.dicts second.dicts
  list handle h := by
    rw [second.list handle (Nat.lt_of_lt_of_le h first.lists), first.list handle h]
  dict handle h := by
    rw [second.dict handle (Nat.lt_of_lt_of_le h first.dicts), first.dict handle h]

/-- A store that extends has grown. -/
theorem grows (h : Extends before after) : before.Grows after where
  lists := h.lists
  dicts := h.dicts
  element handle held := by rw [h.list handle held]
  key handle held := by rw [h.dict handle held]
  value handle held := by rw [h.dict handle held]

/-- A store extends by a list. -/
theorem pushList (store : Store) (cell : ListCell) :
    store.Extends { store with lists := store.lists.push cell } where
  lists := by simp
  dicts := Nat.le_refl _
  list handle h := by rw [list_push, if_neg (Nat.ne_of_lt h)]
  dict _ _ := rfl

/-- A store extends by a dictionary. -/
theorem pushDict (store : Store) (cell : DictCell) :
    store.Extends { store with dicts := store.dicts.push cell } where
  lists := Nat.le_refl _
  dicts := by simp
  list _ _ := rfl
  dict handle h := by rw [dict_push, if_neg (Nat.ne_of_lt h)]

end Extends

/-- **A value that is all there**: no container stands inside itself, and the store has them all. -/
structure Whole (store : Store) (value : Value) : Prop where
  /-- No container stands inside itself. -/
  acyclic : (store.view value).isCyclic = false
  /-- The store has all containers. -/
  held : ∀ part ∈ (store.view value).parts, store.Holds part.value

/-- A value that is all there reads the same in a store that extends, also below containers that the
store did not have. -/
theorem Whole.viewBelow_eq (whole : before.Whole value) (h : before.Extends after) {depth : Nat}
    {above : List Container} (deep : before.size + 1 ≤ depth)
    (new : ∀ container ∈ above, ¬ before.Holds container.value) :
    after.viewBelow depth above value = before.view value := by
  refine Store.viewBelow_eq (fun container => before.Holds container.value)
    (fun handle held => h.list handle held) (fun handle held => h.dict handle held) whole.acyclic
    (fun part mem container same => ?_) (fun container mem held => absurd held (new container mem))
    deep
  have held := whole.held part mem
  rwa [Datum.value_of_container? same] at held

/-- **A value that is all there reads the same in a store that extends.** -/
theorem Whole.view_eq (whole : before.Whole value) (h : before.Extends after) :
    after.view value = before.view value := by
  refine whole.viewBelow_eq h ?_ (fun _ mem => by cases mem)
  have := h.lists
  have := h.dicts
  simp only [size]
  omega

/-- What is all there stays all there in a store that extends. -/
theorem Whole.of_extends (whole : before.Whole value) (h : before.Extends after) :
    after.Whole value := by
  refine ⟨?_, ?_⟩
  · rw [whole.view_eq h]
    exact whole.acyclic
  · rw [whole.view_eq h]
    exact fun part mem => h.grows.holds (whole.held part mem)

/-- What is no container is all there. -/
theorem whole_of_isPlain (store : Store) (plain : value.isPlain = true) : store.Whole value := by
  cases value with
  | list handle => cases plain
  | dict handle => cases plain
  | _ => exact ⟨rfl, fun part mem => by cases List.mem_singleton.mp mem; trivial⟩

/-- A value that is all there is in the store. -/
theorem Whole.holds (whole : store.Whole value) : store.Holds value := by
  have held := whole.held _ (Datum.mem_parts_self _)
  rwa [value_view] at held

/-- A list is all there when the store has it and all that is read as its items. -/
theorem whole_list_iff {element : Ty} {items : List Datum}
    (tree : store.view (.list handle) = .list handle element items) :
    store.Whole (.list handle) ↔ handle < store.lists.size ∧ ∀ item ∈ items,
      item.isCyclic = false ∧ ∀ part ∈ item.parts, store.Holds part.value := by
  refine ⟨fun whole => ?_, fun ⟨known, each⟩ => ⟨?_, ?_⟩⟩
  · obtain ⟨acyclic, held⟩ := whole
    rw [tree] at acyclic held
    obtain ⟨known, inside⟩ := Datum.forall_parts_list.mp held
    exact ⟨known, fun item mem => ⟨Datum.anyCyclic_iff.mp acyclic item mem, inside item mem⟩⟩
  · rw [tree]
    exact Datum.anyCyclic_iff.mpr fun item mem => (each item mem).1
  · rw [tree]
    exact Datum.forall_parts_list.mpr ⟨known, fun item mem => (each item mem).2⟩

/-- A dictionary is all there when the store has it and all that is read as its keys and values. -/
theorem whole_dict_iff {keyType valueType : Ty} {entries : List (Datum × Datum)}
    (tree : store.view (.dict handle) = .dict handle keyType valueType entries) :
    store.Whole (.dict handle) ↔ handle < store.dicts.size ∧ ∀ entry ∈ entries,
      (entry.1.isCyclic = false ∧ ∀ part ∈ entry.1.parts, store.Holds part.value) ∧
      (entry.2.isCyclic = false ∧ ∀ part ∈ entry.2.parts, store.Holds part.value) := by
  refine ⟨fun whole => ?_, fun ⟨known, each⟩ => ⟨?_, ?_⟩⟩
  · obtain ⟨acyclic, held⟩ := whole
    rw [tree] at acyclic held
    obtain ⟨known, keys, values⟩ := Datum.forall_parts_dict.mp held
    refine ⟨known, fun entry mem => ?_⟩
    obtain ⟨key, value⟩ := Datum.anyCyclicEntry_iff.mp acyclic entry mem
    exact ⟨⟨key, keys entry mem⟩, ⟨value, values entry mem⟩⟩
  · rw [tree]
    exact Datum.anyCyclicEntry_iff.mpr fun entry mem => ⟨(each entry mem).1.1, (each entry mem).2.1⟩
  · rw [tree]
    exact Datum.forall_parts_dict.mpr
      ⟨known, fun entry mem => (each entry mem).1.2, fun entry mem => (each entry mem).2.2⟩

/-- The items of a list that is all there are all there. -/
theorem Whole.item (whole : store.Whole (.list handle)) {item : Value}
    (mem : item ∈ (store.list handle).items) : store.Whole item := by
  obtain ⟨-, each⟩ := (whole_list_iff (view_list whole.acyclic)).mp whole
  obtain ⟨acyclic, held⟩ := each _ (List.mem_map_of_mem mem)
  exact ⟨acyclic, held⟩

/-- The keys and values of a dictionary that is all there are all there. -/
theorem Whole.entry (whole : store.Whole (.dict handle)) {entry : Value × Value}
    (mem : entry ∈ (store.dict handle).entries) : store.Whole entry.1 ∧ store.Whole entry.2 := by
  obtain ⟨-, each⟩ := (whole_dict_iff (view_dict whole.acyclic)).mp whole
  obtain ⟨⟨acyclic, held⟩, ⟨acyclic', held'⟩⟩ := each _ (List.mem_map_of_mem mem)
  exact ⟨⟨acyclic, held⟩, ⟨acyclic', held'⟩⟩

/-! ## Contents -/

/-- The contents of a value: its tree without handles and tags. -/
def contents (store : Store) (value : Value) : Datum := (store.view value).bare

/-- The contents of entries. -/
def entryContents (store : Store) (entry : Value × Value) : Datum × Datum :=
  (store.contents entry.1, store.contents entry.2)

/-- A value that is all there keeps its contents in a store that extends. -/
theorem Whole.contents_eq (whole : before.Whole value) (h : before.Extends after) :
    after.contents value = before.contents value := by
  rw [contents, whole.view_eq h, contents]

/-- The contents of a list are those of its items. -/
theorem Whole.contents_list (whole : store.Whole (.list handle)) :
    store.contents (.list handle) =
      .list 0 .any ((store.list handle).items.map store.contents) := by
  rw [contents, view_list whole.acyclic, Datum.bare, Datum.bareItems_eq, List.map_map]
  rfl

/-- The contents of a dictionary are those of its entries. -/
theorem Whole.contents_dict (whole : store.Whole (.dict handle)) :
    store.contents (.dict handle) =
      .dict 0 .any .any ((store.dict handle).entries.map store.entryContents) := by
  rw [contents, view_dict whole.acyclic, Datum.bare, Datum.bareEntries_eq, List.map_map]
  rfl

/-- A new list of values that are all there is read as one of their trees. -/
theorem view_newList (element : Ty) {items : List Value}
    (each : ∀ item ∈ items, store.Whole item) :
    let after : Store := { store with lists := store.lists.push ⟨element, items, []⟩ }
    after.view (.list store.lists.size) =
      .list store.lists.size element (items.map store.view) := by
  intro after
  have extended : store.Extends after := Extends.pushList store _
  have cell : after.list store.lists.size = ⟨element, items, []⟩ := by rw [list_push, if_pos rfl]
  simp only [view, viewBelow_list, List.contains_nil, Bool.false_eq_true, if_false, cell]
  congr 1
  refine List.map_congr_left fun item mem => (each item mem).viewBelow_eq extended ?_ ?_
  · simp only [size, after, Array.size_push]
    omega
  · intro container mem
    cases List.mem_singleton.mp mem
    exact Nat.lt_irrefl _

/-- **A new list of values that are all there is all there**, and it contains them. -/
theorem whole_newList (element : Ty) {items : List Value}
    (each : ∀ item ∈ items, store.Whole item) :
    let after : Store := { store with lists := store.lists.push ⟨element, items, []⟩ }
    after.Whole (.list store.lists.size) ∧
      after.contents (.list store.lists.size) = .list 0 .any (items.map store.contents) := by
  intro after
  have extended : store.Extends after := Extends.pushList store _
  have tree := view_newList element each
  refine ⟨(whole_list_iff tree).mpr ⟨?_, fun _ found => ?_⟩, ?_⟩
  · simp only [Array.size_push]
    exact Nat.lt_succ_self _
  · obtain ⟨item, mem, rfl⟩ := List.mem_map.mp found
    exact ⟨(each item mem).acyclic,
      fun part inside => extended.grows.holds ((each item mem).held part inside)⟩
  · rw [contents, tree, Datum.bare, Datum.bareItems_eq, List.map_map]
    rfl

/-- A new dictionary of values that are all there is read as one of their trees. -/
theorem view_newDict (keyType valueType : Ty) {entries : List (Value × Value)}
    (each : ∀ entry ∈ entries, store.Whole entry.1 ∧ store.Whole entry.2) :
    let after : Store := { store with dicts := store.dicts.push ⟨keyType, valueType, entries, []⟩ }
    after.view (.dict store.dicts.size) =
      .dict store.dicts.size keyType valueType
        (entries.map fun entry => (store.view entry.1, store.view entry.2)) := by
  intro after
  have extended : store.Extends after := Extends.pushDict store _
  have cell : after.dict store.dicts.size = ⟨keyType, valueType, entries, []⟩ := by
    rw [dict_push, if_pos rfl]
  simp only [view, viewBelow_dict, List.contains_nil, Bool.false_eq_true, if_false, cell]
  have deep : store.size + 1 ≤ after.size := by
    simp only [size, after, Array.size_push]
    omega
  have new : ∀ container ∈ [Container.dict store.dicts.size], ¬ store.Holds container.value := by
    intro container mem
    cases List.mem_singleton.mp mem
    exact Nat.lt_irrefl _
  congr 1
  refine List.map_congr_left fun entry mem => ?_
  exact Prod.ext ((each entry mem).1.viewBelow_eq extended deep new)
    ((each entry mem).2.viewBelow_eq extended deep new)

/-- **A new dictionary of values that are all there is all there**, and it contains them. -/
theorem whole_newDict (keyType valueType : Ty) {entries : List (Value × Value)}
    (each : ∀ entry ∈ entries, store.Whole entry.1 ∧ store.Whole entry.2) :
    let after : Store := { store with dicts := store.dicts.push ⟨keyType, valueType, entries, []⟩ }
    after.Whole (.dict store.dicts.size) ∧
      after.contents (.dict store.dicts.size) =
        .dict 0 .any .any (entries.map store.entryContents) := by
  intro after
  have extended : store.Extends after := Extends.pushDict store _
  have tree := view_newDict keyType valueType each
  refine ⟨(whole_dict_iff tree).mpr ⟨?_, fun _ found => ?_⟩, ?_⟩
  · simp only [Array.size_push]
    exact Nat.lt_succ_self _
  · obtain ⟨entry, mem, rfl⟩ := List.mem_map.mp found
    obtain ⟨key, value⟩ := each entry mem
    exact ⟨⟨key.acyclic, fun part inside => extended.grows.holds (key.held part inside)⟩,
      ⟨value.acyclic, fun part inside => extended.grows.holds (value.held part inside)⟩⟩
  · rw [contents, tree, Datum.bare, Datum.bareEntries_eq, List.map_map]
    rfl

/-! ## Stores without cycles -/

/-- Whether everything that a store holds is all there. -/
def AllWhole (store : Store) : Prop := ∀ value, store.Holds value → store.Whole value

/-- A new list of values that are all there leaves everything all there. -/
theorem AllWhole.pushList (all : store.AllWhole) (element : Ty) {items : List Value}
    (each : ∀ item ∈ items, store.Whole item) :
    AllWhole { store with lists := store.lists.push ⟨element, items, []⟩ } := by
  have extended : store.Extends { store with lists := store.lists.push ⟨element, items, []⟩ } :=
    .pushList store _
  intro value held
  cases value with
  | list handle =>
    rcases Nat.lt_or_eq_of_le (Nat.le_of_lt_succ (by simpa [Holds] using held)) with old | rfl
    · exact (all (.list handle) old).of_extends extended
    · exact (whole_newList element each).1
  | dict handle => exact (all (.dict handle) held).of_extends extended
  | _ => exact whole_of_isPlain _ rfl

/-- A new dictionary of values that are all there leaves everything all there. -/
theorem AllWhole.pushDict (all : store.AllWhole) (keyType valueType : Ty)
    {entries : List (Value × Value)}
    (each : ∀ entry ∈ entries, store.Whole entry.1 ∧ store.Whole entry.2) :
    AllWhole { store with dicts := store.dicts.push ⟨keyType, valueType, entries, []⟩ } := by
  have extended : store.Extends
      { store with dicts := store.dicts.push ⟨keyType, valueType, entries, []⟩ } :=
    .pushDict store _
  intro value held
  cases value with
  | list handle => exact (all (.list handle) held).of_extends extended
  | dict handle =>
    rcases Nat.lt_or_eq_of_le (Nat.le_of_lt_succ (by simpa [Holds] using held)) with old | rfl
    · exact (all (.dict handle) old).of_extends extended
    · exact (whole_newDict keyType valueType each).1
  | _ => exact whole_of_isPlain _ rfl

end Store

end ReactiveScript
