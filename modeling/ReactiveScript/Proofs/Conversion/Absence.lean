import ReactiveScript.Proofs.Conversion.Operation
import ReactiveScript.Proofs.Store.Growth

/-! # Containers that a value does not have inside

What is read from a value depends on the containers inside it alone, so changing another container
leaves it as it is (`Store.Beside.view_eq`). A dictionary is not inside one of its own keys, unless
some container is inside itself (`Store.absent_of_key`). A conversion makes new containers and hands
on some of those that are inside the value, so what is not inside a value is not inside what the
value is converted to (`Value.coerce_spares`). -/

namespace ReactiveScript

/-- A part is no larger than the tree. -/
theorem Datum.sizeOf_le_of_mem_parts {tree part : Datum} (mem : part ∈ tree.parts) :
    sizeOf part ≤ sizeOf tree := by
  induction tree with
  | list handle element items ih =>
    rw [parts] at mem
    rcases List.mem_cons.mp mem with rfl | mem
    · exact Nat.le_refl _
    · obtain ⟨item, mem, found⟩ := mem_partsOfItems.mp mem
      have smaller := ih item mem found
      have := List.sizeOf_lt_of_mem mem
      simp only [Datum.list.sizeOf_spec]
      omega
  | dict handle key value entries keys values =>
    rw [parts] at mem
    rcases List.mem_cons.mp mem with rfl | mem
    · exact Nat.le_refl _
    · obtain ⟨entry, mem, found⟩ := mem_partsOfEntries.mp mem
      have smaller := found.imp (keys entry mem) (values entry mem)
      have := List.sizeOf_lt_of_mem mem
      have : sizeOf entry = 1 + sizeOf entry.1 + sizeOf entry.2 := rfl
      simp only [Datum.dict.sizeOf_spec]
      omega
  | _ =>
    cases List.mem_singleton.mp mem
    exact Nat.le_refl _

namespace Store

variable {store before after : Store} {value : Value} {handle changed : Handle}
variable {container : Container}

/-- **A value that is all there and has some container nowhere inside.** -/
structure Without (store : Store) (container : Container) (value : Value) : Prop
    extends store.Whole value where
  /-- The container is none of those inside. -/
  absent : ∀ part ∈ (store.view value).parts, part.container? ≠ some container

namespace Without

/-- A store that extends puts nothing into what is all there. -/
theorem of_extends (without : before.Without container value) (h : before.Extends after) :
    after.Without container value := by
  refine ⟨without.toWhole.of_extends h, ?_⟩
  rw [without.toWhole.view_eq h]
  exact without.absent

/-- What is no container has none inside. -/
theorem of_isPlain (store : Store) (container : Container) (plain : value.isPlain = true) :
    store.Without container value := by
  refine ⟨store.whole_of_isPlain plain, fun part mem same => ?_⟩
  cases value with
  | list handle => cases plain
  | dict handle => cases plain
  | _ =>
    cases List.mem_singleton.mp mem
    cases same

/-- What is not inside a list is not inside its items. -/
theorem item (without : store.Without container (.list handle)) {item : Value}
    (mem : item ∈ (store.list handle).items) : store.Without container item := by
  refine ⟨without.toWhole.item mem, fun part inside => without.absent part ?_⟩
  rw [view_list without.acyclic]
  exact Datum.mem_parts_list (List.mem_map_of_mem mem) inside

/-- What is not inside a dictionary is not inside its keys and values. -/
theorem entry (without : store.Without container (.dict handle)) {entry : Value × Value}
    (mem : entry ∈ (store.dict handle).entries) :
    store.Without container entry.1 ∧ store.Without container entry.2 := by
  obtain ⟨key, value⟩ := without.toWhole.entry mem
  have inside := List.mem_map_of_mem
    (f := fun entry : Value × Value => (store.view entry.1, store.view entry.2)) mem
  refine ⟨⟨key, fun part found => without.absent part ?_⟩,
    value, fun part found => without.absent part ?_⟩
  · rw [view_dict without.acyclic]
    exact Datum.mem_parts_dict inside (.inl found)
  · rw [view_dict without.acyclic]
    exact Datum.mem_parts_dict inside (.inr found)

/-- A container that is not inside a value may be shut while the value is compared. -/
theorem clear (without : store.Without container value) :
    store.Clear (some container) value := by
  intro part mem other same here
  obtain rfl := Option.some.inj same
  exact without.absent part mem (Datum.container?_of_value here)

/-- A new list of items that do not have a container inside does not have it inside. -/
theorem newList (held : store.Holds container.value) (element : Ty) {items : List Value}
    (each : ∀ item ∈ items, store.Without container item) :
    let after : Store := { store with lists := store.lists.push ⟨element, items, []⟩ }
    after.Without container (.list store.lists.size) := by
  intro after
  have whole : ∀ item ∈ items, store.Whole item := fun item mem => (each item mem).toWhole
  refine ⟨(whole_newList element whole).1, ?_⟩
  rw [view_newList element whole]
  refine Datum.forall_parts_list.mpr ⟨?_, List.forall_mem_map.mpr fun item mem =>
    (each item mem).absent⟩
  rintro ⟨⟩
  exact Nat.lt_irrefl _ held

/-- A new dictionary of keys and values that do not have a container inside does not have it
inside. -/
theorem newDict (held : store.Holds container.value) (keyType valueType : Ty)
    {entries : List (Value × Value)}
    (each : ∀ entry ∈ entries, store.Without container entry.1 ∧ store.Without container entry.2) :
    let after : Store := { store with dicts := store.dicts.push ⟨keyType, valueType, entries, []⟩ }
    after.Without container (.dict store.dicts.size) := by
  intro after
  have whole : ∀ entry ∈ entries, store.Whole entry.1 ∧ store.Whole entry.2 :=
    fun entry mem => ⟨(each entry mem).1.toWhole, (each entry mem).2.toWhole⟩
  refine ⟨(whole_newDict keyType valueType whole).1, ?_⟩
  rw [view_newDict keyType valueType whole]
  refine Datum.forall_parts_dict.mpr ⟨?_, List.forall_mem_map.mpr fun entry mem =>
    (each entry mem).1.absent, List.forall_mem_map.mpr fun entry mem => (each entry mem).2.absent⟩
  rintro ⟨⟩
  exact Nat.lt_irrefl _ held

end Without

/-- **A dictionary is not inside its keys**, if no container is inside itself: the key would be
larger than itself. -/
theorem absent_of_key {entry : Value × Value} (acyclic : (store.view entry.1).isCyclic = false)
    (mem : entry ∈ (store.dict handle).entries) :
    ∀ part ∈ (store.view entry.1).parts, part.container? ≠ some (.dict handle) := by
  intro part inside same
  have read := (Datum.ReadFrom.of_view acyclic).part inside
  cases part with
  | dict other keyType valueType entries =>
    cases same
    have mem := List.mem_map_of_mem
      (f := fun entry : Value × Value => (store.view entry.1, store.view entry.2)) mem
    rw [← read.eq_dict] at mem
    have larger := Datum.sizeOf_le_of_mem_parts inside
    have := List.sizeOf_lt_of_mem mem
    have : sizeOf (store.view entry.1, store.view entry.2) =
      1 + sizeOf (store.view entry.1) + sizeOf (store.view entry.2) := rfl
    simp only [Datum.dict.sizeOf_spec] at larger
    omega
  | cycle other => cases read.acyclic
  | _ => cases same

/-! ## Changing one dictionary -/

/-- Stores with the same containers but for the contents of one dictionary. -/
structure Beside (store other : Store) (changed : Handle) : Prop where
  /-- The lists are the same. -/
  lists : other.lists = store.lists
  /-- There are as many dictionaries. -/
  size : other.dicts.size = store.dicts.size
  /-- The other dictionaries are the same. -/
  dict : ∀ handle, handle ≠ changed → other.dict handle = store.dict handle

/-- Changing a dictionary leaves the other containers as they are. -/
theorem beside_modifyDict (known : changed < store.dicts.size) (change : DictCell → DictCell) :
    store.Beside (store.modifyDict changed change) changed where
  lists := rfl
  size := by simp [modifyDict]
  dict handle other := by rw [dict_modifyDict known, if_neg other]

/-- It does not matter which of the stores comes first. -/
theorem Beside.symm {other : Store} (h : store.Beside other changed) :
    other.Beside store changed :=
  ⟨h.lists.symm, h.size.symm, fun handle differs => (h.dict handle differs).symm⟩

/-- One change after the other. -/
theorem Beside.trans {other another : Store} (first : store.Beside other changed)
    (second : other.Beside another changed) : store.Beside another changed :=
  ⟨second.lists.trans first.lists, second.size.trans first.size,
    fun handle differs => (second.dict handle differs).trans (first.dict handle differs)⟩

/-- **While a dictionary is shut, values compare alike whatever becomes of it**: whoever opened it
would wait for ever. -/
theorem Beside.sameBeside_eq {other : Store} (h : store.Beside other changed) :
    other.sameBeside (some (.dict changed)) = store.sameBeside (some (.dict changed)) := by
  have within (budget : Nat) : other.sameWithin (some (.dict changed)) budget =
      store.sameWithin (some (.dict changed)) budget := by
    induction budget with
    | zero => funext left right; cases left <;> cases right <;> rfl
    | succ budget ih =>
      have list (handle : Handle) : other.list handle = store.list handle := by
        rw [Store.list, h.lists, Store.list]
      funext left right
      cases left with
      | list one => cases right <;> simp only [sameWithin, list, ih]
      | dict one =>
        cases right with
        | dict another =>
          rw [sameWithin, sameWithin]
          split
          · rfl
          · split
            · rfl
            · -- Neither is the one that is shut, so both are as they were.
              rename_i open'
              obtain ⟨differ, differ'⟩ := not_or.mp open'
              rw [h.dict one fun same => differ (by rw [same]),
                h.dict another fun same => differ' (by rw [same]), ih]
        | _ => rfl
      | _ => cases right <;> rfl
  funext left right
  rw [sameBeside, sameBeside, within, Store.size, Store.size, h.lists, h.size]

/-- **A value without the dictionary that changes reads the same.** -/
theorem Beside.view_eq {other : Store} (h : store.Beside other changed)
    (acyclic : (store.view value).isCyclic = false)
    (absent : ∀ part ∈ (store.view value).parts, part.container? ≠ some (.dict changed)) :
    other.view value = store.view value := by
  refine viewBelow_eq (fun container => container ≠ .dict changed)
    (fun handle _ => by rw [Store.list, h.lists, Store.list])
    (fun handle kept => h.dict handle fun same => kept (congrArg _ same))
    acyclic (fun part mem container same => ?_) (fun _ mem => by cases mem) ?_
  · rintro rfl
    exact absent part mem same
  · rw [Store.size, Store.size, h.lists, h.size]

/-- **A value does not get the dictionary that changes inside.** -/
theorem Without.beside {other : Store} (without : store.Without (.dict changed) value)
    (h : store.Beside other changed) : other.Without (.dict changed) value := by
  have view := h.view_eq without.acyclic without.absent
  refine ⟨⟨?_, fun part mem => ?_⟩, ?_⟩
  · rw [view]
    exact without.acyclic
  · rw [view] at mem
    have held := without.held part mem
    revert held
    cases part.value <;> simp [Holds, h.lists, h.size]
  · rw [view]
    exact without.absent

end Store

/-! ## Conversions -/

namespace Alloc

/-- An operation that puts no container of the store but those inside the value into its results:
on every store that extends the given one, a container that is not inside the value is not inside
what the operation returns. -/
def Spares (operation : Value → Alloc Value) (base : Store) (value : Value) : Prop :=
  ∀ ⦃container⦄, base.Holds container.value → base.Without container value →
    ∀ ⦃store result after⦄, base.Extends store →
      (operation value).run store = .ok (result, after) →
        store.Extends after ∧ after.Without container result

variable {operation : Value → Alloc Value} {base store after : Store} {container : Container}

/-- One value after the other. -/
theorem mapM_spares {values results : List Value}
    (each : ∀ value ∈ values, Spares operation base value) (held : base.Holds container.value)
    (without : ∀ value ∈ values, base.Without container value) (h : base.Extends store)
    (ran : (values.mapM operation).run store = .ok (results, after)) :
    store.Extends after ∧ ∀ result ∈ results, after.Without container result := by
  induction values generalizing store results with
  | nil =>
    cases ran
    exact ⟨.refl _, by simp⟩
  | cons value values ih =>
    obtain ⟨spares, each⟩ := List.forall_mem_cons.mp each
    obtain ⟨first, without⟩ := List.forall_mem_cons.mp without
    rw [List.mapM_cons] at ran
    obtain ⟨⟨result, middle⟩, ran', ran⟩ := exists_of_bind_eq_ok ran
    obtain ⟨⟨rest, final⟩, others, ran⟩ := exists_of_bind_eq_ok ran
    cases ran
    obtain ⟨kept, absent⟩ := spares held first h ran'
    obtain ⟨kept', absent'⟩ := ih each without (h.trans kept) others
    exact ⟨kept.trans kept', List.forall_mem_cons.mpr ⟨absent.of_extends kept', absent'⟩⟩

/-- One entry after the other. -/
theorem convertEntries_spares {convertKey convertValue : Value → Alloc Value}
    {entries done results : List (Value × Value)}
    (keys : ∀ entry ∈ entries, Spares convertKey base entry.1)
    (values : ∀ entry ∈ entries, Spares convertValue base entry.2)
    (held : base.Holds container.value)
    (without : ∀ entry ∈ entries, base.Without container entry.1 ∧ base.Without container entry.2)
    (h : base.Extends store)
    (sofar : ∀ entry ∈ done, store.Without container entry.1 ∧ store.Without container entry.2)
    (ran : (Value.convertEntries convertKey convertValue done entries).run store =
      .ok (results, after)) :
    store.Extends after ∧
      ∀ entry ∈ results, after.Without container entry.1 ∧ after.Without container entry.2 := by
  induction entries generalizing store done with
  | nil =>
    cases ran
    exact ⟨.refl _, sofar⟩
  | cons entry entries ih =>
    obtain ⟨key, keys⟩ := List.forall_mem_cons.mp keys
    obtain ⟨value, values⟩ := List.forall_mem_cons.mp values
    obtain ⟨⟨withoutKey, withoutValue⟩, without⟩ := List.forall_mem_cons.mp without
    obtain ⟨⟨newKey, between⟩, first, ran⟩ := exists_of_bind_eq_ok ran
    obtain ⟨⟨newValue, middle⟩, second, ran⟩ := exists_of_bind_eq_ok ran
    obtain ⟨kept, absentKey⟩ := key held withoutKey h first
    obtain ⟨kept', absentValue⟩ := value held withoutValue (h.trans kept) second
    have both := kept.trans kept'
    obtain ⟨⟨set, final⟩, found, rest⟩ := exists_of_bind_eq_ok ran
    obtain ⟨found, rfl⟩ := Alloc.lift_eq_ok found
    -- What the entry is put into holds converted entries only, and none has the container inside.
    obtain ⟨kept'', absent⟩ := ih keys values without (h.trans both)
      (Store.forall_mem_setEntry found (absentKey.of_extends kept') absentValue fun entry mem =>
        ⟨(sofar entry mem).1.of_extends both, (sofar entry mem).2.of_extends both⟩) rest
    exact ⟨both.trans kept'', absent⟩

end Alloc

namespace Value

variable {base store after : Store} {value result : Value} {type : Ty} {container : Container}

/-- A conversion leaves the containers that are there as they are. -/
theorem extends_of_run_coerce (ran : (coerce type value).run store = .ok (result, after)) :
    store.Extends after := by
  have along : (coerce type value).Along .extension store := coerce_along type value store
  exact along result after ran

/-- The zero of a type has nothing of the store inside. -/
theorem zeroOf_without (held : store.Holds container.value)
    (ran : (zeroOf type).run store = .ok (result, after)) :
    store.Extends after ∧ after.Without container result := by
  cases type with
  | list element =>
    cases ran
    exact ⟨.pushList store _, .newList held element (by simp)⟩
  | dict key value =>
    cases ran
    exact ⟨.pushDict store _, .newDict held key value (by simp)⟩
  | unknown name => cases ran
  | _ =>
    cases ran
    exact ⟨.refl store, .of_isPlain store container rfl⟩

/-- **What is not inside a value is not inside what it is converted to.** -/
theorem coerce_spares (type : Ty) (value : Value) : Alloc.Spares (coerce type) base value := by
  induction type generalizing value with
  | any =>
    intro container held without store result after h ran
    cases ran
    exact ⟨.refl store, without.of_extends h⟩
  | list element ih =>
    intro container held without store result after h ran
    cases value with
    | void | untyped => exact zeroOf_without (h.grows.holds held) ran
    | list handle =>
      rw [coerce] at ran
      change StateT.run (if tagFits element (store.list handle).element then _ else _) store = _
        at ran
      rw [h.list handle without.toWhole.holds] at ran
      split at ran
      · cases ran
        exact ⟨.refl store, without.of_extends h⟩
      · obtain ⟨⟨results, middle⟩, converted, ran⟩ := exists_of_bind_eq_ok ran
        cases ran
        obtain ⟨kept, absent⟩ := Alloc.mapM_spares (fun item _ => ih item) held
          (fun item mem => without.item mem) h converted
        have here := (h.trans kept).grows.holds held
        exact ⟨kept.trans (.pushList middle _), .newList here element absent⟩
    | _ => cases ran
  | dict keyType valueType keys values =>
    intro container held without store result after h ran
    cases value with
    | void | untyped => exact zeroOf_without (h.grows.holds held) ran
    | dict handle =>
      rw [coerce] at ran
      change StateT.run (if tagFits keyType (store.dict handle).key &&
        tagFits valueType (store.dict handle).value then _ else _) store = _ at ran
      rw [h.dict handle without.toWhole.holds] at ran
      split at ran
      · cases ran
        exact ⟨.refl store, without.of_extends h⟩
      · obtain ⟨⟨results, middle⟩, converted, ran⟩ := exists_of_bind_eq_ok ran
        cases ran
        obtain ⟨kept, absent⟩ := Alloc.convertEntries_spares (fun entry _ => keys entry.1)
          (fun entry _ => values entry.2) held (fun entry mem => without.entry mem) h (by simp)
          converted
        have here := (h.trans kept).grows.holds held
        exact ⟨kept.trans (.pushDict middle _), .newDict here keyType valueType absent⟩
    | _ => cases ran
  | unknown name =>
    intro container held without store result after h ran
    cases ran
  | _ =>
    intro container held without store result after h ran
    cases value <;> cases ran
    all_goals exact ⟨.refl store, .of_isPlain store container rfl⟩

end Value

end ReactiveScript
