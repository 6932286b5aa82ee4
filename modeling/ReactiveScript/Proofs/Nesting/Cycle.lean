import ReactiveScript.Proofs.Nesting.Reading

/-! # What is the same as something without cycles has none

What is read to its end has no container inside itself (`Store.acyclic_of_readWithin`), so that
reading tells the one from the other (`Store.isSome_read_iff`). Two values are opened side by side
to tell whether they are the same, so what is the same as a value without cycles has none
(`Store.acyclic_of_same`). -/

namespace ReactiveScript

section Zip

variable {α β : Type} {values : List α} {others : List β}

/-- Of two sequences of one length every element of the first stands beside one of the second. -/
theorem exists_mem_zip (lengths : values.length = others.length) {value : α}
    (mem : value ∈ values) : ∃ other, (value, other) ∈ values.zip others := by
  obtain ⟨place, known, rfl⟩ := List.getElem_of_mem mem
  refine ⟨others.get ⟨place, lengths ▸ known⟩, List.mem_iff_getElem.mpr ⟨place, ?_, ?_⟩⟩
  · rw [List.length_zip]
    omega
  · rw [List.getElem_zip]
    rfl

end Zip

namespace Store

variable {store : Store} {shut : Option Container} {value left right : Value} {budget : Nat}
variable {container : Container}

/-! ## What is cut off nowhere -/

/-- Whether no container that is met when a value is opened is inside itself. -/
def Apart (store : Store) (value : Value) : Prop :=
  ∀ outer inner : Container, value = outer.value →
    Relation.ReflTransGen store.Contains outer inner → ¬ store.Within inner inner

/-- What a container holds is met when the container is opened. -/
theorem Apart.of_contains {outer : Container} (apart : store.Apart outer.value)
    (contains : ∀ inner : Container, value = inner.value → store.Contains outer inner) :
    store.Apart value :=
  fun inner innermost here steps => apart outer innermost rfl (steps.head (contains inner here))

/-- **What meets no container inside itself is cut off nowhere**, below containers that it is inside
of: none of them is met again, because it would be inside itself, and they are different from each
other, so that there is room for one more until all containers of the store are above it. -/
theorem Apart.isCyclic_viewBelow {depth : Nat} {above : List Container}
    (apart : store.Apart value) (distinct : above.Nodup)
    (inside : ∀ outer ∈ above, store.Holds outer.value ∧
      ∀ container, value = container.value → store.Within outer container)
    (room : store.size < depth + above.length) :
    (store.viewBelow depth above value).isCyclic = false := by
  induction depth generalizing above value with
  | zero =>
    have := length_le_size distinct fun outer mem => (inside outer mem).1
    omega
  | succ depth ih =>
    have new (container : Container) (here : value = container.value) : container ∉ above :=
      fun mem => apart container container here .refl ((inside container mem).2 container here)
    -- What the container holds is read below the container too.
    have below (outer : Container) (here : value = outer.value) {part : Value}
        (contains : ∀ inner : Container, part = inner.value → store.Contains outer inner) :
        (store.viewBelow depth (outer :: above) part).isCyclic = false := by
      have step (inner : Container) (same : part = inner.value) :
          (store.viewBelow depth (outer :: above) part).isCyclic = false := by
        have held := holds_of_contains (contains inner same)
        refine ih ((here ▸ apart).of_contains contains)
          (List.nodup_cons.mpr ⟨new outer here, distinct⟩)
          (List.forall_mem_cons.mpr ⟨⟨held, fun container same => ?_⟩,
            fun other mem => ⟨(inside other mem).1, fun container same => ?_⟩⟩) ?_
        · exact .single (contains container same)
        · exact ((inside other mem).2 outer here).tail (contains container same)
        · rw [List.length_cons]
          omega
      cases part with
      | list handle => exact step (.list handle) rfl
      | dict handle => exact step (.dict handle) rfl
      | _ => cases depth <;> rfl
    cases value with
    | list handle =>
      simp only [viewBelow_list, List.contains_iff_mem, new (.list handle) rfl, if_false]
      refine Datum.anyCyclic_iff.mpr (List.forall_mem_map.mpr fun item mem => ?_)
      refine below (.list handle) rfl fun inner same => ?_
      subst same
      exact mem
    | dict handle =>
      simp only [viewBelow_dict, List.contains_iff_mem, new (.dict handle) rfl, if_false]
      refine Datum.anyCyclicEntry_iff.mpr (List.forall_mem_map.mpr fun entry mem => ?_)
      exact ⟨below (.dict handle) rfl (fun inner same => ⟨entry, mem, .inl same⟩),
        below (.dict handle) rfl (fun inner same => ⟨entry, mem, .inr same⟩)⟩
    | _ => rfl

/-- **What meets no container inside itself has none.** -/
theorem Apart.acyclic (apart : store.Apart value) : (store.view value).isCyclic = false :=
  apart.isCyclic_viewBelow List.nodup_nil (by simp) (Nat.lt_succ_self _)

/-- What is read to its end within some budget meets no container inside itself. -/
theorem apart_of_readWithin (read : (store.readWithin budget value).isSome = true) :
    store.Apart value := by
  rintro outer inner rfl steps within
  rcases Relation.reflTransGen_iff_eq_or_transGen.mp steps with rfl | reached
  · rw [readWithin_eq_none within] at read
    cases read
  · obtain ⟨less, -, read'⟩ := isSome_readWithin_of_within read reached
    rw [readWithin_eq_none within] at read'
    cases read'

/-- **What is read to its end within some budget has no container inside itself.** -/
theorem acyclic_of_readWithin (read : (store.readWithin budget value).isSome = true) :
    (store.view value).isCyclic = false :=
  (apart_of_readWithin read).acyclic

/-- **Exactly what has no container inside itself is read to its end.** -/
theorem isSome_read_iff :
    (store.read value).isSome = true ↔ (store.view value).isCyclic = false :=
  ⟨acyclic_of_readWithin, fun acyclic => Option.isSome_of_mem (read_eq acyclic)⟩

/-! ## What is the same -/

/-- **What is the same as a value without cycles has none.** -/
theorem acyclic_of_same (same : store.same left right = some true)
    (acyclic : (store.view right).isCyclic = false) : (store.view left).isCyclic = false := by
  rw [← isSome_read_iff]
  -- By induction on the right side, of which it is known that it comes to an end.
  induction right, acyclic using acyclic_induction generalizing left with
  | plain right acyclic plain =>
    cases left with
    | list one => cases right <;> first | cases same | cases plain
    | dict one => cases right <;> first | cases same | cases plain
    | _ => rfl
  | list other acyclic ih =>
    cases left with
    | list one =>
      rw [Store.same, sameBeside_list] at same
      split at same
      · rename_i aliased
        rw [aliased, isSome_read_iff]
        exact acyclic
      · simp only [reduceCtorEq, or_self, if_false] at same
        split at same
        · rename_i lengths
          refine isSome_read_list.mpr fun item mem => ?_
          obtain ⟨candidate, beside⟩ := exists_mem_zip lengths mem
          exact ih candidate (List.of_mem_zip beside).2 (allM_eq_some_true_iff.mp same _ beside)
        · cases same
    | dict one => cases same
    | _ => rfl
  | dict other acyclic ih =>
    cases left with
    | list one => cases same
    | dict one =>
      rw [Store.same, sameBeside_dict] at same
      split at same
      · rename_i aliased
        rw [aliased, isSome_read_iff]
        exact acyclic
      · simp only [reduceCtorEq, or_self, if_false] at same
        split at same
        · refine isSome_read_dict.mpr fun entry mem => ?_
          obtain ⟨candidate, mem', told⟩ := exists_of_anyM (allM_eq_some_true_iff.mp same _ mem)
          obtain ⟨answer, keys, told⟩ := Option.bind_eq_some_iff.mp told
          cases answer with
          | false => cases told
          | true => exact ⟨(ih candidate mem').1 keys, (ih candidate mem').2 told⟩
        · cases same
    | _ => rfl

/-! ## Stores that extend -/

/-- Comparing opens the containers of a sound store as they were before the store extended. -/
theorem Sound.sameWithin_of_extends {before after : Store} (sound : before.Sound)
    (h : before.Extends after) (held : before.Holds left) (held' : before.Holds right) :
    after.sameWithin shut budget left right = before.sameWithin shut budget left right := by
  induction budget generalizing left right with
  | zero => cases left <;> cases right <;> rfl
  | succ budget ih =>
    cases left with
    | list one =>
      cases right with
      | list other =>
        rw [sameWithin, sameWithin, h.list one held, h.list other held',
          allM_congr fun pair mem => ih (sound.items one _ (List.of_mem_zip mem).1).1
            (sound.items other _ (List.of_mem_zip mem).2).1]
      | _ => rfl
    | dict one =>
      cases right with
      | dict other =>
        have each : ∀ entry ∈ (before.dict one).entries, ∀ candidate ∈ (before.dict other).entries,
            sameEntry (after.sameWithin shut budget) entry candidate =
              sameEntry (before.sameWithin shut budget) entry candidate := by
          intro entry mem candidate mem'
          rw [sameEntry, sameEntry,
            ih (sound.keys one entry mem).1 (sound.keys other candidate mem').1,
            ih (sound.values one entry mem).1 (sound.values other candidate mem').1]
        rw [sameWithin, sameWithin, h.dict one held, h.dict other held',
          allM_congr fun entry mem => anyM_congr (each entry mem)]
      | _ => rfl
    | _ => cases right <;> rfl

/-- **Values of a sound store compare alike after the store extended.** -/
theorem Sound.sameBeside_of_extends {before after : Store} (sound : before.Sound)
    (h : before.Extends after) (held : before.Holds left) (held' : before.Holds right) :
    after.sameBeside shut left right = before.sameBeside shut left right := by
  refine Option.ext fun answer => ?_
  rw [sameBeside_eq_some_iff, sameBeside_eq_some_iff]
  simp only [sound.sameWithin_of_extends h held held']

end Store

end ReactiveScript
