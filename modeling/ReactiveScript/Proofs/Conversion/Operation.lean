import ReactiveScript.Proofs.Conversion.Contents
import ReactiveScript.Proofs.Store.Sound

/-! # Operations that convert contents

A `Store.Tidy` value is well formed, and its keys compare as their contents do. An operation
`Follows` a conversion of contents if its results have the converted contents, and `Achieves` it if
it has a result wherever the conversion gives one. Both are handed on to operations on the items of
a list and on the entries of a dictionary. -/

namespace ReactiveScript

/-- A container whose contents conform to its tags. -/
def Datum.Tagged (store : Store) : Datum → Prop
  | .list _ element items => ∀ item ∈ items, store.Conforms element item.value
  | .dict _ key value entries => ∀ entry ∈ entries,
    store.Conforms key entry.1.value ∧ store.Conforms value entry.2.value
  | _ => True

namespace Store

/-- **A well-formed value**: all there, with containers that hold what their tags say and
dictionaries whose keys are pairwise different. -/
structure WellFormed (store : Store) (value : Value) : Prop extends store.Whole value where
  /-- Containers hold what their tags say. -/
  tags : ∀ part ∈ (store.view value).parts, part.Tagged store
  /-- The keys of every dictionary are pairwise different. -/
  keys : ∀ part ∈ (store.view value).parts,
    part.keys.Pairwise fun key other => key.same other = false

/-- A well-formed value with keys that compare as their contents do. -/
structure Tidy (store : Store) (value : Value) : Prop extends store.WellFormed value where
  /-- A key that is a container holds nothing that is no number. -/
  steady : ∀ part ∈ (store.view value).parts, ∀ key ∈ part.keys, key.Steady

variable {store before after : Store} {value : Value} {handle : Handle}

namespace Tidy

/-- What is part of a tidy value and all there is tidy. -/
theorem of_parts {inner : Value} (tidy : store.Tidy value) (whole : store.Whole inner)
    (inside : ∀ part ∈ (store.view inner).parts, part ∈ (store.view value).parts) :
    store.Tidy inner where
  toWhole := whole
  tags part mem := tidy.tags part (inside part mem)
  keys part mem := tidy.keys part (inside part mem)
  steady part mem := tidy.steady part (inside part mem)

/-- The items of a tidy list conform to its tag and are tidy. -/
theorem item (tidy : store.Tidy (.list handle)) {item : Value}
    (mem : item ∈ (store.list handle).items) :
    store.Conforms (store.list handle).element item ∧ store.Tidy item := by
  have tree := view_list tidy.acyclic
  have mem' := List.mem_map_of_mem (f := store.view) mem
  refine ⟨?_, tidy.of_parts (tidy.toWhole.item mem) fun part inside => ?_⟩
  · have tags := tidy.tags _ (Datum.mem_parts_self _)
    rw [tree] at tags
    simpa using tags _ mem'
  · rw [tree]
    exact Datum.mem_parts_list mem' inside

/-- The keys and values of a tidy dictionary conform to its tags and are tidy. -/
theorem entry (tidy : store.Tidy (.dict handle)) {entry : Value × Value}
    (mem : entry ∈ (store.dict handle).entries) :
    (store.Conforms (store.dict handle).key entry.1 ∧ store.Tidy entry.1) ∧
      store.Conforms (store.dict handle).value entry.2 ∧ store.Tidy entry.2 := by
  have tree := view_dict tidy.acyclic
  have mem' := List.mem_map_of_mem
    (f := fun entry : Value × Value => (store.view entry.1, store.view entry.2)) mem
  have tags := tidy.tags _ (Datum.mem_parts_self _)
  rw [tree] at tags
  obtain ⟨key, value⟩ := tags _ mem'
  obtain ⟨wholeKey, wholeValue⟩ := tidy.toWhole.entry mem
  refine ⟨⟨by simpa using key, tidy.of_parts wholeKey fun part inside => ?_⟩,
    by simpa using value, tidy.of_parts wholeValue fun part inside => ?_⟩
  · rw [tree]
    exact Datum.mem_parts_dict mem' (.inl inside)
  · rw [tree]
    exact Datum.mem_parts_dict mem' (.inr inside)

end Tidy

/-- Values that are all there are the same when their contents are alike, if the first compares as
its contents do. -/
theorem Whole.same_eq {left right : Value} (whole : store.Whole left) (whole' : store.Whole right)
    (steady : (store.contents left).Steady) :
    store.same left right = some ((store.contents left).like (store.contents right)) := by
  rw [contents, contents, Datum.like_bare, Store.same_eq whole.acyclic whole'.acyclic]
  congr 1
  rcases Datum.steady_bare_iff.mp steady with plain | numbers
  · exact Datum.same_eq_like_of_plain plain
  · exact Datum.same_eq_like (.of_view whole.acyclic) (.of_view whole'.acyclic) (.inl numbers)

/-- The contents of a key of a tidy dictionary are steady. -/
theorem Tidy.steady_key (tidy : store.Tidy (.dict handle)) {entry : Value × Value}
    (mem : entry ∈ (store.dict handle).entries) : (store.contents entry.1).Steady := by
  refine Datum.steady_bare_iff.mpr (tidy.steady _ (Datum.mem_parts_self _) _ ?_)
  rw [view_dict tidy.acyclic, Datum.keys, List.map_map]
  exact List.mem_map_of_mem (f := fun entry : Value × Value => store.view entry.1) mem

/-- The contents of the keys of a tidy dictionary are pairwise different. -/
theorem Tidy.keys_like (tidy : store.Tidy (.dict handle)) :
    ((store.dict handle).entries.map store.entryContents).Pairwise
      fun entry other => entry.1.like other.1 = false := by
  have differ := tidy.keys _ (Datum.mem_parts_self _)
  rw [view_dict tidy.acyclic, Datum.keys, List.map_map] at differ
  refine List.pairwise_map.mpr ((List.pairwise_map.mp differ).imp_of_mem ?_)
  intro entry other mem mem' differ
  obtain ⟨whole, -⟩ := tidy.toWhole.entry mem
  obtain ⟨whole', -⟩ := tidy.toWhole.entry mem'
  have same := whole.same_eq whole' (tidy.steady_key mem)
  rw [Store.same_eq whole.acyclic whole'.acyclic, Option.some.injEq] at same
  exact same.symm.trans differ

/-- **What an operation adds to a store**: the store extends, and the result is all there, with some
contents. -/
structure Adds (before after : Store) (result : Value) (contents : Datum) : Prop where
  /-- The store extends. -/
  kept : before.Extends after
  /-- The result is all there. -/
  whole : after.Whole result
  /-- It has the contents. -/
  shows : after.contents result = contents

/-- A value that is there already is added with its contents. -/
theorem Adds.refl (whole : store.Whole value) : store.Adds store value (store.contents value) :=
  ⟨.refl store, whole, rfl⟩

/-- A new list is added with the contents of its items. -/
theorem adds_newList (element : Ty) {items : List Value} (each : ∀ item ∈ items, store.Whole item) :
    store.Adds { store with lists := store.lists.push ⟨element, items, []⟩ }
      (.list store.lists.size) (.list 0 .any (items.map store.contents)) :=
  ⟨.pushList store _, (whole_newList element each).1, (whole_newList element each).2⟩

/-- A new dictionary is added with the contents of its entries. -/
theorem adds_newDict (keyType valueType : Ty) {entries : List (Value × Value)}
    (each : ∀ entry ∈ entries, store.Whole entry.1 ∧ store.Whole entry.2) :
    store.Adds { store with dicts := store.dicts.push ⟨keyType, valueType, entries, []⟩ }
      (.dict store.dicts.size) (.dict 0 .any .any (entries.map store.entryContents)) :=
  ⟨.pushDict store _, (whole_newDict keyType valueType each).1,
    (whole_newDict keyType valueType each).2⟩

end Store

/-! ## Operations that convert contents -/

namespace Alloc

/-- An operation whose results have the contents that a conversion gives: on every store that
extends the given one, what it returns is converted from the contents of the value. -/
def Follows (operation : Value → Alloc Value) (convert : Datum → Option Datum) (base : Store)
    (value : Value) : Prop :=
  ∀ ⦃store result after⦄, base.Extends store → (operation value).run store = .ok (result, after) →
    ∃ contents, convert (base.contents value) = some contents ∧ store.Adds after result contents

/-- An operation that returns whatever a conversion gives: on every store that extends the given
one, it has a result with the converted contents. -/
def Achieves (operation : Value → Alloc Value) (convert : Datum → Option Datum) (base : Store)
    (value : Value) : Prop :=
  ∀ ⦃store contents⦄, base.Extends store → convert (base.contents value) = some contents →
    ∃ result after, (operation value).run store = .ok (result, after) ∧
      store.Adds after result contents

variable {operation : Value → Alloc Value} {convert : Datum → Option Datum}
variable {base store after : Store}

/-- Converting one value after the other converts the contents one after the other. -/
theorem mapM_follows {values results : List Value}
    (each : ∀ value ∈ values, Follows operation convert base value) (h : base.Extends store)
    (ran : (values.mapM operation).run store = .ok (results, after)) :
    store.Extends after ∧ (∀ result ∈ results, after.Whole result) ∧
      (values.map base.contents).mapM convert = some (results.map after.contents) := by
  induction values generalizing store results with
  | nil =>
    cases ran
    exact ⟨.refl _, by simp, rfl⟩
  | cons value values ih =>
    obtain ⟨follows, each⟩ := List.forall_mem_cons.mp each
    rw [List.mapM_cons] at ran
    obtain ⟨⟨result, middle⟩, first, ran⟩ := exists_of_bind_eq_ok ran
    obtain ⟨⟨rest, final⟩, others, ran⟩ := exists_of_bind_eq_ok ran
    cases ran
    obtain ⟨contents, converted, added⟩ := follows h first
    obtain ⟨kept, whole, converted'⟩ := ih each (h.trans added.kept) others
    refine ⟨added.kept.trans kept,
      List.forall_mem_cons.mpr ⟨added.whole.of_extends kept, whole⟩, ?_⟩
    rw [List.map_cons, List.mapM_cons, converted, converted', List.map_cons,
      added.whole.contents_eq kept, added.shows]
    rfl

/-- Contents that are converted one after the other are those of values that are. -/
theorem mapM_achieves {values : List Value} {contents : List Datum}
    (each : ∀ value ∈ values, Achieves operation convert base value) (h : base.Extends store)
    (converted : (values.map base.contents).mapM convert = some contents) :
    ∃ results after, (values.mapM operation).run store = .ok (results, after) ∧
      store.Extends after ∧ (∀ result ∈ results, after.Whole result) ∧
      results.map after.contents = contents := by
  induction values generalizing store contents with
  | nil =>
    cases converted
    exact ⟨[], store, rfl, .refl store, by simp, rfl⟩
  | cons value values ih =>
    obtain ⟨achieves, each⟩ := List.forall_mem_cons.mp each
    rw [List.map_cons, List.mapM_cons] at converted
    obtain ⟨first, found, converted⟩ := Option.bind_eq_some_iff.mp converted
    obtain ⟨rest, others, converted⟩ := Option.bind_eq_some_iff.mp converted
    cases converted
    obtain ⟨result, middle, ran, added⟩ := achieves h found
    obtain ⟨results, after, ran', kept, whole, shows⟩ := ih each (h.trans added.kept) others
    refine ⟨result :: results, after, ?_, added.kept.trans kept,
      List.forall_mem_cons.mpr ⟨added.whole.of_extends kept, whole⟩, ?_⟩
    · rw [List.mapM_cons, StateT.run_bind, ran]
      change ((values.mapM operation >>= fun found => pure (result :: found)).run middle) = _
      rw [StateT.run_bind, ran']
      rfl
    · rw [List.map_cons, shows, added.whole.contents_eq kept, added.shows]

/-- Entries that are all there, with keys that compare as their contents do. -/
def Lined (store : Store) (entries : List (Value × Value)) : Prop :=
  ∀ entry ∈ entries, (store.Whole entry.1 ∧ (store.contents entry.1).Steady) ∧ store.Whole entry.2

/-- Entries stay all there in a store that extends. -/
theorem Lined.of_extends {entries : List (Value × Value)} (lined : Lined base entries)
    (h : base.Extends store) : Lined store entries := by
  intro entry mem
  obtain ⟨⟨key, steady⟩, value⟩ := lined entry mem
  refine ⟨⟨key.of_extends h, ?_⟩, value.of_extends h⟩
  rw [key.contents_eq h]
  exact steady

/-- Entries keep their contents in a store that extends. -/
theorem Lined.map_entryContents {entries : List (Value × Value)} (lined : Lined base entries)
    (h : base.Extends store) :
    entries.map store.entryContents = entries.map base.entryContents := by
  refine List.map_congr_left fun entry mem => ?_
  obtain ⟨⟨key, -⟩, value⟩ := lined entry mem
  rw [Store.entryContents, key.contents_eq h, value.contents_eq h, Store.entryContents]

/-- **Setting an entry sets it in the contents.** -/
theorem Lined.setEntry {entries : List (Value × Value)} {key value : Value}
    (lined : Lined store entries) (whole : store.Whole key) (steady : (store.contents key).Steady)
    (whole' : store.Whole value) :
    ∃ set, store.setEntry none key value entries = some set ∧ Lined store set ∧
      set.map store.entryContents =
        Datum.setEntry (store.contents key) (store.contents value)
          (entries.map store.entryContents) := by
  induction entries with
  | nil => exact ⟨_, rfl, by simpa [Lined] using ⟨⟨whole, steady⟩, whole'⟩, rfl⟩
  | cons entry entries ih =>
    obtain ⟨first, rest⟩ := List.forall_mem_cons.mp lined
    obtain ⟨set, found, kept, contents⟩ := ih rest
    -- A key with steady contents is the same as what its contents are like.
    have compared : store.sameBeside none entry.1 key
        = some ((store.contents entry.1).like (store.contents key)) :=
      first.1.1.same_eq whole first.1.2
    rw [Store.setEntry, compared, found, List.map_cons, Store.entryContents, Datum.setEntry]
    split
    · rename_i alike
      rw [alike]
      exact ⟨(entry.1, value) :: entries, rfl,
        List.forall_mem_cons.mpr ⟨⟨first.1, whole'⟩, rest⟩, rfl⟩
    · rename_i unlike
      rw [Bool.not_eq_true] at unlike
      rw [unlike]
      exact ⟨entry :: set, rfl, List.forall_mem_cons.mpr ⟨first, kept⟩,
        by rw [List.map_cons, contents]; rfl⟩

section Entries

variable {convertKey convertValue : Value → Alloc Value} {ofKey ofValue : Datum → Option Datum}
variable {entries done : List (Value × Value)}

/-- A converted entry is set among the entries that are converted before it. -/
theorem Lined.setConverted {middle : Store} {newKey newValue : Value} {keyContents : Datum}
    {valueContents : Datum} (lined : Lined store done)
    (addedKey : store.Adds middle newKey keyContents) (steady : keyContents.Steady)
    (addedValue : middle.Adds after newValue valueContents) :
    ∃ set, after.setEntry none newKey newValue done = some set ∧ Lined after set ∧
      set.map after.entryContents =
        Datum.setEntry keyContents valueContents (done.map store.entryContents) := by
  have kept := addedKey.kept.trans addedValue.kept
  have shows : after.contents newKey = keyContents :=
    (addedKey.whole.contents_eq addedValue.kept).trans addedKey.shows
  obtain ⟨set, found, lined', contents⟩ := (lined.of_extends kept).setEntry
    (addedKey.whole.of_extends addedValue.kept) (by rwa [shows]) addedValue.whole
  rw [shows, addedValue.shows, lined.map_entryContents kept] at contents
  exact ⟨set, found, lined', contents⟩

/-- Converting one entry after the other converts the contents one after the other. -/
theorem convertEntries_follows {results : List (Value × Value)}
    (keys : ∀ entry ∈ entries, Follows convertKey ofKey base entry.1)
    (values : ∀ entry ∈ entries, Follows convertValue ofValue base entry.2)
    (steady : ∀ entry ∈ entries, ∀ contents, ofKey (base.contents entry.1) = some contents →
      contents.Steady)
    (h : base.Extends store) (lined : Lined store done)
    (ran : (Value.convertEntries convertKey convertValue done entries).run store =
      .ok (results, after)) :
    store.Extends after ∧ Lined after results ∧
      Datum.convertEntries ofKey ofValue (done.map store.entryContents)
        (entries.map base.entryContents) = some (results.map after.entryContents) := by
  induction entries generalizing store done with
  | nil =>
    cases ran
    exact ⟨.refl _, lined, rfl⟩
  | cons entry entries ih =>
    obtain ⟨key, keys⟩ := List.forall_mem_cons.mp keys
    obtain ⟨value, values⟩ := List.forall_mem_cons.mp values
    obtain ⟨steadyKey, steady⟩ := List.forall_mem_cons.mp steady
    -- The key is converted, then the value, then both are put in, and the rest follows.
    obtain ⟨⟨newKey, between⟩, first, ran⟩ := exists_of_bind_eq_ok ran
    obtain ⟨⟨newValue, middle⟩, second, ran⟩ := exists_of_bind_eq_ok ran
    obtain ⟨keyContents, convertedKey, addedKey⟩ := key h first
    obtain ⟨valueContents, convertedValue, addedValue⟩ := value (h.trans addedKey.kept) second
    have kept := addedKey.kept.trans addedValue.kept
    obtain ⟨set, found, lined', contents⟩ :=
      lined.setConverted addedKey (steadyKey _ convertedKey) addedValue
    change ((liftM (middle.setEntry none newKey newValue done) : Alloc _).run middle >>= fun next =>
      (Value.convertEntries convertKey convertValue next.1 entries).run next.2) = _ at ran
    rw [found] at ran
    obtain ⟨kept', lined'', converted⟩ := ih keys values steady (h.trans kept) lined' ran
    refine ⟨kept.trans kept', lined'', ?_⟩
    rw [contents] at converted
    rw [List.map_cons, Store.entryContents, Datum.convertEntries, convertedKey,
      Option.bind_eq_bind, Option.bind_some, convertedValue, Option.bind_some, converted]

/-- Contents of entries that are converted one after the other are those of entries that are. -/
theorem convertEntries_achieves {contents : List (Datum × Datum)}
    (keys : ∀ entry ∈ entries, Achieves convertKey ofKey base entry.1)
    (values : ∀ entry ∈ entries, Achieves convertValue ofValue base entry.2)
    (steady : ∀ entry ∈ entries, ∀ contents, ofKey (base.contents entry.1) = some contents →
      contents.Steady)
    (h : base.Extends store) (lined : Lined store done)
    (converted : Datum.convertEntries ofKey ofValue (done.map store.entryContents)
      (entries.map base.entryContents) = some contents) :
    ∃ results after,
      (Value.convertEntries convertKey convertValue done entries).run store =
        .ok (results, after) ∧
      store.Extends after ∧ Lined after results ∧ results.map after.entryContents = contents := by
  induction entries generalizing store done with
  | nil =>
    cases converted
    exact ⟨done, store, rfl, .refl _, lined, rfl⟩
  | cons entry entries ih =>
    obtain ⟨key, keys⟩ := List.forall_mem_cons.mp keys
    obtain ⟨value, values⟩ := List.forall_mem_cons.mp values
    obtain ⟨steadyKey, steady⟩ := List.forall_mem_cons.mp steady
    obtain ⟨keyContents, convertedKey, converted⟩ := Option.bind_eq_some_iff.mp converted
    obtain ⟨valueContents, convertedValue, converted⟩ := Option.bind_eq_some_iff.mp converted
    obtain ⟨newKey, between, ranKey, addedKey⟩ := key h convertedKey
    obtain ⟨newValue, middle, ranValue, addedValue⟩ := value (h.trans addedKey.kept) convertedValue
    have kept := addedKey.kept.trans addedValue.kept
    -- A key whose contents are steady is looked for among the results as among their contents.
    obtain ⟨set, found, lined', same⟩ :=
      lined.setConverted addedKey (steadyKey _ convertedKey) addedValue
    rw [← same] at converted
    obtain ⟨results, after, ran, kept', lined'', shows⟩ :=
      ih keys values steady (h.trans kept) lined' converted
    refine ⟨results, after, ?_, kept.trans kept', lined'', shows⟩
    change ((convertKey entry.1).run store >>= fun first =>
      (convertValue entry.2).run first.2 >>= fun second =>
        (liftM (second.2.setEntry none first.1 second.1 done) : Alloc _).run second.2 >>=
          fun next => (Value.convertEntries convertKey convertValue next.1 entries).run next.2) = _
    rw [ranKey]
    change ((convertValue entry.2).run between >>= _) = _
    rw [ranValue]
    change ((liftM (middle.setEntry none newKey newValue done) : Alloc _).run middle >>= _) = _
    rw [found]
    exact ran

end Entries

end Alloc

end ReactiveScript
