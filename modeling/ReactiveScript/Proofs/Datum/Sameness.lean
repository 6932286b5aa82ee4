import ReactiveScript.Proofs.Datum.Likeness
import ReactiveScript.Proofs.Nesting.Reading

/-! # Values that are the same

In one store the same handle stands for the same tree, so on values without anything that is no
number, taking a container to be the same as itself adds nothing to comparing contents
(`same_eq_like`). Sameness of such values is reflexive. Because an integer is rounded when it is
compared with a floating-point number, it is an equivalence only among values whose integers stay
apart when they are widened; `rounding_breaks_equivalence` shows both of the ways in which it fails
otherwise. -/

namespace ReactiveScript

namespace Datum

/-- A tree that is read from a store and cut off nowhere. -/
structure ReadFrom (tree : Datum) (store : Store) : Prop where
  /-- The tree is what is read from its value. -/
  view : store.view tree.value = tree
  /-- It is cut off nowhere. -/
  acyclic : tree.isCyclic = false

namespace ReadFrom

variable {store : Store} {handle : Handle} {element key value : Ty} {items : List Datum}
variable {entries : List (Datum × Datum)}

/-- What is read from a value that contains no container inside itself is a tree of the store. -/
theorem of_view {value : Value} (acyclic : (store.view value).isCyclic = false) :
    (store.view value).ReadFrom store :=
  ⟨by rw [Store.value_view], acyclic⟩

/-- A list is read from its cell. -/
theorem list_eq (read : (list handle element items).ReadFrom store) :
    list handle element items =
      .list handle (store.list handle).element ((store.list handle).items.map store.view) := by
  have acyclic := read.acyclic
  rw [← read.view] at acyclic
  exact read.view.symm.trans (Store.view_list acyclic)

/-- The items of a list are read from its cell. -/
theorem eq_list (read : (list handle element items).ReadFrom store) :
    items = (store.list handle).items.map store.view :=
  (Datum.list.inj read.list_eq).2.2

/-- A dictionary is read from its cell. -/
theorem dict_eq (read : (dict handle key value entries).ReadFrom store) :
    dict handle key value entries =
      .dict handle (store.dict handle).key (store.dict handle).value
        ((store.dict handle).entries.map
          fun entry => (store.view entry.1, store.view entry.2)) := by
  have acyclic := read.acyclic
  rw [← read.view] at acyclic
  exact read.view.symm.trans (Store.view_dict acyclic)

/-- The entries of a dictionary are read from its cell. -/
theorem eq_dict (read : (dict handle key value entries).ReadFrom store) :
    entries =
      (store.dict handle).entries.map fun entry => (store.view entry.1, store.view entry.2) :=
  (Datum.dict.inj read.dict_eq).2.2.2

/-- Items are read from the store. -/
theorem item (read : (list handle element items).ReadFrom store) {item : Datum}
    (mem : item ∈ items) : item.ReadFrom store := by
  have acyclic := anyCyclic_iff.mp read.acyclic item mem
  rw [read.eq_list] at mem
  obtain ⟨value, -, rfl⟩ := List.mem_map.mp mem
  exact of_view acyclic

/-- Keys and values are read from the store. -/
theorem entry (read : (dict handle key value entries).ReadFrom store) {entry : Datum × Datum}
    (mem : entry ∈ entries) : entry.1.ReadFrom store ∧ entry.2.ReadFrom store := by
  obtain ⟨acyclic, acyclic'⟩ := anyCyclicEntry_iff.mp read.acyclic entry mem
  rw [read.eq_dict] at mem
  obtain ⟨cell, -, rfl⟩ := List.mem_map.mp mem
  exact ⟨of_view acyclic, of_view acyclic'⟩

/-- **Every part of a tree of the store is one.** -/
theorem part {tree part : Datum} (read : tree.ReadFrom store) (mem : part ∈ tree.parts) :
    part.ReadFrom store := by
  induction tree with
  | list handle element items ih =>
    rw [parts] at mem
    rcases List.mem_cons.mp mem with rfl | mem
    · exact read
    · obtain ⟨item, mem, found⟩ := mem_partsOfItems.mp mem
      exact ih item mem (read.item mem) found
  | dict handle key value entries keys values =>
    rw [parts] at mem
    rcases List.mem_cons.mp mem with rfl | mem
    · exact read
    · obtain ⟨entry, mem, found | found⟩ := mem_partsOfEntries.mp mem
      · exact keys entry mem (read.entry mem).1 found
      · exact values entry mem (read.entry mem).2 found
  | _ =>
    cases List.mem_singleton.mp mem
    exact read

end ReadFrom

/-- Items are the same as they are alike if each is the same as it is alike. -/
theorem sameItems_eq {items others : List Datum}
    (each : ∀ item ∈ items, ∀ other ∈ others, item.same other = item.like other) :
    sameItems items others = likeItems items others := by
  induction items generalizing others with
  | nil => cases others <;> rfl
  | cons item items ih =>
    cases others with
    | nil => rfl
    | cons other others =>
      rw [sameItems, likeItems, each item List.mem_cons_self other List.mem_cons_self, ih]
      exact fun item mem other mem' =>
        each item (List.mem_cons_of_mem _ mem) other (List.mem_cons_of_mem _ mem')

/-- Entries are the same as they are alike if each key and each value is the same as it is alike. -/
theorem covered_eq {entries others : List (Datum × Datum)}
    (keys : ∀ entry ∈ entries, ∀ other ∈ others, entry.1.same other.1 = entry.1.like other.1)
    (values : ∀ entry ∈ entries, ∀ other ∈ others, entry.2.same other.2 = entry.2.like other.2) :
    covered entries others = likeCovered entries others := by
  induction entries with
  | nil => rfl
  | cons entry entries ih =>
    obtain ⟨key, keys⟩ := List.forall_mem_cons.mp keys
    obtain ⟨value, values⟩ := List.forall_mem_cons.mp values
    rw [covered, likeCovered, ih keys values]
    congr 1
    rw [Bool.eq_iff_iff, List.any_eq_true, List.any_eq_true]
    refine exists_congr fun other => and_congr_right fun mem => ?_
    rw [key other mem, value other mem]

variable {store : Store} {left right : Datum}

/-- What is no container is the same as what it is like. -/
theorem same_eq_like_of_plain (plain : left.container? = none) :
    left.same right = left.like right := by
  cases left <;> cases right <;> first | rfl | cases plain

/-- **Trees of one store are the same when their contents are alike**, if one of them holds nothing
that is no number. -/
theorem same_eq_like (readLeft : left.ReadFrom store) (readRight : right.ReadFrom store)
    (numbers : (∀ part ∈ left.parts, part.isNaN = false) ∨
      ∀ part ∈ right.parts, part.isNaN = false) : left.same right = left.like right := by
  induction left generalizing right with
  | list handle element items ih =>
    cases right with
    | list other tag others =>
      by_cases aliased : handle = other
      · -- The same list has the same items, which are like themselves.
        subst aliased
        obtain rfl : items = others := readLeft.eq_list.trans readRight.eq_list.symm
        have self : likeItems items items = true := by
          rcases numbers with numbers | numbers
          · have self := like_self readLeft.acyclic numbers
            rwa [like] at self
          · have self := like_self readRight.acyclic numbers
            rwa [like] at self
        rw [same, like, self, beq_self_eq_true, Bool.true_or]
      · rw [forall_parts_list, forall_parts_list] at numbers
        rw [same, like, beq_false_of_ne aliased, Bool.false_or]
        exact sameItems_eq fun item mem other mem' =>
          ih item mem (readLeft.item mem) (readRight.item mem')
            (numbers.imp (fun numbers => numbers.2 item mem) fun numbers => numbers.2 other mem')
    | cycle container => cases readRight.acyclic
    | _ => rfl
  | dict handle key value entries keys values =>
    cases right with
    | dict other tag tag' others =>
      by_cases aliased : handle = other
      · subst aliased
        obtain rfl : entries = others := readLeft.eq_dict.trans readRight.eq_dict.symm
        have self : likeCovered entries entries = true := by
          rcases numbers with numbers | numbers
          · have self := like_self readLeft.acyclic numbers
            rwa [like, beq_self_eq_true, Bool.true_and] at self
          · have self := like_self readRight.acyclic numbers
            rwa [like, beq_self_eq_true, Bool.true_and] at self
        rw [same, like, self, beq_self_eq_true, beq_self_eq_true, Bool.true_or, Bool.true_and]
      · rw [forall_parts_dict, forall_parts_dict] at numbers
        rw [same, like, beq_false_of_ne aliased, Bool.false_or]
        congr 1
        refine covered_eq (fun entry mem other mem' => ?_) (fun entry mem other mem' => ?_)
        · refine keys entry mem (readLeft.entry mem).1 (readRight.entry mem').1 ?_
          exact numbers.imp (fun numbers => numbers.2.1 entry mem)
            fun numbers => numbers.2.1 other mem'
        · refine values entry mem (readLeft.entry mem).2 (readRight.entry mem').2 ?_
          exact numbers.imp (fun numbers => numbers.2.2 entry mem)
            fun numbers => numbers.2.2 other mem'
    | cycle container => cases readRight.acyclic
    | _ => rfl
  | cycle container => cases readLeft.acyclic
  | _ => exact same_eq_like_of_plain rfl

end Datum

namespace Store

variable {store : Store} {left middle right : Value}

/-- **A value that can be compared**: no container stands inside itself, nothing is no number, and
the keys of every dictionary are pairwise different. -/
structure Comparable (store : Store) (value : Value) : Prop where
  /-- No container stands inside itself. -/
  acyclic : (store.view value).isCyclic = false
  /-- Nothing is no number. -/
  numbers : ∀ part ∈ (store.view value).parts, part.isNaN = false
  /-- The keys of every dictionary are pairwise different. -/
  keys : ∀ part ∈ (store.view value).parts,
    part.keys.Pairwise fun key other => key.same other = false

/-- A value is the same as itself, if no container stands inside itself and nothing is no number. -/
theorem same_self (acyclic : (store.view left).isCyclic = false)
    (numbers : ∀ part ∈ (store.view left).parts, part.isNaN = false) :
    store.same left left = some true := by
  rw [same_eq acyclic acyclic,
    Datum.same_eq_like (.of_view acyclic) (.of_view acyclic) (.inl numbers),
    Datum.like_self acyclic numbers]

/-- Values that can be compared are the same when their contents are alike. -/
theorem Comparable.same_eq (comparable : store.Comparable left)
    (acyclic : (store.view right).isCyclic = false) :
    store.same left right = some ((store.view left).like (store.view right)) := by
  rw [Store.same_eq comparable.acyclic acyclic,
    Datum.same_eq_like (.of_view comparable.acyclic) (.of_view acyclic) (.inl comparable.numbers)]

/-- The contents of the keys of every dictionary are pairwise different. -/
theorem Comparable.keys_like (comparable : store.Comparable left) :
    ∀ part ∈ (store.view left).parts,
      part.keys.Pairwise fun key other => key.like other = false := by
  intro part mem
  have read := (Datum.ReadFrom.of_view comparable.acyclic).part mem
  refine (comparable.keys part mem).imp_of_mem fun {key other} found found' differ => ?_
  have inside := Datum.mem_parts_of_mem_keys found
  rw [← Datum.same_eq_like (read.part inside) (read.part (Datum.mem_parts_of_mem_keys found'))]
  · exact differ
  · exact .inl fun inner mem' => comparable.numbers inner
      (Datum.mem_parts_trans mem (Datum.mem_parts_trans inside mem'))

/-- **Sameness is an equivalence where integers stay apart.** A value that can be compared is the
same as itself. Sameness does not depend on the order if the integers in different keys of one
dictionary stay apart when they are widened, and it is handed on if those of the first value stay
apart from those of the last. -/
theorem same_equivalence (first : store.Comparable left) (second : store.Comparable middle)
    (third : store.Comparable right) :
    store.same left left = some true ∧
      ((∀ part ∈ (store.view left).parts, part.keys.Pairwise Datum.Discerns) →
        store.same left middle = some true → store.same middle left = some true) ∧
      ((store.view left).Discerns (store.view right) → store.same left middle = some true →
        store.same middle right = some true → store.same left right = some true) := by
  rw [first.same_eq first.acyclic, first.same_eq second.acyclic, second.same_eq first.acyclic,
    second.same_eq third.acyclic, first.same_eq third.acyclic]
  simp only [Option.some.injEq]
  exact ⟨Datum.like_self first.acyclic first.numbers, Datum.like_symm first.keys_like,
    Datum.like_trans⟩

/-- A store with a dictionary of two integer keys, a dictionary with one key that both of them widen
to, and two dictionaries that are the same in another order and with other numbers. -/
def widenedKeys : Store where
  lists := #[⟨.any, [.int 1, .text "two"], []⟩]
  dicts := #[
    ⟨.any, .any, [(.int 9007199254740992, .int 1), (.int 9007199254740993, .int 1)], []⟩,
    ⟨.any, .any, [(.float 9007199254740992, .int 1), (.int 5, .int 1)], []⟩,
    ⟨.any, .any, [(.list 0, .int 3), (.int 3, .list 0)], []⟩,
    ⟨.any, .any, [(.float 3, .list 0), (.list 0, .complex 3 0)], []⟩]

/-- A dictionary of integers and lists is the same as one of other numbers in another order, and the
other way round. -/
theorem same_equivalence_mixed :
    widenedKeys.same (.dict 3) (.dict 2) = some true ∧
      widenedKeys.same (.dict 2) (.dict 2) = some true := by
  have first : widenedKeys.Comparable (.dict 2) :=
    ⟨by decide, by decide, by decide⟩
  have second : widenedKeys.Comparable (.dict 3) :=
    ⟨by decide, by decide, by decide⟩
  obtain ⟨-, back, on⟩ := same_equivalence first second first
  have forth : widenedKeys.same (.dict 2) (.dict 3) = some true := by decide
  have back := back (by decide) forth
  exact ⟨back, on (by decide) forth back⟩

/-- **Rounding breaks both symmetry and transitivity.** An integer that is no floating-point number
is the same as the nearest one, which is the same as another integer; and a dictionary that has both
integers as keys is the same as one that has the floating-point number and something else, but not
the other way round. -/
theorem rounding_breaks_equivalence :
    (widenedKeys.Comparable (.dict 0) ∧ widenedKeys.Comparable (.dict 1) ∧
      widenedKeys.same (.dict 0) (.dict 1) = some true ∧
      widenedKeys.same (.dict 1) (.dict 0) = some false) ∧
    (widenedKeys.Comparable (.int 9007199254740993) ∧
      widenedKeys.Comparable (.float 9007199254740992) ∧
      widenedKeys.Comparable (.int 9007199254740992) ∧
      widenedKeys.same (.int 9007199254740993) (.float 9007199254740992) = some true ∧
      widenedKeys.same (.float 9007199254740992) (.int 9007199254740992) = some true ∧
      widenedKeys.same (.int 9007199254740993) (.int 9007199254740992) = some false) := by
  refine ⟨⟨⟨?_, ?_, ?_⟩, ⟨?_, ?_, ?_⟩, ?_, ?_⟩,
    ⟨?_, ?_, ?_⟩, ⟨?_, ?_, ?_⟩, ⟨?_, ?_, ?_⟩, ?_, ?_, ?_⟩
  all_goals decide

end Store

end ReactiveScript
