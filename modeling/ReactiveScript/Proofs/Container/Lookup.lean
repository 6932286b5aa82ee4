import ReactiveScript.Value.Container

/-! # Searching the entries of a dictionary

Whatever is done with a key of a dictionary is done with the first entry whose key is the same as
the one that is asked for. Each operation on entries is described twice: from the entries, which do
not have the key or are split at the first one that has it, and from the result, where there is one
(`Store.setEntry_cases` and its like). There is none where two keys cannot be compared to the end.
-/

namespace ReactiveScript

namespace Store

variable {store : Store} {shut : Option Container} {key value : Value} {entry : Value × Value}
variable {entries before behind : List (Value × Value)}

/-- Whether a key is told apart from the keys of all of some entries while a container is shut. -/
def Misses (store : Store) (shut : Option Container) (key : Value)
    (entries : List (Value × Value)) : Prop :=
  ∀ entry ∈ entries, store.sameBeside shut entry.1 key = some false

/-- Entries that are split at the first one that has a key. -/
structure Splits (store : Store) (shut : Option Container) (key : Value)
    (entries before : List (Value × Value)) (entry : Value × Value)
    (behind : List (Value × Value)) : Prop where
  /-- The entry stands between the others. -/
  entries : entries = before ++ entry :: behind
  /-- No entry before it has the key. -/
  misses : store.Misses shut key before
  /-- It has the key. -/
  same : store.sameBeside shut entry.1 key = some true

/-- An entry that has the key comes first. -/
theorem splits_head (same : store.sameBeside shut entry.1 key = some true) :
    store.Splits shut key (entry :: entries) [] entry entries :=
  ⟨rfl, List.forall_mem_nil _, same⟩

/-- An entry that does not have the key comes before the first one that has it. -/
theorem Splits.cons {first : Value × Value}
    (splits : store.Splits shut key entries before entry behind)
    (differs : store.sameBeside shut first.1 key = some false) :
    store.Splits shut key (first :: entries) (first :: before) entry behind :=
  ⟨congrArg _ splits.entries, List.forall_mem_cons.mpr ⟨differs, splits.misses⟩, splits.same⟩

/-- **Entries without a key, or split at the first entry that has it**, where the key can be told
apart from all keys or is the same. -/
theorem misses_or_splits
    (ends : ∀ entry ∈ entries, (store.sameBeside shut entry.1 key).isSome = true) :
    store.Misses shut key entries ∨ ∃ before entry behind,
      store.Splits shut key entries before entry behind := by
  induction entries with
  | nil => exact .inl (List.forall_mem_nil _)
  | cons first rest ih =>
    obtain ⟨answered, ends⟩ := List.forall_mem_cons.mp ends
    obtain ⟨same, compared⟩ := Option.isSome_iff_exists.mp answered
    cases same with
    | true => exact .inr ⟨[], first, rest, splits_head compared⟩
    | false =>
      rcases ih ends with misses | ⟨before, entry, behind, splits⟩
      · exact .inl (List.forall_mem_cons.mpr ⟨compared, misses⟩)
      · exact .inr ⟨first :: before, entry, behind, splits.cons compared⟩

namespace Misses

/-- A search finds nothing where the key is missing. -/
theorem findEntry_eq (misses : store.Misses none key entries) :
    store.findEntry key entries = some none := by
  induction entries with
  | nil => rfl
  | cons first rest ih =>
    obtain ⟨differs, misses⟩ := List.forall_mem_cons.mp misses
    simp [findEntry, same, differs, ih misses]

/-- A search finds the first entry that has the key. -/
theorem findEntry_append (misses : store.Misses none key before)
    (same : store.same entry.1 key = some true) :
    store.findEntry key (before ++ entry :: behind) = some (some entry.2) := by
  induction before with
  | nil => simp [findEntry, same]
  | cons first rest ih =>
    obtain ⟨differs, misses⟩ := List.forall_mem_cons.mp misses
    simp [findEntry, Store.same, differs, ih misses]

/-- Nothing is taken out where the key is missing. -/
theorem removeEntry_eq (misses : store.Misses shut key entries) :
    store.removeEntry shut key entries = some none := by
  induction entries with
  | nil => rfl
  | cons first rest ih =>
    obtain ⟨differs, misses⟩ := List.forall_mem_cons.mp misses
    simp [removeEntry, differs, ih misses]

/-- A key that is missing is put behind the entries. -/
theorem setEntry_eq (misses : store.Misses shut key entries) :
    store.setEntry shut key value entries = some (entries ++ [(key, value)]) := by
  induction entries with
  | nil => rfl
  | cons first rest ih =>
    obtain ⟨differs, misses⟩ := List.forall_mem_cons.mp misses
    simp [setEntry, differs, ih misses]

end Misses

namespace Splits

/-- The first entry that has the key is taken out. -/
theorem removeEntry_eq (splits : store.Splits shut key entries before entry behind) :
    store.removeEntry shut key entries = some (some (entry.2, before ++ behind)) := by
  obtain ⟨rfl, misses, same⟩ := splits
  induction before with
  | nil => simp [removeEntry, same]
  | cons first rest ih =>
    obtain ⟨differs, misses⟩ := List.forall_mem_cons.mp misses
    simp [removeEntry, differs, ih misses]

/-- The first entry that has the key keeps its own key and gets the value. -/
theorem setEntry_eq (splits : store.Splits shut key entries before entry behind) :
    store.setEntry shut key value entries = some (before ++ (entry.1, value) :: behind) := by
  obtain ⟨rfl, misses, same⟩ := splits
  induction before with
  | nil => simp [setEntry, same]
  | cons first rest ih =>
    obtain ⟨differs, misses⟩ := List.forall_mem_cons.mp misses
    simp [setEntry, differs, ih misses]

end Splits

/-! ## What a result says -/

/-- **Where a key is set, it was missing and stands at the end, or the first entry that has it got
the value.** -/
theorem setEntry_cases {set : List (Value × Value)}
    (done : store.setEntry shut key value entries = some set) :
    store.Misses shut key entries ∧ set = entries ++ [(key, value)] ∨
      ∃ before entry behind, store.Splits shut key entries before entry behind ∧
        set = before ++ (entry.1, value) :: behind := by
  induction entries generalizing set with
  | nil =>
    cases done
    exact .inl ⟨List.forall_mem_nil _, rfl⟩
  | cons first rest ih =>
    obtain ⟨same, compared, done⟩ := Option.bind_eq_some_iff.mp done
    cases same with
    | true =>
      cases done
      exact .inr ⟨[], first, rest, splits_head compared, rfl⟩
    | false =>
      obtain ⟨later, further, done⟩ := Option.bind_eq_some_iff.mp done
      cases done
      rcases ih further with ⟨misses, rfl⟩ | ⟨before, entry, behind, splits, rfl⟩
      · exact .inl ⟨List.forall_mem_cons.mpr ⟨compared, misses⟩, rfl⟩
      · exact .inr ⟨first :: before, entry, behind, splits.cons compared, rfl⟩

/-- **Where a search ends, the key was missing and nothing is found, or the value of the first entry
that has it.** -/
theorem findEntry_cases {found : Option Value} (done : store.findEntry key entries = some found) :
    store.Misses none key entries ∧ found = none ∨
      ∃ before entry behind, store.Splits none key entries before entry behind ∧
        found = some entry.2 := by
  induction entries with
  | nil =>
    cases done
    exact .inl ⟨List.forall_mem_nil _, rfl⟩
  | cons first rest ih =>
    obtain ⟨same, compared, done⟩ := Option.bind_eq_some_iff.mp done
    cases same with
    | true =>
      cases done
      exact .inr ⟨[], first, rest, splits_head compared, rfl⟩
    | false =>
      rcases ih done with ⟨misses, rfl⟩ | ⟨before, entry, behind, splits, rfl⟩
      · exact .inl ⟨List.forall_mem_cons.mpr ⟨compared, misses⟩, rfl⟩
      · exact .inr ⟨first :: before, entry, behind, splits.cons compared, rfl⟩

/-- **Where a key is taken out, it was missing and nothing is given, or the value of the first entry
that has it and the other entries.** -/
theorem removeEntry_cases {result : Option (Value × List (Value × Value))}
    (done : store.removeEntry shut key entries = some result) :
    store.Misses shut key entries ∧ result = none ∨
      ∃ before entry behind, store.Splits shut key entries before entry behind ∧
        result = some (entry.2, before ++ behind) := by
  induction entries generalizing result with
  | nil =>
    cases done
    exact .inl ⟨List.forall_mem_nil _, rfl⟩
  | cons first rest ih =>
    obtain ⟨same, compared, done⟩ := Option.bind_eq_some_iff.mp done
    cases same with
    | true =>
      cases done
      exact .inr ⟨[], first, rest, splits_head compared, rfl⟩
    | false =>
      obtain ⟨later, further, done⟩ := Option.bind_eq_some_iff.mp done
      cases done
      rcases ih further with ⟨misses, rfl⟩ | ⟨before, entry, behind, splits, rfl⟩
      · exact .inl ⟨List.forall_mem_cons.mpr ⟨compared, misses⟩, rfl⟩
      · exact .inr ⟨first :: before, entry, behind, splits.cons compared, rfl⟩

/-- **Where a value is taken out, it was missing and nothing is given, or the other values without
the first one that is the same.** -/
theorem removeFirst_cases {items : List Value} {result : Option (List Value)}
    (done : store.removeFirst shut value items = some result) :
    (∀ item ∈ items, store.sameBeside shut item value = some false) ∧ result = none ∨
      ∃ before item behind, items = before ++ item :: behind ∧
        (∀ other ∈ before, store.sameBeside shut other value = some false) ∧
        store.sameBeside shut item value = some true ∧ result = some (before ++ behind) := by
  induction items generalizing result with
  | nil =>
    cases done
    exact .inl ⟨List.forall_mem_nil _, rfl⟩
  | cons first rest ih =>
    obtain ⟨same, compared, done⟩ := Option.bind_eq_some_iff.mp done
    cases same with
    | true =>
      cases done
      exact .inr ⟨[], first, rest, rfl, List.forall_mem_nil _, compared, rfl⟩
    | false =>
      obtain ⟨later, further, done⟩ := Option.bind_eq_some_iff.mp done
      cases done
      rcases ih further with ⟨misses, rfl⟩ | ⟨before, item, behind, rfl, misses, same, rfl⟩
      · exact .inl ⟨List.forall_mem_cons.mpr ⟨compared, misses⟩, rfl⟩
      · refine .inr ⟨first :: before, item, behind, rfl, ?_, same, rfl⟩
        exact List.forall_mem_cons.mpr ⟨compared, misses⟩

/-! ## Consequences -/

/-- A key is found at the only entry that has it. -/
theorem findEntry_of_alone (mem : entry ∈ entries) (same : store.same entry.1 key = some true)
    (alone : entries.Pairwise fun first second => store.same second.1 key = some true →
      store.same first.1 key = some false) :
    store.findEntry key entries = some (some entry.2) := by
  obtain ⟨before, behind, rfl⟩ := List.append_of_mem mem
  refine Misses.findEntry_append (fun other mem' => ?_) same
  exact (List.pairwise_append.mp alone).2.2 other mem' entry List.mem_cons_self same

/-- What holds of a key, of a value and of the entries before holds of the entries after the key is
given the value. -/
theorem forall_mem_setEntry {holdsKey holdsValue : Value → Prop} {set : List (Value × Value)}
    (done : store.setEntry shut key value entries = some set)
    (forKey : holdsKey key) (forValue : holdsValue value)
    (h : ∀ entry ∈ entries, holdsKey entry.1 ∧ holdsValue entry.2) :
    ∀ entry ∈ set, holdsKey entry.1 ∧ holdsValue entry.2 := by
  rcases setEntry_cases done with ⟨-, rfl⟩ | ⟨before, entry, behind, ⟨rfl, -, -⟩, rfl⟩
  · exact List.forall_mem_append.mpr ⟨h, List.forall_mem_singleton.mpr ⟨forKey, forValue⟩⟩
  · obtain ⟨front, back⟩ := List.forall_mem_append.mp h
    obtain ⟨here, back⟩ := List.forall_mem_cons.mp back
    exact List.forall_mem_append.mpr ⟨front, List.forall_mem_cons.mpr ⟨⟨here.1, forValue⟩, back⟩⟩

/-- A value under a key is the value of an entry. -/
theorem mem_of_findEntry (done : store.findEntry key entries = some (some value)) :
    ∃ entry ∈ entries, entry.2 = value := by
  rcases findEntry_cases done with ⟨-, nothing⟩ | ⟨before, entry, behind, ⟨rfl, -, -⟩, found⟩
  · cases nothing
  · cases found
    exact ⟨entry, by simp, rfl⟩

/-- What stands in the entries that are left when a key is taken out, and the value that was under
it, stood in the entries. -/
theorem mem_of_removeEntry {rest : List (Value × Value)}
    (done : store.removeEntry shut key entries = some (some (value, rest))) :
    (∃ entry ∈ entries, entry.2 = value) ∧ ∀ entry ∈ rest, entry ∈ entries := by
  rcases removeEntry_cases done with ⟨-, nothing⟩ | ⟨before, entry, behind, ⟨rfl, -, -⟩, found⟩
  · cases nothing
  · cases found
    refine ⟨⟨entry, by simp, rfl⟩, fun other mem => ?_⟩
    rcases List.mem_append.mp mem with mem | mem <;> simp [mem]

/-- What is left when an item is taken out was there. -/
theorem mem_of_removeFirst {item : Value} {items rest : List Value}
    (done : store.removeFirst shut value items = some (some rest)) (mem : item ∈ rest) :
    item ∈ items := by
  rcases removeFirst_cases done with ⟨-, nothing⟩ | ⟨before, first, behind, rfl, -, -, found⟩
  · cases nothing
  · cases found
    rcases List.mem_append.mp mem with mem | mem <;> simp [mem]

/-- A search that ends finds something where one of the entries has the key. -/
theorem isSome_findEntry_iff {found : Option Value}
    (done : store.findEntry key entries = some found) :
    found.isSome = true ↔ ∃ entry ∈ entries, store.same entry.1 key = some true := by
  rcases findEntry_cases done with ⟨misses, rfl⟩ | ⟨before, entry, behind, ⟨rfl, -, same⟩, rfl⟩
  · constructor
    · exact fun h => nomatch h
    · rintro ⟨entry, mem, same⟩
      have differs : store.same entry.1 key = some false := misses entry mem
      rw [differs] at same
      cases same
  · exact ⟨fun _ => ⟨entry, by simp, same⟩, fun _ => rfl⟩

end Store

/-! ## What the operations give -/

namespace Alloc

variable {store : Store} {handle : Handle} {key : Value}

/-- Removing a key takes the entry out that a search finds. -/
theorem run_dictRemove {removed : Option (Value × List (Value × Value))}
    (done : store.removeEntry (some (.dict handle)) key (store.dict handle).entries
      = some removed) :
    (dictRemove handle key).run store =
      .ok (removed.map Prod.fst, removed.elim store fun found =>
        store.modifyDict handle fun cell => { cell with entries := found.2 }) := by
  change ((liftM (store.removeEntry (some (.dict handle)) key (store.dict handle).entries) :
    Alloc _).run store >>= _) = _
  rw [done]
  cases removed <;> rfl

/-- A search that ends gives what it has found. -/
theorem run_dictGet {found : Option Value}
    (done : store.findEntry key (store.dict handle).entries = some found) :
    (dictGet handle key).run store = .ok (found.getD .void, store) := by
  change ((liftM (store.findEntry key (store.dict handle).entries) : Alloc _).run store >>= _) = _
  rw [done]
  rfl

/-- A search that ends tells whether it has found something. -/
theorem run_dictContains {found : Option Value}
    (done : store.findEntry key (store.dict handle).entries = some found) :
    (dictContains handle key).run store = .ok (found.isSome, store) := by
  change ((liftM (store.findEntry key (store.dict handle).entries) : Alloc _).run store >>= _) = _
  rw [done]
  rfl

/-- What a dictionary contains is the key of one of its entries. -/
theorem exists_of_run_dictContains {store' : Store}
    (contains : (dictContains handle key).run store = .ok (true, store')) :
    ∃ entry ∈ (store.dict handle).entries, store.same entry.1 key = some true := by
  cases done : store.findEntry key (store.dict handle).entries with
  | none =>
    change ((liftM (store.findEntry key (store.dict handle).entries) : Alloc _).run store >>= _) = _
      at contains
    rw [done] at contains
    cases contains
  | some found =>
    rw [run_dictContains done, Except.ok.injEq, Prod.mk.injEq] at contains
    exact (Store.isSome_findEntry_iff done).mp contains.1

end Alloc

end ReactiveScript
