import ReactiveScript.Proofs.Container.Lookup
import ReactiveScript.Proofs.Datum.Sameness

/-! # Equal dictionaries answer alike

Two dictionaries are compared by their lengths and by looking for every entry of the first among
those of the second. Among values without floating-point and complex numbers (`Store.Exact`),
sameness is an equivalence without any further condition, and then the comparison is extensional
(`Store.same_dict_extensional`): dictionaries are the same exactly when each contains the keys of
the other and both give the same values. That the second has no further keys is a matter of
counting (`Datum.length_le_of_covered`). -/

namespace ReactiveScript

namespace Datum

variable {left middle right : Datum}

/-- Whether a tree is compared exactly: numbers are, unless they are floating-point or complex. -/
def isExact : Datum → Bool
  | .float _ | .complex .. => false
  | _ => true

/-- What is compared exactly is not the value that is no number. -/
theorem isNaN_of_isExact (exact : left.isExact = true) : left.isNaN = false := by
  cases left with
  | float x => cases exact
  | complex re im => cases exact
  | _ => rfl

/-- **Integers hand on numbers**, because they are equal when they are alike. -/
theorem chains_of_isExact (exact : ∀ part ∈ left.parts, part.isExact = true)
    (exact' : ∀ part ∈ middle.parts, part.isExact = true) (right : Datum) :
    left.Chains middle right := by
  intro first mem number second mem' third _ alike alike'
  have exact := exact first mem
  have exact' := exact' second mem'
  cases first with
  | int m =>
    cases second with
    | int n =>
      have equal : m = n := eq_of_beq alike
      rw [equal]
      exact alike'
    | float x => cases exact'
    | complex re im => cases exact'
    | _ => cases alike
  | float x => cases exact
  | complex re im => cases exact
  | _ => cases number

/-- **Trees that are arranged differently**: they differ in handles, in tags and in the order in
which entries came, at any depth, but in nothing else. -/
inductive Rearranged : Datum → Datum → Prop where
  | plain {tree : Datum} (plain : tree.container? = none) : Rearranged tree tree
  | list {handle other : Handle} {element tag : Ty} {items others : List Datum}
      (length : items.length = others.length)
      (each : ∀ pair ∈ items.zip others, Rearranged pair.1 pair.2) :
      Rearranged (.list handle element items) (.list other tag others)
  | dict {handle other : Handle} {key value key' value' : Ty}
      {entries others : List (Datum × Datum)} (lined : List (Datum × Datum))
      (length : entries.length = lined.length)
      (keys : ∀ pair ∈ entries.zip lined, Rearranged pair.1.1 pair.2.1)
      (values : ∀ pair ∈ entries.zip lined, Rearranged pair.1.2 pair.2.2)
      (order : lined.Perm others) :
      Rearranged (.dict handle key value entries) (.dict other key' value' others)

/-- **What is arranged differently has the same contents.** -/
theorem Rearranged.like (arranged : Rearranged left right)
    (exact : ∀ part ∈ left.parts, part.isExact = true) : left.like right = true := by
  induction arranged with
  | @plain tree plain =>
    refine like_self ?_ fun part mem => isNaN_of_isExact (exact part mem)
    cases tree <;> first | rfl | cases plain
  | list length each ih =>
    obtain ⟨-, exact⟩ := forall_parts_list.mp exact
    refine like_list_iff.mpr ⟨_, _, _, rfl, List.forall₂_iff_zip.mpr ⟨length, fun found => ?_⟩⟩
    exact ih _ found (exact _ (List.of_mem_zip found).1)
  | dict lined length keys values order ihKeys ihValues =>
    obtain ⟨-, exactKeys, exactValues⟩ := forall_parts_dict.mp exact
    refine like_dict_iff.mpr
      ⟨_, _, _, _, rfl, length.trans order.length_eq, fun entry mem => ?_⟩
    rw [← List.map_fst_zip (Nat.le_of_eq length)] at mem
    obtain ⟨pair, found, rfl⟩ := List.mem_map.mp mem
    obtain ⟨mem, mem'⟩ := List.of_mem_zip found
    refine ⟨pair.2, order.mem_iff.mp mem', ihKeys _ found (exactKeys _ mem), ?_⟩
    exact ihValues _ found (exactValues _ mem)

end Datum

namespace Store

variable {store : Store} {left middle right : Value} {handle : Handle}

/-- **A value that is compared exactly**: no container stands inside itself, no number inside is
floating-point or complex, and the keys of every dictionary are pairwise different. -/
structure Exact (store : Store) (value : Value) : Prop where
  /-- No container stands inside itself. -/
  acyclic : (store.view value).isCyclic = false
  /-- No number inside is floating-point or complex. -/
  exact : ∀ part ∈ (store.view value).parts, part.isExact = true
  /-- The keys of every dictionary are pairwise different. -/
  keys : ∀ part ∈ (store.view value).parts,
    part.keys.Pairwise fun key other => key.same other = false

namespace Exact

/-- What is compared exactly can be compared. -/
theorem comparable (exact : store.Exact left) : store.Comparable left :=
  ⟨exact.acyclic, fun part mem => Datum.isNaN_of_isExact (exact.exact part mem), exact.keys⟩

/-- The keys and values of a dictionary that is compared exactly are compared exactly. -/
theorem entry (exact : store.Exact (.dict handle)) {entry : Value × Value}
    (mem : entry ∈ (store.dict handle).entries) : store.Exact entry.1 ∧ store.Exact entry.2 := by
  obtain ⟨acyclic, exact, keys⟩ := exact
  have mem := List.mem_map_of_mem (f := fun entry => (store.view entry.1, store.view entry.2)) mem
  have tree := view_dict acyclic
  rw [tree] at acyclic exact keys
  obtain ⟨acyclic, acyclic'⟩ := Datum.anyCyclicEntry_iff.mp acyclic _ mem
  obtain ⟨-, exact, exact'⟩ := Datum.forall_parts_dict.mp exact
  obtain ⟨-, keys, keys'⟩ := Datum.forall_parts_dict.mp keys
  exact ⟨⟨acyclic, exact _ mem, keys _ mem⟩, ⟨acyclic', exact' _ mem, keys' _ mem⟩⟩

/-- Comparing two values that are compared exactly tells whether their contents are alike. -/
theorem same_eq (first : store.Exact left) (second : store.Exact right) :
    store.same left right = some ((store.view left).like (store.view right)) :=
  first.comparable.same_eq second.acyclic

/-- They are the same exactly if their contents are alike. -/
theorem same_iff (first : store.Exact left) (second : store.Exact right) :
    store.same left right = some true ↔ (store.view left).like (store.view right) = true := by
  rw [first.same_eq second, Option.some.injEq]

/-- Where they are not the same, they are told apart. -/
theorem same_eq_false (first : store.Exact left) (second : store.Exact right)
    (differ : store.same left right ≠ some true) : store.same left right = some false := by
  rw [first.same_eq second] at differ ⊢
  cases alike : (store.view left).like (store.view right) with
  | false => rfl
  | true =>
    rw [alike] at differ
    exact absurd rfl differ

/-- The keys of a dictionary that is compared exactly are pairwise different. -/
theorem pairwise (exact : store.Exact (.dict handle)) :
    (store.dict handle).entries.Pairwise fun first second =>
      store.same first.1 second.1 = some false := by
  have keys := exact.keys _ (Datum.mem_parts_self _)
  rw [view_dict exact.acyclic, Datum.keys, List.map_map, List.pairwise_map] at keys
  refine keys.imp_of_mem fun {first second} mem mem' differ => ?_
  rw [Store.same_eq (exact.entry mem).1.acyclic (exact.entry mem').1.acyclic]
  exact congrArg some differ

/-- A value that is compared exactly is the same as itself. -/
theorem same_self (exact : store.Exact left) : store.same left left = some true :=
  Store.same_self exact.acyclic exact.comparable.numbers

/-- **Sameness does not depend on the order** where values are compared exactly. -/
theorem same_symm (first : store.Exact left) (second : store.Exact right)
    (h : store.same left right = some true) : store.same right left = some true := by
  rw [first.same_iff second] at h
  rw [second.same_iff first]
  refine Datum.like_symm_of_chains first.comparable.keys_like (fun part mem => ?_) h
  refine (first.keys part mem).imp_of_mem fun {key other} found _ _ between mem' => ?_
  refine Datum.chains_of_isExact (fun inner inside => ?_) (fun inner inside => ?_) other
  · have inside := Datum.mem_parts_trans (Datum.mem_parts_of_mem_keys found) inside
    exact first.exact inner (Datum.mem_parts_trans mem inside)
  · exact second.exact inner (Datum.mem_parts_trans mem' inside)

/-- **Sameness is handed on** where values are compared exactly. -/
theorem same_trans (first : store.Exact left) (second : store.Exact middle)
    (third : store.Exact right) (h : store.same left middle = some true)
    (h' : store.same middle right = some true) : store.same left right = some true := by
  rw [first.same_iff second] at h
  rw [second.same_iff third] at h'
  rw [first.same_iff third]
  exact (Datum.chains_of_isExact first.exact second.exact _).like_trans h h'

/-- Two comparisons that say yes together give the same answer. -/
theorem same_congr {left' right' : Value} (first : store.Exact left) (second : store.Exact right)
    (first' : store.Exact left') (second' : store.Exact right')
    (both : store.same left right = some true ↔ store.same left' right' = some true) :
    store.same left right = store.same left' right' := by
  rw [first.same_iff second, first'.same_iff second'] at both
  rw [first.same_eq second, first'.same_eq second', Bool.eq_iff_iff.mpr both]

/-- **Dictionaries are the same** when they have the same length and the first has no entry that the
second does not have. -/
theorem same_dict_iff {left right : Handle} (first : store.Exact (.dict left))
    (second : store.Exact (.dict right)) : store.same (.dict left) (.dict right) = some true ↔
      (store.dict left).entries.length = (store.dict right).entries.length ∧
        ∀ entry ∈ (store.dict left).entries, ∃ other ∈ (store.dict right).entries,
          store.same entry.1 other.1 = some true ∧ store.same entry.2 other.2 = some true := by
  have compared {entry other} (mem : entry ∈ (store.dict left).entries)
      (mem' : other ∈ (store.dict right).entries) :
      Datum.LikeEntry (store.view entry.1, store.view entry.2)
          (store.view other.1, store.view other.2) ↔
        store.same entry.1 other.1 = some true ∧ store.same entry.2 other.2 = some true := by
    obtain ⟨key, value⟩ := first.entry mem
    obtain ⟨key', value'⟩ := second.entry mem'
    rw [key.same_iff key', value.same_iff value']
    rfl
  rw [first.same_iff second, view_dict first.acyclic, view_dict second.acyclic,
    Datum.like_dict_iff]
  constructor
  · rintro ⟨_, _, _, _, ⟨⟩, length, covered⟩
    refine ⟨by simpa using length, fun entry mem => ?_⟩
    obtain ⟨_, found, alike⟩ := covered _ (List.mem_map_of_mem mem)
    obtain ⟨other, mem', rfl⟩ := List.mem_map.mp found
    exact ⟨other, mem', (compared mem mem').mp alike⟩
  · rintro ⟨length, covered⟩
    refine ⟨_, _, _, _, rfl, by simpa using length, fun _ found => ?_⟩
    obtain ⟨entry, mem, rfl⟩ := List.mem_map.mp found
    obtain ⟨other, mem', same⟩ := covered entry mem
    exact ⟨_, List.mem_map_of_mem mem', (compared mem mem').mpr same⟩

/-- **A key is found at any entry that has it**, because no other entry has it. -/
theorem findEntry_eq (exact : store.Exact (.dict handle)) {key : Value} (exactKey : store.Exact key)
    {entry : Value × Value} (mem : entry ∈ (store.dict handle).entries)
    (same : store.same entry.1 key = some true) :
    store.findEntry key (store.dict handle).entries = some (some entry.2) := by
  refine findEntry_of_alone mem same (exact.pairwise.imp_of_mem ?_)
  intro first second mem mem' differ found
  obtain ⟨exactFirst, -⟩ := exact.entry mem
  obtain ⟨exactSecond, -⟩ := exact.entry mem'
  refine exactFirst.same_eq_false exactKey fun found' => ?_
  have back := exactSecond.same_symm exactKey found
  rw [exactFirst.same_trans exactKey exactSecond found' back] at differ
  cases differ

end Exact

/-- **Two dictionaries that answer alike**: each contains every key of the other, and what they give
for such a key is the same. -/
structure AnswersLike (store : Store) (left right : Handle) : Prop where
  /-- The second contains the keys of the first. -/
  containsLeft : ∀ key ∈ (store.dict left).entries.map Prod.fst,
    (Alloc.dictContains right key).run store = .ok (true, store)
  /-- The first contains the keys of the second. -/
  containsRight : ∀ key ∈ (store.dict right).entries.map Prod.fst,
    (Alloc.dictContains left key).run store = .ok (true, store)
  /-- Both give the same values. -/
  gets : ∀ key ∈ (store.dict left).entries.map Prod.fst ++ (store.dict right).entries.map Prod.fst,
    ∃ value value', (Alloc.dictGet left key).run store = .ok (value, store) ∧
      (Alloc.dictGet right key).run store = .ok (value', store) ∧
      store.same value value' = some true

section Dictionaries

variable {left right : Handle}

/-- Where the first of two dictionaries has no entry that the second does not have, the second finds
the keys of the first, and what it finds is the same. -/
theorem Exact.finds_of_covered (first : store.Exact (.dict left))
    (second : store.Exact (.dict right))
    (covered : ∀ entry ∈ (store.dict left).entries, ∃ other ∈ (store.dict right).entries,
      store.same entry.1 other.1 = some true ∧ store.same entry.2 other.2 = some true)
    {key : Value} (mem : key ∈ (store.dict left).entries.map Prod.fst) :
    ∃ value value', store.findEntry key (store.dict left).entries = some (some value) ∧
      store.findEntry key (store.dict right).entries = some (some value') ∧
      store.Exact value ∧ store.Exact value' ∧ store.same value value' = some true := by
  obtain ⟨entry, found, rfl⟩ := List.mem_map.mp mem
  obtain ⟨other, mem', sameKey, sameValue⟩ := covered entry found
  obtain ⟨exactKey, exactValue⟩ := first.entry found
  obtain ⟨exactKey', exactValue'⟩ := second.entry mem'
  have back := exactKey.same_symm exactKey' sameKey
  exact ⟨entry.2, other.2, first.findEntry_eq exactKey found exactKey.same_self,
    second.findEntry_eq exactKey mem' back, exactValue, exactValue', sameValue⟩

/-- Dictionaries that are the same answer alike. -/
theorem Exact.answersLike_of_same (first : store.Exact (.dict left))
    (second : store.Exact (.dict right)) (h : store.same (.dict left) (.dict right) = some true) :
    store.AnswersLike left right := by
  obtain ⟨-, covered⟩ := (first.same_dict_iff second).mp h
  obtain ⟨-, covered'⟩ := (second.same_dict_iff first).mp (first.same_symm second h)
  refine ⟨fun key mem => ?_, fun key mem => ?_, fun key mem => ?_⟩
  · obtain ⟨_, _, -, found, -⟩ := first.finds_of_covered second covered mem
    exact Alloc.run_dictContains found
  · obtain ⟨_, _, -, found, -⟩ := second.finds_of_covered first covered' mem
    exact Alloc.run_dictContains found
  · rcases List.mem_append.mp mem with mem | mem
    · obtain ⟨value, value', found, found', -, -, same⟩ :=
        first.finds_of_covered second covered mem
      exact ⟨value, value', Alloc.run_dictGet found, Alloc.run_dictGet found', same⟩
    · obtain ⟨value', value, found', found, exact', exact, same⟩ :=
        second.finds_of_covered first covered' mem
      refine ⟨value, value', Alloc.run_dictGet found, Alloc.run_dictGet found', ?_⟩
      exact exact'.same_symm exact same

/-- A dictionary all of whose keys another one contains is at most as long. -/
theorem Exact.length_le (first : store.Exact (.dict left)) (second : store.Exact (.dict right))
    (contains : ∀ key ∈ (store.dict left).entries.map Prod.fst,
      (Alloc.dictContains right key).run store = .ok (true, store)) :
    (store.dict left).entries.length ≤ (store.dict right).entries.length := by
  have covered : ∀ entry ∈ (store.dict left).entries, ∃ other ∈ (store.dict right).entries,
      other ∈ (store.dict right).entries ∧ store.same other.1 entry.1 = some true := by
    intro entry mem
    obtain ⟨other, mem', same⟩ :=
      Alloc.exists_of_run_dictContains (contains entry.1 (List.mem_map_of_mem mem))
    exact ⟨other, mem', mem', same⟩
  -- Two keys of the first dictionary at one key of the second would be the same key.
  have apart : (store.dict left).entries.Pairwise fun entry entry' => ∀ other,
      other ∈ (store.dict right).entries ∧ store.same other.1 entry.1 = some true →
        ¬ (other ∈ (store.dict right).entries ∧ store.same other.1 entry'.1 = some true) := by
    refine first.pairwise.imp_of_mem ?_
    rintro entry entry' mem mem' differ other ⟨inside, same⟩ ⟨-, same'⟩
    obtain ⟨exact, -⟩ := first.entry mem
    obtain ⟨exact', -⟩ := first.entry mem'
    obtain ⟨between, -⟩ := second.entry inside
    have joined := exact.same_trans between exact' (between.same_symm exact same) same'
    rw [joined] at differ
    cases differ
  exact Datum.length_le_of_covered covered apart

/-- Dictionaries that answer alike are the same. -/
theorem Exact.same_of_answersLike (first : store.Exact (.dict left))
    (second : store.Exact (.dict right)) (answers : store.AnswersLike left right) :
    store.same (.dict left) (.dict right) = some true := by
  have length := Nat.le_antisymm (first.length_le second answers.containsLeft)
    (second.length_le first answers.containsRight)
  refine (first.same_dict_iff second).mpr ⟨length, fun entry mem => ?_⟩
  have known := List.mem_map_of_mem (f := Prod.fst) mem
  obtain ⟨exactKey, -⟩ := first.entry mem
  obtain ⟨other, mem', same⟩ :=
    Alloc.exists_of_run_dictContains (answers.containsLeft entry.1 known)
  obtain ⟨exactKey', -⟩ := second.entry mem'
  obtain ⟨value, value', gets, gets', alike⟩ := answers.gets entry.1 (List.mem_append_left _ known)
  -- Both searches end at the only entry that has the key.
  rw [Alloc.run_dictGet (first.findEntry_eq exactKey mem exactKey.same_self)] at gets
  rw [Alloc.run_dictGet (second.findEntry_eq exactKey mem' same)] at gets'
  cases gets
  cases gets'
  exact ⟨other, mem', exactKey'.same_symm exactKey same, alike⟩

/-- **Equality of dictionaries is extensional.** Two dictionaries that are compared exactly are the
same when they answer alike. So which of them comes first does not matter, and neither do handles,
tags and the order of entries. -/
theorem same_dict_extensional (first : store.Exact (.dict left))
    (second : store.Exact (.dict right)) :
    (store.same (.dict left) (.dict right) = some true ↔ store.AnswersLike left right) ∧
      store.same (.dict left) (.dict right) = store.same (.dict right) (.dict left) ∧
      ∀ other, store.Exact (.dict other) →
        (store.view (.dict right)).Rearranged (store.view (.dict other)) →
          store.same (.dict left) (.dict other) = store.same (.dict left) (.dict right) := by
  refine ⟨⟨first.answersLike_of_same second, first.same_of_answersLike second⟩, ?_, ?_⟩
  · exact first.same_congr second second first
      ⟨first.same_symm second, second.same_symm first⟩
  · intro other third arranged
    have alike : store.same (.dict right) (.dict other) = some true := by
      rw [second.same_iff third]
      exact arranged.like second.exact
    refine first.same_congr third first second
      ⟨fun h => ?_, fun h => first.same_trans second third h alike⟩
    exact first.same_trans third second h (second.same_symm third alike)

/-- A store with two dictionaries that have the same entries in another order, with other tags and
with other lists, and a third one that has one key only. Two of the keys are integers that round to
the same floating-point number, and one is a list. -/
def shuffled : Store where
  lists := #[⟨.any, [.int 1, .text "two"], []⟩, ⟨.any, [.int 1, .text "two"], []⟩]
  dicts := #[
    ⟨.any, .any, [(.int 9007199254740992, .void), (.int 9007199254740993, .int 3),
      (.list 0, .text "list")], []⟩,
    ⟨.any, .any, [(.list 1, .text "list"), (.int 9007199254740992, .void),
      (.int 9007199254740993, .int 3)], []⟩,
    ⟨.int, .int, [(.int 9007199254740993, .int 3)], []⟩]

/-- The first two dictionaries are the same and answer alike, the second being the first in another
order, and the third does not answer like either. -/
theorem shuffled_extensional : shuffled.same (.dict 0) (.dict 1) = some true ∧
    shuffled.AnswersLike 0 1 ∧ ¬ shuffled.AnswersLike 0 2 := by
  have first : shuffled.Exact (.dict 0) := ⟨by decide, by decide, by decide⟩
  have second : shuffled.Exact (.dict 1) := ⟨by decide, by decide, by decide⟩
  have third : shuffled.Exact (.dict 2) := ⟨by decide, by decide, by decide⟩
  have arranged : (shuffled.view (.dict 0)).Rearranged (shuffled.view (.dict 1)) := by
    have list : Datum.Rearranged (.list 0 .any [.int 1, .text "two"])
        (.list 1 .any [.int 1, .text "two"]) := by
      refine .list rfl ?_
      simp only [List.zip_cons_cons, List.zip_nil_left, List.forall_mem_cons]
      exact ⟨.plain rfl, .plain rfl, List.forall_mem_nil _⟩
    change Datum.Rearranged
      (.dict 0 .any .any [(.int 9007199254740992, .void), (.int 9007199254740993, .int 3),
        (.list 0 .any [.int 1, .text "two"], .text "list")])
      (.dict 1 .any .any [(.list 1 .any [.int 1, .text "two"], .text "list"),
        (.int 9007199254740992, .void), (.int 9007199254740993, .int 3)])
    refine .dict [(.int 9007199254740992, .void), (.int 9007199254740993, .int 3),
      (.list 1 .any [.int 1, .text "two"], .text "list")] rfl ?_ ?_ ?_
    · simp only [List.zip_cons_cons, List.zip_nil_left, List.forall_mem_cons]
      exact ⟨.plain rfl, .plain rfl, list, List.forall_mem_nil _⟩
    · simp only [List.zip_cons_cons, List.zip_nil_left, List.forall_mem_cons]
      exact ⟨.plain rfl, .plain rfl, .plain rfl, List.forall_mem_nil _⟩
    · exact @List.perm_append_comm _ [_, _] [_]
  obtain ⟨-, -, order⟩ := same_dict_extensional first first
  obtain ⟨same_iff, -⟩ := same_dict_extensional first second
  obtain ⟨same_iff', -⟩ := same_dict_extensional first third
  have same : shuffled.same (.dict 0) (.dict 1) = some true := by
    rw [order 1 second arranged]
    exact first.same_self
  refine ⟨same, same_iff.mp same, fun answers => ?_⟩
  have differs : shuffled.same (.dict 0) (.dict 2) = some false := by decide
  rw [same_iff'.mpr answers] at differs
  cases differs

end Dictionaries

end Store

end ReactiveScript
