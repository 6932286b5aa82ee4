import ReactiveScript.Proofs.Conversion.Absence
import ReactiveScript.Proofs.Conversion.Faithful
import ReactiveScript.Proofs.Conversion.Identity
import ReactiveScript.Proofs.Nesting.Cycle

/-! # What is stored under a key is found under it

`Alloc.dictSet` converts a key to the tag of the dictionary before it looks for it, while the
operations that look a key up compare it as it is. So what is stored is found again where the
conversion is `Store.Faithful` to the key: it keeps the key as it is, or it does no more than to
widen numbers in it (`Alloc.dictSet_retrieves`). Once the key is removed it is gone, if the
dictionary had it at most once, as it does where its keys are kept apart (`Store.KeysApart`).
`Alloc.conversion_hides_keys` shows what happens otherwise.

The dictionary is shut while its keys are compared to set one or to take one out, so these
comparisons answer the same before and after the dictionary has changed
(`Store.Beside.sameBeside_eq`), and what they answer is what they answer when nothing is shut
(`Store.same_of_sameBeside`). -/

namespace ReactiveScript

namespace Store

variable {store other final : Store} {handle : Handle} {key stored value : Value}
variable {shut : Option Container} {entry : Value × Value}

/-- **A key in which no more is changed than numbers that are widened**: it can be compared, the
dictionary is not inside it, and the conversion to the tag of the dictionary does no more to it than
to widen numbers. -/
structure Widened (store : Store) (handle : Handle) (key : Value) : Prop
    extends store.Comparable key where
  /-- The dictionary is not inside the key. -/
  absent : ∀ part ∈ (store.view key).parts, part.container? ≠ some (.dict handle)
  /-- The conversion only widens numbers. -/
  widens : Datum.Widens (store.dict handle).key (store.contents key)

/-- **A key that stays itself in a dictionary.** -/
inductive Faithful (store : Store) (handle : Handle) (key : Value) : Prop where
  /-- The tag of the dictionary keeps the key as it is, whatever is inside. -/
  | kept (conforms : store.Conforms (store.dict handle).key key)
      (number : (store.view key).isNaN = false)
  /-- The conversion does no more to the key than to widen numbers. -/
  | widened (widened : store.Widened handle key)

/-- **A dictionary whose keys cannot be mistaken for each other**: the keys are pairwise different,
with dictionaries inside whose keys are, and the integers in different keys stay apart when they are
widened. -/
structure KeysApart (store : Store) (handle : Handle) : Prop where
  /-- Keys are pairwise different. -/
  differ : (store.dict handle).entries.Pairwise fun one other =>
    store.same one.1 other.1 = some false
  /-- Their integers stay apart. -/
  apart : (store.dict handle).entries.Pairwise fun one other =>
    (store.view one.1).Discerns (store.view other.1)
  /-- The keys of dictionaries inside keys are pairwise different. -/
  innerDiffer : ∀ entry ∈ (store.dict handle).entries, ∀ part ∈ (store.view entry.1).parts,
    part.keys.Pairwise fun key other => key.same other = false
  /-- Their integers stay apart. -/
  innerApart : ∀ entry ∈ (store.dict handle).entries, ∀ part ∈ (store.view entry.1).parts,
    part.keys.Pairwise Datum.Discerns

/-- A value that is not the same as a key whatever becomes of a dictionary: nobody needs to look
into the dictionary to see that, or the dictionary is not inside the key. -/
def RuledOut (store : Store) (handle : Handle) (value key : Value) : Prop :=
  store.sameBeside (some (.dict handle)) value key = some false ∨
    store.same value key = some false ∧ store.Without (.dict handle) key

/-- A dictionary that does not have a key twice. -/
def HasOnce (store : Store) (handle : Handle) (key : Value) : Prop :=
  (store.dict handle).entries.Pairwise fun one other =>
    store.same one.1 key = some true → store.RuledOut handle other.1 key

/-- What is not the value that is no number is the same as itself, whatever is shut. -/
theorem sameBeside_self (number : (store.view value).isNaN = false) :
    store.sameBeside shut value value = some true := by
  cases value with
  | list handle => rw [sameBeside_list, if_pos rfl]
  | dict handle => rw [sameBeside_dict, if_pos rfl]
  | _ =>
    rw [sameBeside_of_apart (by simp) (by simp), Datum.same_eq_like_of_plain rfl,
      Datum.like_self rfl (Datum.numbers_of_plain rfl number)]

/-- **A key of a dictionary stays the same as another value** that does not have the dictionary
inside, whatever becomes of the dictionary. -/
theorem Beside.same_of_key (h : store.Beside other handle)
    (mem : entry ∈ (store.dict handle).entries) (without : store.Without (.dict handle) key)
    (same : store.same entry.1 key = some true) : other.same entry.1 key = some true := by
  have acyclic := acyclic_of_same same without.acyclic
  have view := h.view_eq acyclic (absent_of_key acyclic mem)
  have view' := h.view_eq without.acyclic without.absent
  rw [same_eq acyclic without.acyclic] at same
  rwa [same_eq (by rw [view]; exact acyclic) (by rw [view']; exact without.acyclic), view, view']

/-- **What is ruled out of a dictionary is told apart from the key**, whatever becomes of the
dictionary, as long as it is one of its keys. -/
theorem RuledOut.beside (ruled : store.RuledOut handle entry.1 key) (h : store.Beside other handle)
    (left : entry ∈ (other.dict handle).entries) : other.same entry.1 key = some false := by
  rcases ruled with differs | ⟨differs, without⟩
  · rw [← h.sameBeside_eq] at differs
    exact same_of_sameBeside differs
  · have without' := without.beside h
    have ends : (other.same entry.1 key).isSome = true :=
      isSome_same (.inr (isSome_read_iff.mpr without'.acyclic))
    obtain ⟨answer, told⟩ := Option.isSome_iff_exists.mp ends
    cases answer with
    | false => exact told
    | true =>
      rw [h.symm.same_of_key left without' told] at differs
      cases differs

/-- **Keys that are kept apart are not the same as one value.** -/
theorem KeysApart.hasOnce (apart : store.KeysApart handle)
    (without : store.Without (.dict handle) key)
    (numbers : ∀ part ∈ (store.view key).parts, part.isNaN = false) :
    store.HasOnce handle key := by
  refine (apart.differ.and apart.apart).imp_of_mem ?_
  rintro ⟨one, _⟩ ⟨other, _⟩ - mem ⟨differ, discerns⟩ same
  have ends : (store.same other key).isSome = true :=
    isSome_same (.inr (isSome_read_iff.mpr without.acyclic))
  obtain ⟨answer, told⟩ := Option.isSome_iff_exists.mp ends
  cases answer with
  | false => exact .inr ⟨told, without⟩
  | true =>
    have acyclic := acyclic_of_same same without.acyclic
    have acyclic' := acyclic_of_same told without.acyclic
    have readOne := Datum.ReadFrom.of_view acyclic
    have readOther := Datum.ReadFrom.of_view acyclic'
    have readKey := Datum.ReadFrom.of_view without.acyclic
    rw [same_eq acyclic without.acyclic, Datum.same_eq_like readOne readKey (.inr numbers),
      Option.some.injEq] at same
    rw [same_eq acyclic' without.acyclic, Datum.same_eq_like readOther readKey (.inr numbers),
      Option.some.injEq] at told
    -- What is like the key holds only numbers, and can be compared in both directions.
    have numbers' := Datum.numbers_of_like told
    have comparable : store.Comparable other :=
      ⟨readOther.acyclic, numbers', apart.innerDiffer _ mem⟩
    have back := Datum.like_symm comparable.keys_like (apart.innerApart _ mem) told
    have joined := Datum.like_trans discerns same back
    rw [same_eq acyclic acyclic', Datum.same_eq_like readOne readOther (.inr numbers'), joined]
      at differ
    cases differ

/-! ## What stands for a key -/

/-- **A converted key that stands for the key it was converted from**: it is the same as the key,
and no key of the dictionary tells them apart, while the dictionary is shut. -/
structure StandsFor (store : Store) (handle : Handle) (stored key : Value) : Prop where
  /-- The dictionary was given out. -/
  known : handle < store.dicts.size
  /-- The converted key is the same as the key. -/
  same : store.sameBeside (some (.dict handle)) stored key = some true
  /-- No key of the dictionary tells them apart. -/
  agrees : ∀ entry ∈ (store.dict handle).entries,
    store.sameBeside (some (.dict handle)) entry.1 stored =
      store.sameBeside (some (.dict handle)) entry.1 key

/-- What stands for a key does so after the store extended. -/
theorem StandsFor.of_extends (stands : store.StandsFor handle stored key) (sound : store.Sound)
    (held : store.Holds key) (held' : store.Holds stored) (h : store.Extends final) :
    final.StandsFor handle stored key := by
  refine ⟨Nat.lt_of_lt_of_le stands.known h.dicts, ?_, fun entry mem => ?_⟩
  · rw [sound.sameBeside_of_extends h held' held]
    exact stands.same
  · rw [h.dict handle stands.known] at mem
    have here := (sound.keys handle entry mem).1
    rw [sound.sameBeside_of_extends h here held', sound.sameBeside_of_extends h here held]
    exact stands.agrees entry mem

/-- **What a key is widened to stands for it.** -/
theorem Widened.standsFor (widened : store.Widened handle key) (sound : store.Sound)
    (held : store.Holds key) (known : handle < store.dicts.size) {middle : Store}
    (ran : (Value.coerce (store.dict handle).key key).run store = .ok (stored, middle)) :
    middle.StandsFor handle stored key := by
  have tidy := sound.tidy held widened.toComparable
  obtain ⟨contents, converted, added⟩ := Value.coerce_follows _ tidy (.refl store) ran
  obtain ⟨grown, sound', admitted⟩ := Value.coerce_yields _ sound held _ _ ran
  have without : store.Without (.dict handle) key := ⟨tidy.toWhole, widened.absent⟩
  have known : store.Holds (Container.dict handle).value := known
  obtain ⟨-, without'⟩ := Value.coerce_spares _ key known without (.refl store) ran
  -- What the key becomes has the contents that the key's contents are converted to.
  have numbers := Datum.numbers_bare_iff.mpr widened.numbers
  have widens := widened.widens
  change ∀ part ∈ (store.contents key).parts, part.isNaN = false at numbers
  rw [← tidy.toWhole.contents_eq added.kept] at widens converted numbers
  rw [← added.shows] at converted
  have numbers' := Datum.numbers_of_convert numbers converted
  have settled : middle.Settled (some (.dict handle)) key :=
    ⟨tidy.toWhole.of_extends added.kept, numbers, (without.of_extends added.kept).clear⟩
  have settled' : middle.Settled (some (.dict handle)) stored :=
    ⟨added.whole, numbers', without'.clear⟩
  refine ⟨Nat.lt_of_lt_of_le known added.kept.dicts, ?_, fun entry mem => ?_⟩
  · rw [← sound'.sameBeside_convert admitted.1 admitted.2 settled widens settled' converted]
    exact sameBeside_self (Datum.numbers_bare_iff.mp numbers' _ (Datum.mem_parts_self _))
  · rw [added.kept.dict handle known] at mem
    obtain ⟨here, conforms⟩ := grown.admits (sound.keys handle entry mem)
    exact sound'.sameBeside_convert here conforms settled widens settled' converted

/-- **What a faithful key is converted to stands for it.** -/
theorem Faithful.standsFor (faithful : store.Faithful handle key) (sound : store.Sound)
    (held : store.Holds key) (known : handle < store.dicts.size) {middle : Store}
    (ran : (Value.coerce (store.dict handle).key key).run store = .ok (stored, middle))
    (h : middle.Extends final) : final.StandsFor handle stored key := by
  obtain ⟨grown, sound', admitted⟩ := Value.coerce_yields _ sound held _ _ ran
  refine StandsFor.of_extends ?_ sound' (grown.holds held) admitted.1 h
  cases faithful with
  | kept conforms number =>
    rw [Value.coerce_of_conforms conforms] at ran
    cases ran
    exact ⟨known, sameBeside_self number, fun _ _ => rfl⟩
  | widened widened => exact widened.standsFor sound held known ran

/-! ## Setting a key -/

/-- What is ruled out is ruled out after the store extended. -/
theorem RuledOut.of_extends (ruled : store.RuledOut handle value key) (sound : store.Sound)
    (held : store.Holds value) (held' : store.Holds key) (h : store.Extends final) :
    final.RuledOut handle value key := by
  rcases ruled with differs | ⟨differs, without⟩
  · left
    rwa [sound.sameBeside_of_extends h held held']
  · right
    refine ⟨?_, without.of_extends h⟩
    rwa [Store.same, sound.sameBeside_of_extends h held held']

/-- A dictionary that has a key at most once has it at most once after the store extended. -/
theorem HasOnce.of_extends (once : store.HasOnce handle key) (sound : store.Sound)
    (known : handle < store.dicts.size) (held : store.Holds key) (h : store.Extends final) :
    final.HasOnce handle key := by
  rw [HasOnce, h.dict handle known]
  refine once.imp_of_mem fun {one other} mem mem' once same => ?_
  rw [Store.same, sound.sameBeside_of_extends h (sound.keys handle one mem).1 held] at same
  exact (once same).of_extends sound (sound.keys handle other mem').1 held h

/-- The entries as setting the converted key leaves them: some that miss the key, the first one that
has it, with the value, and some that are ruled out where the dictionary had the key at most once.
-/
theorem StandsFor.exists_set (stands : store.StandsFor handle stored key) {converted : Value}
    {set : List (Value × Value)}
    (done : store.setEntry (some (.dict handle)) stored converted (store.dict handle).entries
      = some set) :
    ∃ before kept behind, set = before ++ (kept, converted) :: behind ∧
      store.Misses (some (.dict handle)) key before ∧
      store.sameBeside (some (.dict handle)) kept key = some true ∧
      (store.HasOnce handle key → ∀ entry ∈ behind, store.RuledOut handle entry.1 key) := by
  rcases setEntry_cases done with ⟨misses, rfl⟩ | ⟨before, entry, behind, splits, rfl⟩
  · -- The key is new, and the converted key is put behind the others.
    refine ⟨_, stored, [], rfl, fun entry mem => ?_, stands.same, fun _ => List.forall_mem_nil _⟩
    rw [← stands.agrees entry mem]
    exact misses entry mem
  · -- The first key that is the same as the converted one is the first that is the same as the key.
    have inside : ∀ other ∈ before ++ entry :: behind, other ∈ (store.dict handle).entries :=
      fun other mem => splits.entries ▸ mem
    have same : store.sameBeside (some (.dict handle)) entry.1 key = some true := by
      rw [← stands.agrees entry (inside entry (by simp))]
      exact splits.same
    refine ⟨before, entry.1, behind, rfl, fun other mem => ?_, same, fun once other mem => ?_⟩
    · rw [← stands.agrees other (inside other (List.mem_append_left _ mem))]
      exact splits.misses other mem
    · rw [HasOnce, splits.entries] at once
      obtain ⟨-, once, -⟩ := List.pairwise_append.mp once
      exact (List.pairwise_cons.mp once).1 other mem (same_of_sameBeside same)

end Store

namespace Alloc

variable {store after : Store} {handle : Handle} {key value : Value}

/-- What setting a key does: the key and the value are converted, and the entry is set. -/
theorem exists_of_run_dictSet (ran : (dictSet handle key value).run store = .ok ((), after)) :
    ∃ stored middle converted final set,
      (Value.coerce (store.dict handle).key key).run store = .ok (stored, middle) ∧
      (Value.coerce (middle.dict handle).value value).run middle = .ok (converted, final) ∧
      final.setEntry (some (.dict handle)) stored converted (final.dict handle).entries = some set ∧
      after = final.modifyDict handle fun cell => { cell with entries := set } := by
  obtain ⟨⟨stored, middle⟩, first, ran⟩ := exists_of_bind_eq_ok ran
  obtain ⟨⟨converted, final⟩, second, ran⟩ := exists_of_bind_eq_ok ran
  obtain ⟨⟨set, last⟩, found, ran⟩ := exists_of_bind_eq_ok ran
  obtain ⟨found, rfl⟩ := lift_eq_ok found
  cases ran
  exact ⟨stored, middle, converted, _, set, first, second, found, rfl⟩

/-- **What is stored under a key is found under it.** Where a faithful key is given a value, the
dictionary then contains the key, gives the converted value for it, and gives the value back when
the key is removed. After that it does not contain the key any more, if it had the key at most once,
as it did if its keys are kept apart. -/
theorem dictSet_retrieves (sound : store.Sound) (known : handle < store.dicts.size)
    (held : store.Holds key) (faithful : store.Faithful handle key)
    (ran : (dictSet handle key value).run store = .ok ((), after)) :
    ∃ stored middle converted final removed,
      (Value.coerce (store.dict handle).key key).run store = .ok (stored, middle) ∧
      (Value.coerce (store.dict handle).value value).run middle = .ok (converted, final) ∧
      (dictContains handle key).run after = .ok (true, after) ∧
      (dictGet handle key).run after = .ok (converted, after) ∧
      (dictRemove handle key).run after = .ok (some converted, removed) ∧
      (store.HasOnce handle key ∨ store.Widened handle key ∧ store.KeysApart handle →
        (dictContains handle key).run removed = .ok (false, removed)) := by
  obtain ⟨stored, middle, converted, final, set, ranKey, ranValue, done, rfl⟩ :=
    exists_of_run_dictSet ran
  have first : store.Extends middle := Value.extends_of_run_coerce ranKey
  have second : middle.Extends final := Value.extends_of_run_coerce ranValue
  have stands := faithful.standsFor sound held known ranKey second
  obtain ⟨before, kept, behind, rfl, misses, same, ruled⟩ := stands.exists_set done
  rw [first.dict handle known] at ranValue
  -- The comparisons answer the same after the entry is set, and after it is taken out.
  have beside := Store.beside_modifyDict stands.known
    ({ · with entries := before ++ (kept, converted) :: behind })
  have cell := Store.dict_modifyDict stands.known
    ({ · with entries := before ++ (kept, converted) :: behind }) handle
  rw [if_pos rfl] at cell
  generalize final.modifyDict handle ({ · with entries := before ++ (kept, converted) :: behind })
    = after at beside cell
  have splits : after.Splits (some (.dict handle)) key (after.dict handle).entries before
      (kept, converted) behind := by
    refine ⟨by rw [cell], ?_, ?_⟩
    · rwa [Store.Misses, beside.sameBeside_eq]
    · rwa [beside.sameBeside_eq]
  have found : after.findEntry key (after.dict handle).entries = some (some converted) := by
    have missed : after.Misses none key before := fun entry mem =>
      Store.same_of_sameBeside (splits.misses entry mem)
    have same : after.same kept key = some true := Store.same_of_sameBeside splits.same
    rw [splits.entries, missed.findEntry_append same]
  have known' : handle < after.dicts.size := by
    rw [beside.size]
    exact stands.known
  refine ⟨stored, middle, converted, final,
    after.modifyDict handle fun cell => { cell with entries := before ++ behind },
    ranKey, ranValue, run_dictContains found, run_dictGet found,
    run_dictRemove splits.removeEntry_eq, fun apart => ?_⟩
  have once : store.HasOnce handle key := by
    rcases apart with once | ⟨widened, apart⟩
    · exact once
    · have whole := (sound.tidy held widened.toComparable).toWhole
      exact apart.hasOnce ⟨whole, widened.absent⟩ widened.numbers
  have ruled := ruled (once.of_extends sound known held (first.trans second))
  have beside' := Store.beside_modifyDict known' ({ · with entries := before ++ behind })
  have cell' := Store.dict_modifyDict known' ({ · with entries := before ++ behind }) handle
  rw [if_pos rfl] at cell'
  generalize after.modifyDict handle ({ · with entries := before ++ behind }) = removed
    at beside' cell'
  have gone : removed.Misses none key (removed.dict handle).entries := by
    rw [cell']
    refine List.forall_mem_append.mpr ⟨fun entry mem => ?_, fun entry mem => ?_⟩
    · have missed := splits.misses entry mem
      rw [← beside'.sameBeside_eq] at missed
      exact Store.same_of_sameBeside missed
    · refine (ruled entry mem).beside (beside.trans beside') ?_
      rw [cell']
      exact List.mem_append_right _ mem
  exact run_dictContains gone.findEntry_eq

/-- A store with a dictionary from lists of floating-point numbers to floating-point numbers, which
has a key, and a list of integers that is the same as the key. -/
def measuredPairs : Store where
  lists := #[⟨.float, [.float 1, .float 2], []⟩, ⟨.int, [.int 1, .int 2], []⟩]
  dicts := #[⟨.list .float, .float, [(.list 0, .float 3)], []⟩]

/-- The list of integers is given a value, which is found, given back and gone. -/
theorem measuredPairs_retrieves : measuredPairs.Sound ∧ measuredPairs.Widened 0 (.list 1) ∧
    measuredPairs.KeysApart 0 ∧ ∃ after removed,
      (dictSet 0 (.list 1) (.int 5)).run measuredPairs = .ok ((), after) ∧
      (dictContains 0 (.list 1)).run after = .ok (true, after) ∧
      (dictGet 0 (.list 1)).run after = .ok (.float (Number.ofWord 5), after) ∧
      (dictRemove 0 (.list 1)).run after = .ok (some (.float (Number.ofWord 5)), removed) ∧
      (dictContains 0 (.list 1)).run removed = .ok (false, removed) := by
  have sound : measuredPairs.Sound := by
    refine Store.sound_of_known (fun handle known => ?_) fun handle known => ?_
    · change handle < 2 at known
      interval_cases handle <;>
        simp [Store.list, measuredPairs, Store.Admits, Store.Holds, Store.Conforms]
    · change handle < 1 at known
      interval_cases handle
      simp [Store.dict, Store.list, measuredPairs, Store.Admits, Store.Holds, Store.Conforms]
  have held : measuredPairs.Holds (.list 1) := by simp [Store.Holds, measuredPairs]
  have widened : measuredPairs.Widened 0 (.list 1) := by
    refine ⟨⟨by decide, by decide, by decide⟩, by decide, ?_⟩
    have contents : measuredPairs.contents (.list 1) = .list 0 .any [.int 1, .int 2] := rfl
    rw [contents]
    simp [measuredPairs, Store.dict, Datum.Widens]
  have apart : measuredPairs.KeysApart 0 :=
    ⟨by decide, by decide, by decide, by decide⟩
  cases ran : (dictSet 0 (.list 1) (.int 5)).run measuredPairs with
  | error stop =>
    have succeeds : ((dictSet 0 (.list 1) (.int 5)).run measuredPairs).toOption.isSome = true := by
      decide
    rw [ran] at succeeds
    cases succeeds
  | ok outcome =>
    obtain ⟨_, _, converted, _, removed, -, ranValue, contains, gets, removes, gone⟩ :=
      dictSet_retrieves sound (by decide) held (.widened widened) ran
    cases ranValue
    exact ⟨sound, widened, apart, outcome.2, removed, rfl, contains, gets, removes,
      gone (.inr ⟨widened, apart⟩)⟩

/-- A store with a dictionary for each way in which a key is lost or found again: three with a tag
that changes keys, one for keys that hold the dictionary itself, and two that have the same key
twice. -/
def misplacedKeys : Store where
  lists := #[⟨.any, [.dict 3], []⟩, ⟨.any, [.int 1], []⟩, ⟨.any, [.int 1], []⟩]
  dicts := #[⟨.int, .int, [], []⟩, ⟨.void, .int, [], []⟩, ⟨.dict .float .int, .int, [], []⟩,
    ⟨.list (.dict .any .float), .int, [], []⟩,
    ⟨.any, .int, [(.int 9007199254740992, .int 1), (.int 9007199254740993, .int 2)], []⟩,
    ⟨.any, .int, [(.list 1, .int 1), (.list 2, .int 2)], []⟩]

/-- Whether a dictionary has a key that was just given a value. -/
def containsAfterSet (handle : Handle) (key : Value) : Alloc Bool := do
  dictSet handle key (.int 3)
  dictContains handle key

/-- Whether a dictionary has a key that was just given a value and removed. -/
def containsAfterRemove (handle : Handle) (key : Value) : Alloc Bool := do
  dictSet handle key (.int 3)
  discard (dictRemove handle key)
  dictContains handle key

/-- **Keys that are not found again.** What has no value is stored under the zero of the tag,
anything is stored under nothing where the tag asks for nothing, a key whose own keys become the
same loses one of them, and a key that holds the dictionary is copied before the dictionary
changes. A key is still found after it was removed if two integers of the dictionary widen to it,
or if two lists that are keys were changed until they were the same. -/
theorem conversion_hides_keys :
    ((containsAfterSet 0 .void).run misplacedKeys).toOption.map Prod.fst = some false ∧
    ((containsAfterSet 0 .untyped).run misplacedKeys).toOption.map Prod.fst = some false ∧
    ((containsAfterSet 1 (.int 5)).run misplacedKeys).toOption.map Prod.fst = some false ∧
    ((containsAfterSet 2 (.dict 4)).run misplacedKeys).toOption.map Prod.fst = some false ∧
    ((containsAfterSet 3 (.list 0)).run misplacedKeys).toOption.map Prod.fst = some false ∧
    ((containsAfterRemove 4 (.float 9007199254740992)).run misplacedKeys).toOption.map Prod.fst =
      some true ∧
    ((containsAfterRemove 5 (.list 1)).run misplacedKeys).toOption.map Prod.fst = some true := by
  decide

end Alloc

end ReactiveScript
