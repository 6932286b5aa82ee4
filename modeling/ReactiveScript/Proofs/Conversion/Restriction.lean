import ReactiveScript.Proofs.Conversion.Identity
import ReactiveScript.Proofs.Conversion.Operation

/-! # Implicit conversion is a restriction of the cast

Implicit conversion shares containers whose tags fit, and a cast always copies; both are conversions
of contents (`Value.coerce_follows`, `Value.cast_achieves`), so whatever is converted implicitly can
be cast, with the same contents (`Value.cast_of_coerce`). Keys are compared while they are
converted, and there a shared container counts as itself. So keys that are containers must not hold
anything that is no number: `Value.aliased_keys_merge` shows what happens otherwise. -/

namespace ReactiveScript

namespace Value

variable {base store after : Store} {value result : Value} {type : Ty}

/-- **What conforms to a type has contents that a conversion to it leaves alone.** -/
theorem convert_of_conforms (tidy : store.Tidy value) (conforms : store.Conforms type value) :
    Datum.convert type (store.contents value) = some (store.contents value) := by
  induction type generalizing value with
  | any => rfl
  | list element ih =>
    cases value with
    | list handle =>
      rw [tidy.toWhole.contents_list, Datum.convert, Datum.mapM_eq_some_iff.mpr, Option.map_some]
      refine List.forall₂_same.mpr fun contents found => ?_
      obtain ⟨item, mem, rfl⟩ := List.mem_map.mp found
      obtain ⟨admitted, tidy⟩ := tidy.item mem
      rcases conforms with rfl | same
      · rfl
      · exact ih tidy (same ▸ admitted)
    | _ => cases conforms
  | dict keyType valueType keys values =>
    cases value with
    | dict handle =>
      obtain ⟨fitsKey, fitsValue⟩ := conforms
      rw [tidy.toWhole.contents_dict, Datum.convert,
        Datum.convertEntries_fixed ?_ ?_ tidy.keys_like, Option.map_some, List.nil_append]
      · intro contents found
        obtain ⟨entry, mem, rfl⟩ := List.mem_map.mp found
        obtain ⟨⟨admitted, tidy⟩, -⟩ := tidy.entry mem
        rcases fitsKey with rfl | same
        · rfl
        · exact keys tidy (same ▸ admitted)
      · intro contents found
        obtain ⟨entry, mem, rfl⟩ := List.mem_map.mp found
        obtain ⟨-, admitted, tidy⟩ := tidy.entry mem
        rcases fitsValue with rfl | same
        · rfl
        · exact values tidy (same ▸ admitted)
    | _ => cases conforms
  | _ => cases value <;> first | rfl | cases conforms

/-- The zero of a type is added with its contents, and conforms to the type. -/
theorem zeroOf_adds {contents : Datum} (store : Store) (h : Datum.zeroOf type = some contents) :
    ∃ result after, (zeroOf type).run store = .ok (result, after) ∧
      store.Adds after result contents ∧ after.Conforms type result := by
  cases type with
  | list element =>
    cases h
    refine ⟨_, _, rfl, store.adds_newList element (by simp), .inr ?_⟩
    rw [Store.list_push, if_pos rfl]
  | dict key value =>
    cases h
    refine ⟨_, _, rfl, store.adds_newDict key value (by simp), .inr ?_, .inr ?_⟩
    · rw [Store.dict_push, if_pos rfl]
    · rw [Store.dict_push, if_pos rfl]
  | unknown name => cases h
  | _ =>
    cases h
    exact ⟨_, store, rfl, .refl (store.whole_of_isPlain rfl), trivial⟩

/-- The zero of a type that is added has the contents of the zero. -/
theorem zeroOf_follows (ran : (zeroOf type).run store = .ok (result, after)) :
    ∃ contents, Datum.zeroOf type = some contents ∧ store.Adds after result contents := by
  cases found : Datum.zeroOf type with
  | none =>
    cases type with
    | unknown name => cases ran
    | _ => cases found
  | some contents =>
    obtain ⟨result', after', ran', added, -⟩ := zeroOf_adds store found
    rw [ran'] at ran
    cases ran
    exact ⟨contents, rfl, added⟩

/-- **An implicit conversion of a tidy value follows the conversion of contents.** -/
theorem coerce_follows (type : Ty) (tidy : base.Tidy value) :
    Alloc.Follows (coerce type) (Datum.convert type) base value := by
  induction type generalizing value with
  | any =>
    intro store result after h ran
    cases ran
    exact ⟨_, rfl, .refl _, tidy.toWhole.of_extends h, tidy.toWhole.contents_eq h⟩
  | list element ih =>
    intro store result after h ran
    cases value with
    | void | untyped => exact zeroOf_follows ran
    | list handle =>
      have cell := h.list handle tidy.toWhole.holds
      rw [coerce] at ran
      change StateT.run (if tagFits element (store.list handle).element then _ else _) store = _
        at ran
      rw [cell] at ran
      split at ran
      · -- A list whose tag fits is kept: its items have the type already.
        rename_i fits
        cases ran
        exact ⟨_, convert_of_conforms tidy (tagFits_iff.mp fits), .refl _,
          tidy.toWhole.of_extends h, tidy.toWhole.contents_eq h⟩
      · obtain ⟨⟨results, middle⟩, converted, ran⟩ := exists_of_bind_eq_ok ran
        cases ran
        obtain ⟨kept, whole, same⟩ :=
          Alloc.mapM_follows (fun item mem => ih (tidy.item mem).2) h converted
        have added := middle.adds_newList element whole
        refine ⟨_, ?_, kept.trans added.kept, added.whole, added.shows⟩
        rw [tidy.toWhole.contents_list, Datum.convert, same, Option.map_some]
    | _ => cases ran
  | dict keyType valueType keys values =>
    intro store result after h ran
    cases value with
    | void | untyped => exact zeroOf_follows ran
    | dict handle =>
      have cell := h.dict handle tidy.toWhole.holds
      rw [coerce] at ran
      change StateT.run (if tagFits keyType (store.dict handle).key &&
        tagFits valueType (store.dict handle).value then _ else _) store = _ at ran
      rw [cell] at ran
      split at ran
      · rename_i fits
        cases ran
        rw [Bool.and_eq_true, tagFits_iff, tagFits_iff] at fits
        exact ⟨_, convert_of_conforms tidy fits, .refl _, tidy.toWhole.of_extends h,
          tidy.toWhole.contents_eq h⟩
      · obtain ⟨⟨results, middle⟩, converted, ran⟩ := exists_of_bind_eq_ok ran
        cases ran
        obtain ⟨kept, lined, same⟩ := Alloc.convertEntries_follows
          (fun entry mem => keys (tidy.entry mem).1.2)
          (fun entry mem => values (tidy.entry mem).2.2)
          (fun entry mem _ => (tidy.steady_key mem).convert) h (by simp [Alloc.Lined]) converted
        have added := middle.adds_newDict keyType valueType
          fun entry mem => ⟨(lined entry mem).1.1, (lined entry mem).2⟩
        refine ⟨_, ?_, kept.trans added.kept, added.whole, added.shows⟩
        rw [tidy.toWhole.contents_dict, Datum.convert, ← List.map_nil (f := store.entryContents),
          same, Option.map_some]
    | _ => cases ran
  | unknown name =>
    intro store result after h ran
    cases ran
  | _ =>
    intro store result after h ran
    cases value <;> cases ran
    all_goals exact ⟨_, rfl, .refl (Store.whole_of_isPlain _ rfl)⟩

/-- A cast that achieves a conversion and gives what conforms to its type. -/
def CastAchieves (type : Ty) (base : Store) (value : Value) : Prop :=
  ∀ ⦃store contents⦄, base.Extends store →
    Datum.convert type (base.contents value) = some contents →
      ∃ result after, (cast type value).run store = .ok (result, after) ∧
        store.Adds after result contents ∧ after.Conforms type result

/-- A cast that achieves a conversion still does when its result is converted implicitly. -/
theorem CastAchieves.coerced (achieves : CastAchieves type base value) :
    Alloc.Achieves (fun value => cast type value >>= coerce type) (Datum.convert type) base
      value := by
  intro store contents h converted
  obtain ⟨result, after, ran, added, conforms⟩ := achieves h converted
  refine ⟨result, after, ?_, added⟩
  rw [StateT.run_bind, ran]
  exact coerce_of_conforms conforms

/-- **A cast of a tidy value achieves the conversion of contents.** -/
theorem cast_achieves (type : Ty) (tidy : base.Tidy value) : CastAchieves type base value := by
  induction type generalizing value with
  | any =>
    intro store contents h converted
    cases converted
    exact ⟨value, store, rfl,
      ⟨.refl _, tidy.toWhole.of_extends h, tidy.toWhole.contents_eq h⟩, trivial⟩
  | list element ih =>
    intro store contents h converted
    cases value with
    | void | untyped => exact zeroOf_adds store converted
    | list handle =>
      rw [tidy.toWhole.contents_list, Datum.convert] at converted
      obtain ⟨items, found, rfl⟩ := Option.map_eq_some_iff.mp converted
      have each (item) (mem : item ∈ (base.list handle).items) :
          Alloc.Achieves (cast element) (Datum.convert element) base item := by
        intro store contents h converted
        obtain ⟨result, after, ran, added, -⟩ := ih (tidy.item mem).2 h converted
        exact ⟨result, after, ran, added⟩
      obtain ⟨results, middle, ran, kept, whole, rfl⟩ := Alloc.mapM_achieves each h found
      have added := middle.adds_newList element whole
      refine ⟨_, _, ?_, ⟨kept.trans added.kept, added.whole, added.shows⟩, .inr ?_⟩
      · rw [cast]
        change (((store.list handle).items.mapM (cast element) >>= _).run store) = _
        rw [h.list handle tidy.toWhole.holds, StateT.run_bind, ran]
        rfl
      · rw [Store.list_push, if_pos rfl]
    | _ => cases converted
  | dict keyType valueType keys values =>
    intro store contents h converted
    cases value with
    | void | untyped => exact zeroOf_adds store converted
    | dict handle =>
      rw [tidy.toWhole.contents_dict, Datum.convert] at converted
      obtain ⟨entries, found, rfl⟩ := Option.map_eq_some_iff.mp converted
      obtain ⟨results, middle, ran, kept, lined, rfl⟩ := Alloc.convertEntries_achieves
        (fun entry mem => (keys (tidy.entry mem).1.2).coerced)
        (fun entry mem => (values (tidy.entry mem).2.2).coerced)
        (fun entry mem _ => (tidy.steady_key mem).convert) h
        (by simp [Alloc.Lined] : Alloc.Lined store []) found
      have added := middle.adds_newDict keyType valueType
        fun entry mem => ⟨(lined entry mem).1.1, (lined entry mem).2⟩
      refine ⟨_, _, ?_, ⟨kept.trans added.kept, added.whole, added.shows⟩, .inr ?_, .inr ?_⟩
      · rw [cast]
        change ((convertEntries _ _ [] (store.dict handle).entries >>= _).run store) = _
        rw [h.dict handle tidy.toWhole.holds, StateT.run_bind, ran]
        rfl
      · rw [Store.dict_push, if_pos rfl]
      · rw [Store.dict_push, if_pos rfl]
    | _ => cases converted
  | unknown name =>
    intro store contents h converted
    cases converted
  | _ =>
    intro store contents h converted
    cases value <;> cases converted
    all_goals exact ⟨_, store, rfl, .refl (Store.whole_of_isPlain _ rfl), trivial⟩

/-- **Implicit conversion is a restriction of the cast.** Where a well-formed value, in which no key
that is a container holds anything that is no number, is converted to a type, it can also be cast to
the type, with a result of the same contents. -/
theorem cast_of_coerce (wellFormed : store.WellFormed value)
    (steady : ∀ part ∈ (store.view value).parts, ∀ key ∈ part.keys, key.Steady)
    (ran : (coerce type value).run store = .ok (result, after)) :
    ∃ copy final, (cast type value).run store = .ok (copy, final) ∧
      final.contents copy = after.contents result := by
  have tidy : store.Tidy value := ⟨wellFormed, steady⟩
  obtain ⟨contents, converted, added⟩ := coerce_follows type tidy (.refl store) ran
  obtain ⟨copy, final, ran', added', -⟩ := cast_achieves type tidy (.refl store) converted
  exact ⟨copy, final, ran', added'.shows.trans added.shows.symm⟩

/-- A store with a dictionary from integers and nothing to lists of integers. -/
def countedLists : Store where
  lists := #[⟨.int, [.int 2, .int 3], []⟩, ⟨.int, [], []⟩]
  dicts := #[⟨.any, .list .int, [(.int 1, .list 0), (.void, .list 1), (.int 0, .list 0)], []⟩]

/-- The dictionary is converted to one of floating-point numbers, where nothing and zero become the
same key, and cast to one with the same contents. -/
theorem cast_of_coerce_counted : countedLists.WellFormed (.dict 0) ∧ ∃ result after copy final,
    (coerce (.dict .float (.list .float)) (.dict 0)).run countedLists = .ok (result, after) ∧
    (cast (.dict .float (.list .float)) (.dict 0)).run countedLists = .ok (copy, final) ∧
    final.contents copy = after.contents result := by
  have parts : (countedLists.view (.dict 0)).parts =
      [.dict 0 .any (.list .int) [(.int 1, .list 0 .int [.int 2, .int 3]), (.void, .list 1 .int []),
          (.int 0, .list 0 .int [.int 2, .int 3])],
        .int 1, .list 0 .int [.int 2, .int 3], .int 2, .int 3, .void, .list 1 .int [],
        .int 0, .list 0 .int [.int 2, .int 3], .int 2, .int 3] := rfl
  have wellFormed : countedLists.WellFormed (.dict 0) := by
    refine ⟨⟨by decide, ?_⟩, ?_, by decide⟩
    · rw [parts]
      simp [Store.Holds, countedLists, Datum.value]
    · rw [parts]
      simp [-Prod.forall, Datum.Tagged, Store.Conforms, Datum.value, countedLists, Store.list]
  have steady : ∀ part ∈ (countedLists.view (.dict 0)).parts, ∀ key ∈ part.keys, key.Steady := by
    rw [parts]
    simp [Datum.keys, Datum.Steady, Datum.container?]
  cases ran : (coerce (.dict .float (.list .float)) (.dict 0)).run countedLists with
  | error fault =>
    have succeeds : ((coerce (.dict .float (.list .float)) (.dict 0)).run
      countedLists).toOption.isSome = true := by decide
    rw [ran] at succeeds
    cases succeeds
  | ok outcome =>
    obtain ⟨copy, final, copied, same⟩ := cast_of_coerce wellFormed steady ran
    exact ⟨wellFormed, outcome.1, outcome.2, copy, final, rfl, copied, same⟩

/-- A store with a dictionary of two lists that share a list of what is no number. -/
def sharedKeys : Store where
  lists := #[⟨.any, [.float Number.notANumber], []⟩, ⟨.any, [.void, .list 0], []⟩, ⟨.any, [], []⟩,
    ⟨.any, [.list 2, .list 0], []⟩]
  dicts := #[⟨.any, .any, [(.list 1, .int 1), (.list 3, .int 2)], []⟩]

/-- **Keys that share what is no number.** Converted to lists of lists, the keys become the same
because they still share a list, which counts as itself; cast to them, they do not, because each has
a copy of what differs from everything. So the conversion keeps one entry and the cast two. -/
theorem aliased_keys_merge : sharedKeys.WellFormed (.dict 0) ∧
    (((coerce (.dict (.list (.list .any)) .int) (.dict 0)).run sharedKeys).toOption.map
      fun (result, after) => (after.contents result).keys.length) = some 1 ∧
    (((cast (.dict (.list (.list .any)) .int) (.dict 0)).run sharedKeys).toOption.map
      fun (result, after) => (after.contents result).keys.length) = some 2 := by
  have parts : (sharedKeys.view (.dict 0)).parts =
      [.dict 0 .any .any [(.list 1 .any [.void, .list 0 .any [.float Number.notANumber]], .int 1),
          (.list 3 .any [.list 2 .any [], .list 0 .any [.float Number.notANumber]], .int 2)],
        .list 1 .any [.void, .list 0 .any [.float Number.notANumber]], .void,
        .list 0 .any [.float Number.notANumber], .float Number.notANumber, .int 1,
        .list 3 .any [.list 2 .any [], .list 0 .any [.float Number.notANumber]], .list 2 .any [],
        .list 0 .any [.float Number.notANumber], .float Number.notANumber, .int 2] := rfl
  refine ⟨⟨⟨by decide, ?_⟩, ?_, by decide⟩, by decide, by decide⟩
  · rw [parts]
    simp [Store.Holds, sharedKeys, Datum.value]
  · rw [parts]
    simp [Datum.Tagged, Store.Conforms]

end Value

end ReactiveScript
