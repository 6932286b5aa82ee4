import ReactiveScript.Proofs.Store.Sound

/-! # Implicit conversion settles

A conversion keeps every value that conforms to its type, a container with its handle
(`Value.coerce_of_conforms`), and what it gives conforms (`Value.conforms_of_coerce`). So the
variable that was given a converted value may be given it again and again: it keeps the container
that it shares with others, and is watched as before. Who watches a container makes no difference to
what becomes of it: conversion commutes with forgetting all subscribers (`Value.coerce_blind`). The
main statement is `Value.coerce_settles`. -/

namespace ReactiveScript

/-! ## Values that are kept -/

namespace Store

variable {store other : Store} {type : Ty} {value : Value}

/-- **Whether a value conforms depends on its type alone.** -/
theorem Conforms.of_typeIn (conforms : store.Conforms type value)
    (same : value.typeIn other = value.typeIn store) : other.Conforms type value := by
  cases type <;> cases value <;> try exact conforms
  · rename_i element handle
    have tag := Ty.list.inj same
    exact conforms.imp_right tag.trans
  · rename_i keyType valueType handle
    obtain ⟨key, value⟩ := Ty.dict.inj same
    exact conforms.imp (Or.imp_right key.trans) (Or.imp_right value.trans)

/-- Every value conforms to its own type. -/
theorem conforms_typeIn (store : Store) (value : Value) :
    store.Conforms (value.typeIn store) value := by
  cases value with
  | list handle => exact .inr rfl
  | dict handle => exact ⟨.inr rfl, .inr rfl⟩
  | _ => trivial

end Store

namespace Value

variable {store after : Store} {type : Ty} {value result : Value}

/-- **What conforms to a type is kept** by a conversion to it: the same value, with nothing done to
the containers. -/
theorem coerce_of_conforms (conforms : store.Conforms type value) :
    (coerce type value).run store = .ok (value, store) := by
  cases type with
  | list element =>
    cases value with
    | list handle =>
      have fits : tagFits element (store.list handle).element = true := tagFits_iff.mpr conforms
      rw [coerce]
      change StateT.run (if tagFits element (store.list handle).element then _ else _) store = _
      rw [if_pos fits]
      rfl
    | _ => cases conforms
  | dict keyType valueType =>
    cases value with
    | dict handle =>
      have fits : (tagFits keyType (store.dict handle).key &&
          tagFits valueType (store.dict handle).value) = true := by
        rw [Bool.and_eq_true, tagFits_iff, tagFits_iff]
        exact conforms
      rw [coerce]
      change StateT.run (if tagFits keyType (store.dict handle).key &&
        tagFits valueType (store.dict handle).value then _ else _) store = _
      rw [if_pos fits]
      rfl
    | _ => cases conforms
  | any => rfl
  | _ =>
    cases value <;> first
      | rfl
      | cases conforms

/-- A new list conforms to the type of the lists with its tag. -/
theorem conforms_of_newList {element : Ty} {items : List Value}
    (ran : (Alloc.newList element items).run store = .ok (result, after)) :
    after.Conforms (.list element) result := by
  cases ran
  refine .inr ?_
  rw [Store.list_push, if_pos rfl]

/-- A new dictionary conforms to the type of the dictionaries with its tags. -/
theorem conforms_of_newDict {keyType valueType : Ty} {entries : List (Value × Value)}
    (ran : (Alloc.newDict keyType valueType entries).run store = .ok (result, after)) :
    after.Conforms (.dict keyType valueType) result := by
  cases ran
  refine ⟨.inr ?_, .inr ?_⟩ <;> rw [Store.dict_push, if_pos rfl]

/-- The zero of a type conforms to it. -/
theorem conforms_of_zeroOf (ran : (zeroOf type).run store = .ok (result, after)) :
    after.Conforms type result := by
  cases type with
  | list element => exact conforms_of_newList ran
  | dict keyType valueType => exact conforms_of_newDict ran
  | unknown name => cases ran
  | _ =>
    cases ran
    trivial

/-- **What a conversion gives conforms to its type**: it was kept because it conforms, or it is a
copy that was made with the tags of the type. -/
theorem conforms_of_coerce (ran : (coerce type value).run store = .ok (result, after)) :
    after.Conforms type result := by
  cases type with
  | list element =>
    cases value with
    | void | untyped => exact conforms_of_zeroOf ran
    | list handle =>
      rw [coerce] at ran
      change StateT.run (if tagFits element (store.list handle).element then _ else _) store = _
        at ran
      split at ran
      · rename_i fits
        cases ran
        exact tagFits_iff.mp fits
      · obtain ⟨⟨items, middle⟩, -, made⟩ := exists_of_bind_eq_ok ran
        exact conforms_of_newList made
    | _ => cases ran
  | dict keyType valueType =>
    cases value with
    | void | untyped => exact conforms_of_zeroOf ran
    | dict handle =>
      rw [coerce] at ran
      change StateT.run (if tagFits keyType (store.dict handle).key &&
        tagFits valueType (store.dict handle).value then _ else _) store = _ at ran
      split at ran
      · rename_i fits
        cases ran
        rw [Bool.and_eq_true, tagFits_iff, tagFits_iff] at fits
        exact fits
      · obtain ⟨⟨entries, middle⟩, -, made⟩ := exists_of_bind_eq_ok ran
        exact conforms_of_newDict made
    | _ => cases ran
  | any => trivial
  | unknown name => cases ran
  | _ =>
    cases value <;> first
      | exact conforms_of_zeroOf ran
      | cases ran <;> trivial

end Value

/-! ## Subscribers -/

namespace Store

/-- The store with nobody watching its containers. -/
def unwatched (store : Store) : Store where
  lists := store.lists.map ({ · with subscribers := [] })
  dicts := store.dicts.map ({ · with subscribers := [] })

@[simp] theorem list_unwatched (store : Store) (handle : Handle) :
    store.unwatched.list handle = { store.list handle with subscribers := [] } := by
  simp only [unwatched, list, Array.getD_eq_getD_getElem?, Array.getElem?_map]
  cases store.lists[handle]? <;> rfl

@[simp] theorem dict_unwatched (store : Store) (handle : Handle) :
    store.unwatched.dict handle = { store.dict handle with subscribers := [] } := by
  simp only [unwatched, dict, Array.getD_eq_getD_getElem?, Array.getElem?_map]
  cases store.dicts[handle]? <;> rfl

@[simp] theorem size_unwatched (store : Store) : store.unwatched.size = store.size := by
  simp [unwatched, size]

@[simp] theorem unwatched_unwatched (store : Store) :
    store.unwatched.unwatched = store.unwatched := by
  simp [unwatched, Function.comp_def]

/-- Values are compared alike whoever watches. -/
theorem sameWithin_unwatched (store : Store) (shut : Option Container) (budget : Nat) :
    store.unwatched.sameWithin shut budget = store.sameWithin shut budget := by
  induction budget with
  | zero => funext left right; cases left <;> cases right <;> rfl
  | succ budget ih =>
    funext left right
    cases left <;> cases right <;> simp only [sameWithin, list_unwatched, dict_unwatched, ih]

/-- An entry is put in the same place whoever watches. -/
theorem setEntry_unwatched (store : Store) (shut : Option Container) (key value : Value)
    (entries : List (Value × Value)) :
    store.unwatched.setEntry shut key value entries = store.setEntry shut key value entries := by
  induction entries with
  | nil => rfl
  | cons entry rest ih =>
    simp only [setEntry, sameBeside, size_unwatched, sameWithin_unwatched, ih]

end Store

namespace Alloc

variable {α β : Type} {action : Alloc α} {next : α → Alloc β}

/-- How an operation ends and the containers after it, but for who watches them. -/
def unwatched (action : Alloc α) (store : Store) : Except Stop (α × Store) :=
  (action.run store).map fun ended => (ended.1, ended.2.unwatched)

/-- **An operation that does not look at subscribers**: it does the same where nobody watches. -/
def Blind (action : Alloc α) : Prop :=
  ∀ store, action.run store.unwatched = action.unwatched store

namespace Blind

/-- A result that is given at once. -/
theorem pure (value : α) : Blind (Pure.pure value : Alloc α) := fun _ => rfl

/-- An operation that fails. -/
theorem fail (cause : Cause) : Blind (Alloc.fail cause : Alloc α) := fun _ => rfl

/-- Something that is found, or looked for for ever. -/
theorem found (result : Option α) : Blind (liftM result : Alloc α) := by
  intro store
  cases result <;> rfl

/-- One operation after the other. -/
theorem bind (first : Blind action) (second : ∀ value, Blind (next value)) :
    Blind (action >>= next) := by
  intro store
  unfold unwatched
  rw [StateT.run_bind, StateT.run_bind, first store]
  unfold unwatched
  cases action.run store with
  | error fault => rfl
  | ok ended => exact second ended.1 ended.2

/-- An operation that looks at the store first, but not at subscribers. -/
theorem get {follow : Store → Alloc β} (same : ∀ store, follow store.unwatched = follow store)
    (each : ∀ store, Blind (follow store)) : Blind (MonadState.get >>= follow) := by
  intro store
  change (follow store.unwatched).run store.unwatched = (follow store).unwatched store
  rw [same, each store store]

/-- Operations on each of some values. -/
theorem mapM {operation : α → Alloc β} (each : ∀ value, Blind (operation value))
    (values : List α) : Blind (values.mapM operation) := by
  induction values with
  | nil => exact .pure []
  | cons value rest ih =>
    rw [List.mapM_cons]
    exact .bind (each value) fun _ => .bind ih fun _ => .pure _

/-- A new list, which nobody watches. -/
theorem newList (element : Ty) (items : List Value) : Blind (Alloc.newList element items) := by
  intro store
  change Except.ok (Value.list store.unwatched.lists.size,
    { store.unwatched with lists := store.unwatched.lists.push ⟨element, items, []⟩ }) =
    .ok (.list store.lists.size,
      Store.unwatched { store with lists := store.lists.push ⟨element, items, []⟩ })
  simp [Store.unwatched]

/-- A new dictionary, which nobody watches. -/
theorem newDict (keyType valueType : Ty) (entries : List (Value × Value)) :
    Blind (Alloc.newDict keyType valueType entries) := by
  intro store
  change Except.ok (Value.dict store.unwatched.dicts.size,
    { store.unwatched with
      dicts := store.unwatched.dicts.push ⟨keyType, valueType, entries, []⟩ }) =
    .ok (.dict store.dicts.size,
      Store.unwatched { store with
        dicts := store.dicts.push ⟨keyType, valueType, entries, []⟩ })
  simp [Store.unwatched]

/-- **Stores that differ in who watches are led to stores that differ in who watches**, with the
same result or the same fault. -/
theorem congr (blind : Blind action) {store other : Store}
    (same : other.unwatched = store.unwatched) :
    action.unwatched other = action.unwatched store := by
  rw [← blind other, ← blind store, same]

end Blind

end Alloc

namespace Value

/-- The zero of a type is new. -/
theorem zeroOf_blind (type : Ty) : (zeroOf type).Blind := by
  cases type with
  | list element => exact .newList element []
  | dict keyType valueType => exact .newDict keyType valueType []
  | unknown name => exact .fail _
  | _ => exact .pure _

/-- Entries are converted one after the other, and put where their keys are. -/
theorem convertEntries_blind {convertKey convertValue : Value → Alloc Value}
    (keys : ∀ key, (convertKey key).Blind) (values : ∀ value, (convertValue value).Blind)
    (entries done : List (Value × Value)) :
    (convertEntries convertKey convertValue done entries).Blind := by
  induction entries generalizing done with
  | nil => exact .pure done
  | cons entry rest ih =>
    refine .bind (keys entry.1) fun key => .bind (values entry.2) fun value => .get ?_ fun _ =>
      .bind (.found _) fun _ => ih _
    intro store
    rw [Store.setEntry_unwatched]

/-- **A conversion does not look at subscribers.** -/
theorem coerce_blind (type : Ty) (value : Value) : (coerce type value).Blind := by
  induction type generalizing value with
  | any => exact .pure value
  | unknown name => exact .fail _
  | void => exact .pure _
  | list element ih =>
    cases value with
    | void | untyped => exact zeroOf_blind _
    | list handle =>
      rw [coerce]
      refine .get (fun store => by rw [Store.list_unwatched]) fun store => ?_
      dsimp only
      split
      · exact .pure _
      · exact .bind (.mapM ih _) fun items => .newList element items
    | _ => exact .fail _
  | dict keyType valueType ihKey ihValue =>
    cases value with
    | void | untyped => exact zeroOf_blind _
    | dict handle =>
      rw [coerce]
      refine .get (fun store => by rw [Store.dict_unwatched]) fun store => ?_
      dsimp only
      split
      · exact .pure _
      · refine .bind (convertEntries_blind ihKey ihValue _ _) fun entries => ?_
        exact .newDict keyType valueType entries
    | _ => exact .fail _
  | _ =>
    cases value <;> first
      | exact .pure _
      | exact .fail _

/-! ## Converting again -/

/-- **Implicit conversion settles.** What a conversion gives is kept, as the very value and with
nothing done to the containers, by every later conversion to the same type and to its own type: at
once, and in every store in which it still has the type that it had. And who watches which
containers makes no difference to a conversion: with other subscribers it fails with the same fault,
or it gives the same value and makes the same containers. -/
theorem coerce_settles (type : Ty) (value : Value) (store : Store) :
    (∀ result after, (coerce type value).run store = .ok (result, after) →
      ((coerce type result).run after = .ok (result, after) ∧
        (coerce (result.typeIn after) result).run after = .ok (result, after)) ∧
      ∀ later : Store, result.typeIn later = result.typeIn after →
        (coerce type result).run later = .ok (result, later) ∧
        (coerce (result.typeIn later) result).run later = .ok (result, later)) ∧
    (∀ other : Store, other.unwatched = store.unwatched →
      (coerce type value).unwatched other = (coerce type value).unwatched store) := by
  refine ⟨fun result after ran => ?_, fun other same => (coerce_blind type value).congr same⟩
  have conforms := conforms_of_coerce ran
  have settled (later : Store) (same : result.typeIn later = result.typeIn after) :
      (coerce type result).run later = .ok (result, later) ∧
        (coerce (result.typeIn later) result).run later = .ok (result, later) :=
    ⟨coerce_of_conforms (conforms.of_typeIn same),
      coerce_of_conforms (later.conforms_typeIn result)⟩
  exact ⟨settled after rfl, settled⟩

/-- A list of lists of anything, and a watched list of integers in it. -/
def nestedLists : Store :=
  ⟨#[⟨.int, [.int 1], ["x"]⟩, ⟨.any, [.list 0], []⟩], #[]⟩

/-- Converted to lists of lists of anything, the outer list is copied once and then kept, and the
copy holds the watched list itself. -/
theorem nestedLists_settled :
    ∃ after : Store,
      (coerce (.list (.list .any)) (.list 1)).run nestedLists = .ok (.list 2, after) ∧
      (after.list 2).items = [.list 0] ∧ (after.list 0).subscribers = ["x"] ∧
      (coerce (.list (.list .any)) (.list 2)).run after = .ok (.list 2, after) ∧
      (coerce (.list (.list .any)) (.list 1)).unwatched nestedLists.unwatched =
        (coerce (.list (.list .any)) (.list 1)).unwatched nestedLists := by
  obtain ⟨settled, blind⟩ := coerce_settles (.list (.list .any)) (.list 1) nestedLists
  have ran : (coerce (.list (.list .any)) (.list 1)).run nestedLists =
      .ok (.list 2, ⟨nestedLists.lists.push ⟨.list .any, [.list 0], []⟩, #[]⟩) := rfl
  refine ⟨_, ran, rfl, rfl, (settled _ _ ran).1.1, blind _ ?_⟩
  rw [Store.unwatched_unwatched]

end Value

end ReactiveScript
