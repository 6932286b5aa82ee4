import ReactiveScript.Proofs.Conversion.Identity
import ReactiveScript.Proofs.Nesting.Casting

/-! # What a cast ends in

A cast walks through its target type down to the items of lists and the entries of dictionaries, and
converts implicitly what it puts into a dictionary. A zero and an implicit conversion have faults of
their own. `Value.cast_hasType_or_invalidCast` says that none of them comes out of a cast: it gives
a value that has the type all the way down, or it fails with an invalid cast, and it goes on for
ever only where a container stands inside itself. What carries the proof is that a value that has a
type is converted to itself (`Store.HasType.run_coerce`), so the second conversion of keys and
values does nothing. -/

namespace ReactiveScript

namespace Store

variable {store after : Store} {type : Ty} {value : Value}

/-- Whether a value has a type all the way down: a container has the tags of the type, and what is
in it has the types that the tags say. Where the type says anything, anything may stand. -/
def HasType (store : Store) : Ty → Value → Prop
  | .any, _ => True
  | .list element, .list handle =>
    handle < store.lists.size ∧ (store.list handle).element = element ∧
      ∀ item ∈ (store.list handle).items, store.HasType element item
  | .dict key value, .dict handle =>
    handle < store.dicts.size ∧ (store.dict handle).key = key ∧
      (store.dict handle).value = value ∧
      ∀ entry ∈ (store.dict handle).entries,
        store.HasType key entry.1 ∧ store.HasType value entry.2
  | type, value => store.Conforms type value

/-- What has a type all the way down conforms to it. -/
theorem HasType.conforms (h : store.HasType type value) : store.Conforms type value := by
  cases type with
  | list element =>
    cases value with
    | list handle => exact .inr h.2.1
    | _ => exact h
  | dict keyType valueType =>
    cases value with
    | dict handle => exact ⟨.inr h.2.1, .inr h.2.2.1⟩
    | _ => exact h
  | _ => cases value <;> exact h

/-- **What has a type is converted to itself**, and no container is made. -/
theorem HasType.run_coerce (h : store.HasType type value) :
    (Value.coerce type value).run store = .ok (value, store) :=
  Value.coerce_of_conforms h.conforms

/-- A value keeps its type in a store that extends. -/
theorem Extends.hasType (h : store.Extends after) (typed : store.HasType type value) :
    after.HasType type value := by
  induction type generalizing value with
  | any => trivial
  | list element ih =>
    cases value with
    | list handle =>
      obtain ⟨held, tag, items⟩ := typed
      unfold HasType
      rw [h.list handle held]
      exact ⟨Nat.lt_of_lt_of_le held h.lists, tag, fun item mem => ih (items item mem)⟩
    | _ => exact typed
  | dict keyType valueType keys values =>
    cases value with
    | dict handle =>
      obtain ⟨held, keyTag, valueTag, entries⟩ := typed
      unfold HasType
      rw [h.dict handle held]
      refine ⟨Nat.lt_of_lt_of_le held h.dicts, keyTag, valueTag, fun entry mem => ?_⟩
      exact ⟨keys (entries entry mem).1, values (entries entry mem).2⟩
    | _ => exact typed
  | _ => cases value <;> exact typed

end Store

namespace Alloc

variable {α β : Type} {store : Store} {action : Alloc α} {next : α → Alloc β}
variable {gives : Store → α → Prop} {promises : Store → β → Prop}

/-- An operation that leaves the containers alone that are there and gives a result as promised, or
fails with an invalid cast, if it comes to an end. -/
def CastsTo (action : Alloc α) (store : Store) (gives : Store → α → Prop) : Prop :=
  match action.run store with
  | .ok (result, after) => store.Extends after ∧ gives after result
  | .error (.fault fault) => fault.kind = .invalidCast
  | .error .exhausted => True

namespace CastsTo

/-- A result that is given at once. -/
theorem pure {value : α} (h : gives store value) : CastsTo (Pure.pure value) store gives :=
  ⟨.refl store, h⟩

/-- **One operation after the other.** Either may be the one that fails. -/
theorem bind (first : CastsTo action store gives)
    (second : ∀ after value, store.Extends after → gives after value →
      CastsTo (next value) after promises) : CastsTo (action >>= next) store promises := by
  unfold CastsTo at first ⊢
  rw [StateT.run_bind]
  cases ran : action.run store with
  | error stop =>
    rw [ran] at first
    cases stop <;> exact first
  | ok outcome =>
    obtain ⟨value, middle⟩ := outcome
    rw [ran] at first
    have rest := second middle value first.1 first.2
    unfold CastsTo at rest
    change match (next value).run middle with
      | .ok (result, after) => store.Extends after ∧ promises after result
      | .error (.fault fault) => fault.kind = .invalidCast
      | .error .exhausted => True
    cases ran' : (next value).run middle with
    | error stop =>
      rw [ran'] at rest
      cases stop <;> exact rest
    | ok outcome =>
      rw [ran'] at rest
      exact ⟨first.1.trans rest.1, rest.2⟩

/-- An operation that looks at the store first. -/
theorem get {follow : Store → Alloc β} (h : CastsTo (follow store) store promises) :
    CastsTo (MonadState.get >>= follow) store promises := h

/-- An operation after an outcome that does not look at the store. -/
theorem lift {outcome : Except Fault α}
    (refused : ∀ fault, outcome = .error fault → fault.kind = .invalidCast)
    (h : ∀ value, CastsTo (next value) store promises) :
    CastsTo ((liftM outcome : Alloc α) >>= next) store promises := by
  cases outcome with
  | error fault => exact refused fault rfl
  | ok value => exact h value

/-- An operation after something that is found, or looked for for ever. -/
theorem found {result : Option α}
    (h : ∀ value, result = some value → CastsTo (next value) store promises) :
    CastsTo ((liftM result : Alloc α) >>= next) store promises := by
  cases result with
  | none => trivial
  | some value => exact h value rfl

/-- Operations on each of some values, with results that have a type. -/
theorem mapM {operation : α → Alloc Value} {type : Ty}
    (h : ∀ value store, CastsTo (operation value) store fun after => after.HasType type)
    (values : List α) (store : Store) :
    CastsTo (values.mapM operation) store fun after results =>
      ∀ result ∈ results, after.HasType type result := by
  induction values generalizing store with
  | nil => exact .pure (List.forall_mem_nil _)
  | cons value rest ih =>
    rw [List.mapM_cons]
    refine .bind (h value store) fun middle result _ typed => ?_
    refine .bind (ih middle) fun after results extends' all => .pure ?_
    exact List.forall_mem_cons.mpr ⟨extends'.hasType typed, all⟩

/-- A new list of items that have a type. -/
theorem newList {element : Ty} {items : List Value}
    (typed : ∀ item ∈ items, store.HasType element item) :
    CastsTo (Alloc.newList element items) store fun after => after.HasType (.list element) := by
  have kept := Store.Extends.pushList store ⟨element, items, []⟩
  have cell : Store.list { store with lists := store.lists.push ⟨element, items, []⟩ }
      store.lists.size = ⟨element, items, []⟩ := by rw [Store.list_push, if_pos rfl]
  refine ⟨kept, ?_, by rw [cell], fun item mem => ?_⟩
  · change store.lists.size < (store.lists.push _).size
    rw [Array.size_push]
    exact Nat.lt_succ_self _
  · rw [cell] at mem
    exact kept.hasType (typed item mem)

/-- A new dictionary of entries whose keys and values have types. -/
theorem newDict {keyType valueType : Ty} {entries : List (Value × Value)}
    (typed : ∀ entry ∈ entries, store.HasType keyType entry.1 ∧ store.HasType valueType entry.2) :
    CastsTo (Alloc.newDict keyType valueType entries) store fun after =>
      after.HasType (.dict keyType valueType) := by
  have kept := Store.Extends.pushDict store ⟨keyType, valueType, entries, []⟩
  have cell : Store.dict
      { store with dicts := store.dicts.push ⟨keyType, valueType, entries, []⟩ }
      store.dicts.size = ⟨keyType, valueType, entries, []⟩ := by rw [Store.dict_push, if_pos rfl]
  refine ⟨kept, ?_, by rw [cell], by rw [cell], fun entry mem => ?_⟩
  · change store.dicts.size < (store.dicts.push _).size
    rw [Array.size_push]
    exact Nat.lt_succ_self _
  · rw [cell] at mem
    exact ⟨kept.hasType (typed entry mem).1, kept.hasType (typed entry mem).2⟩

/-- **A cast may be followed by a conversion to the same type**, which changes nothing. -/
theorem coerce {type : Ty} {action : Alloc Value}
    (h : CastsTo action store fun after => after.HasType type) :
    CastsTo (action >>= Value.coerce type) store fun after => after.HasType type := by
  refine .bind h fun after value _ typed => ?_
  unfold CastsTo
  rw [typed.run_coerce]
  exact ⟨.refl after, typed⟩

end CastsTo

end Alloc

namespace Value

variable {fault : Fault}

/-! ## Casts to numbers -/

/-- A number that is too large for an integer is an invalid cast. -/
theorem kind_of_truncate {x : Float} (h : truncate x = .error fault) :
    fault.kind = .invalidCast := by
  unfold truncate at h
  split at h
  · cases h
  · cases h
    rfl

/-- A cast to an integer fails as an invalid cast only. -/
theorem kind_of_castInt {value : Value} (h : castInt value = .error fault) :
    fault.kind = .invalidCast := by
  unfold castInt at h
  split at h
  · cases h
  · exact kind_of_truncate h
  · exact kind_of_truncate h
  · cases h
  · dsimp only at h
    split at h
    · cases h
    · split at h
      · exact kind_of_truncate h
      · cases h
        rfl
  · cases h
    rfl

/-- A cast to a floating-point number fails as an invalid cast only. -/
theorem kind_of_castFloat {value : Value} (h : castFloat value = .error fault) :
    fault.kind = .invalidCast := by
  unfold castFloat at h
  split at h
  · cases h
  · cases h
  · cases h
  · cases h
  · split at h
    · cases h
    · cases h
      rfl
  · cases h
    rfl

/-- A cast to a complex number fails as an invalid cast only. -/
theorem kind_of_castComplex {value : Value} (h : castComplex value = .error fault) :
    fault.kind = .invalidCast := by
  unfold castComplex at h
  split at h
  · cases h
  · split at h
    · cases h
    · cases h
      rfl
  · cases failed : castFloat value with
    | error cause =>
      rw [failed] at h
      cases h
      exact kind_of_castFloat failed
    | ok x =>
      rw [failed] at h
      cases h

/-! ## All casts -/

/-- The zero of a type of the language has the type. -/
theorem zeroOf_castsTo {type : Ty} (known : ∀ name, type ≠ .unknown name) (store : Store) :
    (zeroOf type).CastsTo store fun after => after.HasType type := by
  cases type with
  | list element => exact .newList (List.forall_mem_nil _)
  | dict key value => exact .newDict (List.forall_mem_nil _)
  | unknown name => exact absurd rfl (known name)
  | _ => exact .pure trivial

/-- Entries that are cast one after the other have the types that they are cast to. -/
theorem convertEntries_castsTo {keyType valueType : Ty} {castKey castValue : Value → Alloc Value}
    (keys : ∀ key store, (castKey key).CastsTo store fun after => after.HasType keyType)
    (values : ∀ value store, (castValue value).CastsTo store fun after => after.HasType valueType)
    (entries : List (Value × Value)) {done : List (Value × Value)} (store : Store)
    (typed : ∀ entry ∈ done, store.HasType keyType entry.1 ∧ store.HasType valueType entry.2) :
    (convertEntries castKey castValue done entries).CastsTo store fun after converted =>
      ∀ entry ∈ converted, after.HasType keyType entry.1 ∧ after.HasType valueType entry.2 := by
  induction entries generalizing store done with
  | nil => exact .pure typed
  | cons entry rest ih =>
    refine .bind (keys entry.1 store) fun middle key first typedKey => ?_
    refine .bind (values entry.2 middle) fun after value second typedValue => ?_
    refine .get (.found fun set done => ih after
      (Store.forall_mem_setEntry done (second.hasType typedKey) typedValue ?_))
    intro old mem
    have both := first.trans second
    exact ⟨both.hasType (typed old mem).1, both.hasType (typed old mem).2⟩

/-- **Every cast leads to a value that has the type**, or fails with an invalid cast. -/
theorem cast_castsTo (type : Ty) (value : Value) (store : Store) :
    (cast type value).CastsTo store fun after => after.HasType type := by
  induction type generalizing value store with
  | any => exact .pure trivial
  | unknown name => rfl
  | void => exact .pure trivial
  | int =>
    cases value with
    | void | untyped => exact zeroOf_castsTo (by simp) store
    | _ => exact .lift (fun _ => kind_of_castInt) fun _ => .pure trivial
  | float =>
    cases value with
    | void | untyped => exact zeroOf_castsTo (by simp) store
    | _ => exact .lift (fun _ => kind_of_castFloat) fun _ => .pure trivial
  | complex =>
    cases value with
    | void | untyped => exact zeroOf_castsTo (by simp) store
    | _ => exact .lift (fun _ => kind_of_castComplex) fun _ => .pure trivial
  | boolean =>
    cases value with
    | void | untyped => exact zeroOf_castsTo (by simp) store
    | _ => exact .get (.pure trivial)
  | text =>
    cases value with
    | void | untyped => exact zeroOf_castsTo (by simp) store
    | _ => exact .get (.found fun _ _ => .pure trivial)
  | list element ih =>
    have fill (items : List Value) :
        Alloc.CastsTo (do
          let items ← items.mapM (cast element)
          Alloc.newList element items) store fun after => after.HasType (.list element) :=
      .bind (.mapM ih items store) fun _ _ _ typed => .newList typed
    cases value with
    | void | untyped => exact zeroOf_castsTo (by simp) store
    | list handle => exact .get (fill _)
    | text s => exact fill _
    | dict handle => exact .get (fill _)
    | _ => rfl
  | dict keyType valueType keys values =>
    cases value with
    | void | untyped => exact zeroOf_castsTo (by simp) store
    | dict handle =>
      -- What is cast is converted once more where it is put into the new dictionary.
      have entries := convertEntries_castsTo (fun key store => .coerce (keys key store))
        (fun value store => .coerce (values value store)) (store.dict handle).entries
        store (List.forall_mem_nil _)
      exact .get (.bind entries fun _ _ _ typed => .newDict typed)
    | _ => rfl

/-- **A cast gives its type or fails as an invalid cast.** Whatever the store holds, a cast of any
value to any type, names that are no types included, either gives a value that has the type all the
way down, with the containers that were there untouched, or fails with an invalid cast, or goes on
for ever, which no cast does of a value that is all there. -/
theorem cast_hasType_or_invalidCast (store : Store) (type : Ty) (value : Value) :
    (∃ result after, (cast type value).run store = .ok (result, after) ∧ store.Extends after ∧
        after.HasType type result) ∨
      (∃ fault, (cast type value).run store = .error (.fault fault) ∧
        fault.kind = .invalidCast) ∨
      ((cast type value).run store = .error .exhausted ∧ ¬ store.Whole value) := by
  have outcome := cast_castsTo type value store
  unfold Alloc.CastsTo at outcome
  cases ran : (cast type value).run store with
  | error stop =>
    rw [ran] at outcome
    cases stop with
    | fault fault => exact .inr (.inl ⟨fault, rfl, outcome⟩)
    | exhausted => exact .inr (.inr ⟨rfl, fun whole => (cast_ends type whole).ne_exhausted ran⟩)
  | ok reached =>
    obtain ⟨result, after⟩ := reached
    rw [ran] at outcome
    exact .inl ⟨result, after, rfl, outcome⟩

/-- There is no zero to give for what has no value when the items are cast to a name that is no
type: that is an invalid cast as well. -/
example : ∃ fault, (cast (.list (.unknown "pair")) (.list 0)).run ⟨#[⟨.any, [.void], []⟩], #[]⟩ =
    .error (.fault fault) ∧ fault.kind = .invalidCast :=
  ⟨_, rfl, rfl⟩

end Value

end ReactiveScript
