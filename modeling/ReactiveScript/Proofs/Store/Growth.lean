import ReactiveScript.Proofs.Datum.View
import ReactiveScript.Proofs.Evaluation.Operation

/-! # Operations that only add containers

Conversions, casts, operators and indexing work on containers that others hold, yet all they do to a
store is to add new containers. What that means is said by a `Store.Growth`: a relation between
stores that may be composed and that holds wherever one container is added. Each of the operations
leads along every growth; that the containers that were there are untouched is the growth
`Store.Growth.extension`. -/

namespace ReactiveScript

/-- A relation between stores that adding containers respects. -/
structure Store.Growth where
  /-- How a store may have grown. -/
  Leads : Store → Store → Prop
  /-- A store may stay as it is. -/
  refl (store : Store) : Leads store store
  /-- A store may grow twice. -/
  trans {before middle after : Store} : Leads before middle → Leads middle after →
    Leads before after
  /-- A store may grow by a list. -/
  pushList (store : Store) (element : Ty) (items : List Value) :
    Leads store { store with lists := store.lists.push ⟨element, items, []⟩ }
  /-- A store may grow by a dictionary. -/
  pushDict (store : Store) (key value : Ty) (entries : List (Value × Value)) :
    Leads store { store with dicts := store.dicts.push ⟨key, value, entries, []⟩ }

/-- The containers that were there stay as they were. -/
def Store.Growth.extension : Store.Growth where
  Leads := Store.Extends
  refl := .refl
  trans := .trans
  pushList store _ _ := .pushList store _
  pushDict store _ _ _ := .pushDict store _

namespace Alloc

variable {α β : Type} {growth : Store.Growth} {store : Store} {action : Alloc α}
  {next : α → Alloc β}

/-- An operation that leads a store along a growth, if it leads anywhere. -/
def Along (action : Alloc α) (growth : Store.Growth) (store : Store) : Prop :=
  ∀ result after, action.run store = .ok (result, after) → growth.Leads store after

namespace Along

/-- A result that is given at once. -/
theorem pure {value : α} : Along (Pure.pure value) growth store := by
  intro result after ran
  cases ran
  exact growth.refl store

/-- An operation that fails. -/
theorem fail {cause : Cause} : Along (Alloc.fail cause : Alloc α) growth store := by
  intro result after ran
  cases ran

/-- One operation after the other. -/
theorem bind (first : Along action growth store)
    (second : ∀ value after, Along (next value) growth after) :
    Along (action >>= next) growth store := by
  intro result final ran
  obtain ⟨⟨value, middle⟩, ran, rest⟩ := exists_of_bind_eq_ok ran
  exact growth.trans (first value middle ran) (second value middle result final rest)

/-- An operation that looks at the store first. -/
theorem get {follow : Store → Alloc β} (h : Along (follow store) growth store) :
    Along (MonadState.get >>= follow) growth store := h

/-- An outcome that does not look at the store. -/
theorem outcome {outcome : Except Fault α} :
    Along (liftM outcome : Alloc α) growth store := by
  intro result after ran
  cases outcome with
  | error fault => cases ran
  | ok value =>
    cases ran
    exact growth.refl store

/-- Something that is found without touching the store. -/
theorem found {found : Option α} : Along (liftM found : Alloc α) growth store := by
  intro result after ran
  obtain ⟨-, rfl⟩ := lift_eq_ok ran
  exact growth.refl after

/-- An operation on what is found without touching the store. -/
theorem looked {found : Option α} (h : ∀ result, Along (next result) growth store) :
    Along (liftM found >>= next) growth store := by
  intro result after ran
  obtain ⟨⟨value, middle⟩, look, rest⟩ := exists_of_bind_eq_ok ran
  obtain ⟨-, rfl⟩ := lift_eq_ok look
  exact h value result after rest

/-- A change of the store. -/
theorem change {alter : Store → Store} (kept : growth.Leads store (alter store)) :
    Along (modify alter) growth store := by
  intro result after ran
  cases ran
  exact kept

/-- A store in place of the one that was there. -/
theorem set {other : Store} (kept : growth.Leads store other) :
    Along (MonadStateOf.set other) growth store := by
  intro result after ran
  cases ran
  exact kept

/-- Operations on each of some values. -/
theorem mapM {operation : α → Alloc β}
    (h : ∀ value store, Along (operation value) growth store) (values : List α) (store : Store) :
    Along (values.mapM operation) growth store := by
  induction values generalizing store with
  | nil => exact pure
  | cons value rest ih =>
    rw [List.mapM_cons]
    exact bind (h value store) fun _ after => bind (ih after) fun _ _ => pure

/-- A new list. -/
theorem newList {element : Ty} {items : List Value} :
    Along (Alloc.newList element items) growth store := by
  intro result after ran
  cases ran
  exact growth.pushList store element items

/-- A new dictionary. -/
theorem newDict {key value : Ty} {entries : List (Value × Value)} :
    Along (Alloc.newDict key value entries) growth store := by
  intro result after ran
  cases ran
  exact growth.pushDict store key value entries

end Along

end Alloc

open Alloc

namespace Value

variable {growth : Store.Growth} {store : Store}

/-- The zero of a type. -/
theorem zeroOf_along (type : Ty) : (zeroOf type).Along growth store := by
  cases type with
  | list element => exact .newList
  | dict key value => exact .newDict
  | unknown name => exact .fail
  | _ => exact .pure

/-- Entries that are converted one after the other. -/
theorem convertEntries_along {convertKey convertValue : Value → Alloc Value}
    (keys : ∀ key store, (convertKey key).Along growth store)
    (values : ∀ value store, (convertValue value).Along growth store)
    (entries done : List (Value × Value)) (store : Store) :
    (convertEntries convertKey convertValue done entries).Along growth store := by
  induction entries generalizing done store with
  | nil => exact .pure
  | cons entry rest ih =>
    refine .bind (keys entry.1 store) fun key middle => ?_
    refine .bind (values entry.2 middle) fun value after => .get ?_
    exact .bind .found fun set later => ih set later

/-- **A conversion** copies containers, and leaves those that are there alone. -/
theorem coerce_along (type : Ty) (value : Value) (store : Store) :
    (coerce type value).Along growth store := by
  induction type generalizing value store with
  | any => exact .pure
  | unknown name => exact .fail
  | void => exact .pure
  | list element ih =>
    cases value with
    | void | untyped => exact zeroOf_along _
    | list handle =>
      rw [coerce]
      refine .get ?_
      dsimp only
      split
      · exact .pure
      · exact .bind (.mapM ih _ store) fun _ _ => .newList
    | _ => exact .fail
  | dict keyType valueType ihKey ihValue =>
    cases value with
    | void | untyped => exact zeroOf_along _
    | dict handle =>
      rw [coerce]
      refine .get ?_
      dsimp only
      split
      · exact .pure
      · exact .bind (convertEntries_along ihKey ihValue _ _ store) fun _ _ => .newDict
    | _ => exact .fail
  | _ =>
    cases value <;> first
      | exact .pure
      | exact .fail

/-- **A cast** does the same. -/
theorem cast_along (type : Ty) (value : Value) (store : Store) :
    (cast type value).Along growth store := by
  induction type generalizing value store with
  | any => exact .pure
  | unknown name => exact .fail
  | void => exact .pure
  | int | float | complex =>
    cases value with
    | void | untyped => exact zeroOf_along _
    | _ =>
      simp only [cast]
      exact .bind .outcome fun _ _ => .pure
  | boolean =>
    cases value with
    | void | untyped => exact zeroOf_along _
    | _ =>
      simp only [cast]
      exact .get .pure
  | text =>
    cases value with
    | void | untyped => exact zeroOf_along _
    | _ =>
      simp only [cast]
      exact .get (.bind .found fun _ _ => .pure)
  | list element ih =>
    -- Lists, texts and dictionaries are gone through alike, item by item into a new list.
    have fill (items : List Value) (store : Store) :
        Along (do
          let items ← items.mapM (cast element)
          Alloc.newList element items) growth store :=
      .bind (.mapM ih items store) fun _ _ => .newList
    cases value with
    | void | untyped => exact zeroOf_along _
    | list handle => exact .get (fill _ store)
    | text s => exact fill _ store
    | dict handle => exact .get (fill _ store)
    | _ => exact .fail
  | dict keyType valueType ihKey ihValue =>
    cases value with
    | void | untyped => exact zeroOf_along _
    | dict handle =>
      rw [cast]
      refine .get (.bind (convertEntries_along ?_ ?_ _ _ store) fun _ _ => .newDict)
      -- What was cast is coerced once more when it is put into the new dictionary.
      · exact fun key store => .bind (ihKey key store) fun _ after => coerce_along _ _ after
      · exact fun value store => .bind (ihValue value store) fun _ after => coerce_along _ _ after
    | _ => exact .fail

/-- **An arithmetic operator** makes new lists, also where it takes items out of one. -/
theorem binary_along (op : BinaryOp) (left right : Value) :
    (binary op left right).Along growth store := by
  unfold binary
  refine .get ?_
  split
  · exact .bind (.mapM (coerce_along _) _ store) fun _ _ => .newList
  · exact .bind .found fun _ _ => .newList
  · split
    · exact .bind .found fun _ _ => .bind .found fun _ _ => .pure
    · exact .outcome
  · exact .outcome

end Value

namespace Alloc

variable {growth : Store.Growth} {store : Store}

/-- The element at an index. -/
theorem index_along (target position : Value) :
    (Alloc.index target position).Along growth store := by
  cases target with
  | list handle => exact .get (.bind .outcome fun _ _ => .pure)
  | dict handle => exact .get (.bind .found fun _ _ => .pure)
  | text s => exact .bind .outcome fun _ _ => .pure
  | _ => exact .fail

/-- A range. -/
theorem range_along (first last step : Int64) (inclusive : Bool) :
    (Alloc.range first last step inclusive).Along growth store :=
  .bind .outcome fun _ _ => .newList

/-- A question whether a container holds something. -/
theorem contains_along (container value : Value) :
    (Alloc.contains container value).Along growth store := by
  unfold Alloc.contains
  split
  · exact .get .found
  · exact .get (.bind .found fun _ _ => .pure)
  · exact .pure
  · exact .fail
  · exact .fail

/-- A part of a list or text. -/
theorem slice_along (sequence : Value) (first last : Int64) :
    (Alloc.slice sequence first last).Along growth store := by
  cases sequence with
  | list handle => exact .get .newList
  | text s => exact .pure
  | _ => exact .fail

end Alloc

section Document

variable {growth : Store.Growth}

mutual

/-- The value of a document. -/
theorem Document.toValue_along : ∀ (document : Document) (store : Store),
    document.toValue.Along growth store
  | .null, _ => .pure
  | .boolean _, _ => .pure
  | .integer _, _ => .pure
  | .float _, _ => .pure
  | .text _, _ => .pure
  | .array items, store => by
    rw [Document.toValue]
    exact .bind (Document.toValues_along items store) fun _ _ => .newList
  | .object members, store => by
    rw [Document.toValue]
    exact .bind (Document.toEntries_along members [] store) fun _ _ => .newDict

/-- The values of documents. -/
theorem Document.toValues_along : ∀ (documents : List Document) (store : Store),
    (Document.toValues documents).Along growth store
  | [], _ => by
    rw [Document.toValues]
    exact .pure
  | item :: items, store => by
    rw [Document.toValues]
    refine .bind (Document.toValue_along item store) fun _ after => ?_
    exact .bind (Document.toValues_along items after) fun _ _ => .pure

/-- The entries of an object. -/
theorem Document.toEntries_along : ∀ (members : List (String × Document))
    (before : List (Value × Value)) (store : Store),
    (Document.toEntries before members).Along growth store
  | [], _, _ => by
    rw [Document.toEntries]
    exact .pure
  | (name, document) :: members, before, store => by
    rw [Document.toEntries]
    refine .bind (Document.toValue_along document store) fun _ after => .get ?_
    exact .bind .found fun set later => Document.toEntries_along members set later

end

/-- The value of a text that is a document. -/
theorem Alloc.ofDocumentText_along (text : String) (store : Store) :
    (Alloc.ofDocumentText text).Along growth store := by
  unfold Alloc.ofDocumentText
  split
  · exact Document.toValue_along _ store
  · exact .fail

end Document

/-- **An operation that adds containers leads along every growth.** -/
theorem Making.along {growth : Store.Growth} {memory : Memory} {α : Type} {action : Alloc α}
    {operands : List Value} {results : α → List Value}
    (making : Making memory action operands results) (store : Store) :
    action.Along growth store := by
  cases making with
  | zero type => exact Value.zeroOf_along type
  | convert type value => exact Value.coerce_along type value store
  | cast type value => exact Value.cast_along type value store
  | binary op left right => exact Value.binary_along op left right
  | range first last step inclusive => exact Alloc.range_along first last step inclusive
  | index target position => exact Alloc.index_along target position
  | contains container value => exact Alloc.contains_along container value
  | slice sequence first last => exact Alloc.slice_along sequence first last
  | list | keys | values | sort | texts => exact .newList
  | dict | localScope | globalScope => exact .newDict
  | document text => exact Alloc.ofDocumentText_along text store

end ReactiveScript
