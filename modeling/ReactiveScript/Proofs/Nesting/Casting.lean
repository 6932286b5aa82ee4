import ReactiveScript.Proofs.Container.Lookup
import ReactiveScript.Proofs.Nesting.Reading
import ReactiveScript.Value.Cast

/-! # Converting and casting what has no container inside itself

A conversion and a cast go down the type, so they open containers no deeper than the type; but a
cast to a text reads a whole value, and what is put into a new dictionary is compared with its keys.
An operation `Alloc.Ends` if it does not go on for ever, only adds containers to the store, and
leads to what is promised. The main results are that conversions and casts of what is all there end
so, and give what is all there (`Value.coerce_ends`, `Value.cast_ends`). -/

namespace ReactiveScript

namespace Store

variable {store : Store} {key : Value} {entries : List (Value × Value)}

/-- An entry is set where no key has a container inside itself. -/
theorem isSome_setEntry (value : Value) (acyclic : (store.view key).isCyclic = false)
    (each : ∀ entry ∈ entries, (store.view entry.1).isCyclic = false) :
    (store.setEntry none key value entries).isSome = true := by
  have ends : ∀ entry ∈ entries, (store.sameBeside none entry.1 key).isSome = true :=
    fun entry mem => Option.isSome_of_mem (same_eq (each entry mem) acyclic)
  rcases misses_or_splits ends with misses | ⟨before, entry, behind, splits⟩
  · rw [misses.setEntry_eq]
    rfl
  · rw [splits.setEntry_eq]
    rfl

end Store

namespace Alloc

variable {α β : Type} {store : Store} {action : Alloc α} {follow : α → Alloc β}
variable {gives : Store → α → Prop} {promises : Store → β → Prop}

/-- An operation that comes to an end and only adds containers to the store, none of them inside
itself, with a result as promised, unless it fails. -/
def Ends (action : Alloc α) (store : Store) (gives : Store → α → Prop) : Prop :=
  match action.run store with
  | .ok (result, after) =>
    store.Extends after ∧ (store.AllWhole → after.AllWhole) ∧ gives after result
  | .error (.fault _) => True
  | .error .exhausted => False

namespace Ends

/-- It does not go on for ever. -/
theorem ne_exhausted (ends : action.Ends store gives) : action.run store ≠ .error .exhausted := by
  intro ran
  unfold Ends at ends
  rw [ran] at ends
  exact ends

/-- What it leads to. -/
theorem of_ok {result : α} {after : Store} (ends : action.Ends store gives)
    (ran : action.run store = .ok (result, after)) :
    store.Extends after ∧ (store.AllWhole → after.AllWhole) ∧ gives after result := by
  unfold Ends at ends
  rw [ran] at ends
  exact ends

/-- What is promised may be weakened. -/
theorem mono {gives' : Store → α → Prop} (h : action.Ends store gives)
    (weaker : ∀ {after value}, gives after value → gives' after value) :
    action.Ends store gives' := by
  unfold Ends at h ⊢
  cases ran : action.run store with
  | error stop =>
    rw [ran] at h
    cases stop <;> exact h
  | ok outcome =>
    rw [ran] at h
    exact ⟨h.1, h.2.1, weaker h.2.2⟩

/-- A result that is given at once. -/
theorem pure {value : α} (h : gives store value) :
    (Pure.pure value : Alloc α).Ends store gives :=
  ⟨.refl store, id, h⟩

/-- An operation that fails. -/
theorem fail {cause : Cause} : (Alloc.fail cause : Alloc α).Ends store gives := trivial

/-- **One operation after the other.** -/
theorem bind (first : action.Ends store gives)
    (second : ∀ after value, store.Extends after → gives after value →
      (follow value).Ends after promises) : (action >>= follow).Ends store promises := by
  unfold Ends at first ⊢
  rw [StateT.run_bind]
  cases ran : action.run store with
  | error stop =>
    rw [ran] at first
    cases stop with
    | fault fault => trivial
    | exhausted => exact first
  | ok outcome =>
    obtain ⟨value, middle⟩ := outcome
    rw [ran] at first
    have rest := second middle value first.1 first.2.2
    unfold Ends at rest
    change match (follow value).run middle with
      | .ok (result, after) =>
        store.Extends after ∧ (store.AllWhole → after.AllWhole) ∧ promises after result
      | .error (.fault _) => True
      | .error .exhausted => False
    cases ran' : (follow value).run middle with
    | error stop =>
      rw [ran'] at rest
      cases stop with
      | fault fault => trivial
      | exhausted => exact rest
    | ok outcome =>
      rw [ran'] at rest
      exact ⟨first.1.trans rest.1, rest.2.1 ∘ first.2.1, rest.2.2⟩

/-- An operation that looks at the store first. -/
theorem get {follow : Store → Alloc β} (h : (follow store).Ends store promises) :
    (MonadState.get >>= follow).Ends store promises := h

/-- An operation after an outcome that does not look at the store. -/
theorem lift {outcome : Except Fault α}
    (h : ∀ value, outcome = .ok value → (follow value).Ends store promises) :
    ((liftM outcome : Alloc α) >>= follow).Ends store promises := by
  cases outcome with
  | error fault => trivial
  | ok value => exact h value rfl

/-- An operation after something that is found, not looked for for ever. -/
theorem found {result : Option α} (ends : result.isSome = true)
    (h : ∀ value, result = some value → (follow value).Ends store promises) :
    ((liftM result : Alloc α) >>= follow).Ends store promises := by
  obtain ⟨value, rfl⟩ := Option.isSome_iff_exists.mp ends
  exact h value rfl

/-- A result that is no container is all there. -/
theorem plain {value : Value} (isPlain : value.isPlain = true) :
    (Pure.pure value : Alloc Value).Ends store fun after => after.Whole :=
  .pure (store.whole_of_isPlain isPlain)

/-- Operations on each of some values, with results that are all there. -/
theorem mapM {operation : α → Alloc Value} {values : List α}
    (each : ∀ value ∈ values, ∀ after, store.Extends after →
      (operation value).Ends after fun after => after.Whole) :
    (values.mapM operation).Ends store
      fun after results => ∀ result ∈ results, after.Whole result := by
  induction values generalizing store with
  | nil => exact .pure (List.forall_mem_nil _)
  | cons value values ih =>
    rw [List.mapM_cons]
    refine .bind (each value List.mem_cons_self store (.refl store)) ?_
    -- The other operations start from the store that the first has led to.
    intro middle result extended whole
    refine .bind (ih fun other mem after further =>
      each other (List.mem_cons_of_mem _ mem) after (extended.trans further)) ?_
    intro after results further all
    exact .pure (List.forall_mem_cons.mpr ⟨whole.of_extends further, all⟩)

/-- A new list of values that are all there. -/
theorem newList {element : Ty} {items : List Value} (whole : ∀ item ∈ items, store.Whole item) :
    (Alloc.newList element items).Ends store fun after => after.Whole :=
  ⟨.pushList store _, fun all => all.pushList element whole, (Store.whole_newList element whole).1⟩

/-- A new dictionary of keys and values that are all there. -/
theorem newDict {key value : Ty} {entries : List (Value × Value)}
    (whole : ∀ entry ∈ entries, store.Whole entry.1 ∧ store.Whole entry.2) :
    (Alloc.newDict key value entries).Ends store fun after => after.Whole :=
  ⟨.pushDict store _, fun all => all.pushDict key value whole,
    (Store.whole_newDict key value whole).1⟩

end Ends

end Alloc

namespace Value

open Alloc

variable {store : Store} {value : Value} {type : Ty}

/-- Entries that are converted one after the other are all there where the conversions give what is
all there. -/
theorem convertEntries_ends {convertKey convertValue : Value → Alloc Value}
    {entries done : List (Value × Value)}
    (sofar : ∀ entry ∈ done, store.Whole entry.1 ∧ store.Whole entry.2)
    (keys : ∀ entry ∈ entries, ∀ after, store.Extends after →
      (convertKey entry.1).Ends after fun after => after.Whole)
    (values : ∀ entry ∈ entries, ∀ after, store.Extends after →
      (convertValue entry.2).Ends after fun after => after.Whole) :
    (convertEntries convertKey convertValue done entries).Ends store
      fun after converted => ∀ entry ∈ converted, after.Whole entry.1 ∧ after.Whole entry.2 := by
  induction entries generalizing store done with
  | nil => exact .pure sofar
  | cons entry rest ih =>
    refine .bind (keys entry List.mem_cons_self store (.refl store)) ?_
    intro middle key extended wholeKey
    refine .bind (values entry List.mem_cons_self middle extended) ?_
    intro after value further wholeValue
    have both := extended.trans further
    have wholeKey := wholeKey.of_extends further
    have sofar' : ∀ old ∈ done, after.Whole old.1 ∧ after.Whole old.2 := fun old mem =>
      ⟨(sofar old mem).1.of_extends both, (sofar old mem).2.of_extends both⟩
    have set := Store.isSome_setEntry value wholeKey.acyclic
      fun old mem => (sofar' old mem).1.acyclic
    -- The conversions of the later entries start from the store that this entry has led to.
    refine .get (.found set fun next done => ih ?_ ?_ ?_)
    · exact Store.forall_mem_setEntry done wholeKey wholeValue sofar'
    · exact fun old mem later grows =>
        keys old (List.mem_cons_of_mem _ mem) later (both.trans grows)
    · exact fun old mem later grows =>
        values old (List.mem_cons_of_mem _ mem) later (both.trans grows)

/-- The zero of a type is all there. -/
theorem zeroOf_ends (type : Ty) : (zeroOf type).Ends store fun after => after.Whole := by
  cases type with
  | list element => exact .newList (List.forall_mem_nil _)
  | dict key value => exact .newDict (List.forall_mem_nil _)
  | unknown name => exact .fail
  | _ => exact .plain rfl

/-- **A conversion of what is all there comes to an end**, and gives what is all there. -/
theorem coerce_ends (type : Ty) (whole : store.Whole value) :
    (coerce type value).Ends store fun after => after.Whole := by
  induction type generalizing value store with
  | any => exact .pure whole
  | unknown name => exact .fail
  | void => exact .plain rfl
  | list element ih =>
    cases value with
    | void | untyped => exact zeroOf_ends _
    | list handle =>
      rw [coerce]
      refine .get ?_
      dsimp only
      -- A list is handed on if its tag fits, and is converted item by item if not.
      split
      · exact .pure whole
      · refine .bind (.mapM ?_) fun after items _ each => .newList each
        exact fun item mem after extended => ih ((whole.item mem).of_extends extended)
    | _ => exact .fail
  | dict keyType valueType ihKey ihValue =>
    cases value with
    | void | untyped => exact zeroOf_ends _
    | dict handle =>
      rw [coerce]
      refine .get ?_
      dsimp only
      split
      · exact .pure whole
      · refine .bind (convertEntries_ends (List.forall_mem_nil _) ?_ ?_)
          fun after entries _ each => .newDict each
        · exact fun entry mem after extended => ihKey ((whole.entry mem).1.of_extends extended)
        · exact fun entry mem after extended => ihValue ((whole.entry mem).2.of_extends extended)
    | _ => exact .fail
  | _ =>
    cases value <;> first
      | exact .plain rfl
      | exact .fail

/-- The text of what is all there. -/
theorem text_ends (whole : store.Whole value) :
    Alloc.Ends (do return .text (← (← get).render value)) store fun after => after.Whole := by
  refine Ends.get (Ends.found ?_ fun _ _ => Ends.plain rfl)
  rw [Store.render_eq whole.acyclic]
  rfl

/-- **A cast of what is all there comes to an end**, and gives what is all there. -/
theorem cast_ends (type : Ty) (whole : store.Whole value) :
    (cast type value).Ends store fun after => after.Whole := by
  induction type generalizing value store with
  | any => exact .pure whole
  | unknown name => exact .fail
  | void => exact .plain rfl
  | int | float | complex =>
    cases value with
    | void | untyped => exact zeroOf_ends _
    | _ => exact .lift fun _ _ => .plain rfl
  | boolean =>
    cases value with
    | void | untyped => exact zeroOf_ends _
    | _ => exact .get (.plain rfl)
  | text =>
    cases value with
    | void | untyped => exact zeroOf_ends _
    | _ => exact text_ends whole
  | list element ih =>
    -- Items, characters and keys are cast in the same way.
    have fill {items : List Value} (each : ∀ item ∈ items, store.Whole item) :
        (items.mapM (cast element) >>= Alloc.newList element).Ends store
          fun after => after.Whole := by
      refine .bind (.mapM ?_) fun after items _ each => .newList each
      exact fun item mem after extended => ih ((each item mem).of_extends extended)
    cases value with
    | void | untyped => exact zeroOf_ends _
    | list handle => exact .get (fill fun item mem => whole.item mem)
    | text s =>
      refine fill fun item mem => ?_
      obtain ⟨c, _, rfl⟩ := List.mem_map.mp mem
      exact store.whole_of_isPlain rfl
    | dict handle =>
      refine .get (fill fun item mem => ?_)
      obtain ⟨entry, found, rfl⟩ := List.mem_map.mp mem
      exact (whole.entry found).1
    | _ => exact .fail
  | dict keyType valueType ihKey ihValue =>
    cases value with
    | void | untyped => exact zeroOf_ends _
    | dict handle =>
      rw [cast]
      -- What is cast is converted once more where it is put into the new dictionary.
      refine .get (.bind (convertEntries_ends (List.forall_mem_nil _) ?_ ?_)
        fun after entries _ each => .newDict each)
      · intro entry mem after extended
        refine .bind (ihKey ((whole.entry mem).1.of_extends extended)) ?_
        exact fun later key _ wholeKey => coerce_ends keyType wholeKey
      · intro entry mem after extended
        refine .bind (ihValue ((whole.entry mem).2.of_extends extended)) ?_
        exact fun later value _ wholeValue => coerce_ends valueType wholeValue
    | _ => exact .fail

end Value

end ReactiveScript
