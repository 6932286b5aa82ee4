import ReactiveScript.Proofs.Nesting.Casting
import ReactiveScript.Proofs.Nesting.Cycle
import ReactiveScript.Proofs.Store.Sound

/-! # Stores without cycles

A store is `Acyclic` when no container of it is inside itself. In a sound store that is to say that
everything it holds is all there (`Sound.allWhole`, `AllWhole.acyclic`), and then every operation
that only adds containers comes to an end and adds none that is inside itself (`Making.ends`).
Taking something out of a container closes no cycle either (`Alloc.remove_sheds`); only putting a
value into a container that is there can. -/

namespace ReactiveScript

namespace Store

variable {store before middle after : Store} {value : Value} {handle : Handle}

/-- Whether no container of a store is inside itself. -/
def Acyclic (store : Store) : Prop := ∀ container, ¬ store.Within container container

/-- A container that another one is inside of was given out. -/
theorem holds_of_within {outer inner : Container} (within : store.Within outer inner) :
    store.Holds outer.value := by
  induction within with
  | single contains => exact holds_of_contains contains
  | tail _ _ ih => exact ih

/-- The empty store has no containers, and so none that is inside itself. -/
theorem acyclic_empty : Acyclic .empty := by
  intro container within
  have held := holds_of_within within
  cases container <;> exact Nat.not_lt_zero _ held

/-- In a store without cycles no value has any. -/
theorem Acyclic.isCyclic_view (acyclic : store.Acyclic) (value : Value) :
    (store.view value).isCyclic = false :=
  Apart.acyclic fun _ inner _ _ => acyclic inner

/-- In a store without cycles it is told of all values whether they are the same. -/
theorem Acyclic.isSome_same (acyclic : store.Acyclic) (left right : Value) :
    (store.same left right).isSome = true :=
  Option.isSome_of_mem (same_eq (acyclic.isCyclic_view left) (acyclic.isCyclic_view right))

/-- In a store without cycles every value has a text. -/
theorem Acyclic.isSome_render (acyclic : store.Acyclic) (value : Value) :
    (store.render value).isSome = true :=
  Option.isSome_of_mem (render_eq (acyclic.isCyclic_view value))

/-- **In a store without cycles every comparison comes to an end.** -/
theorem Acyclic.compareValues_ne_exhausted (acyclic : store.Acyclic) (op : CompareOp)
    (left right : Value) : Value.compareValues store op left right ≠ .error .exhausted := by
  have equal : Value.equals store left right ≠ .error .exhausted := by
    unfold Value.equals
    split
    · nofun
    · nofun
    · nofun
    · exact ended_ne_exhausted (acyclic.isSome_same left right)
  have ordered (order : Ordering → Bool) :
      (do return (← Value.orderOf op left right).any order : Except Stop Bool) ≠
        .error .exhausted := by
    cases Value.orderOf op left right <;> nofun
  cases op with
  | equal => exact equal
  | notEqual =>
    unfold Value.compareValues
    cases told : Value.equals store left right with
    | error stop =>
      rintro ⟨⟩
      exact equal told
    | ok _ => nofun
  | less | lessEqual | greater | greaterEqual => exact ordered _

/-- A value of a sound store is all there if it has no container inside itself. -/
theorem Sound.whole_of_acyclic (sound : store.Sound) (held : store.Holds value)
    (acyclic : (store.view value).isCyclic = false) : store.Whole value := by
  induction value, acyclic using acyclic_induction with
  | plain value acyclic plain => exact store.whole_of_isPlain plain
  | list handle acyclic ih =>
    refine (whole_list_iff (view_list acyclic)).mpr ⟨held, List.forall_mem_map.mpr ?_⟩
    intro item mem
    have whole := ih item mem (sound.items handle item mem).1
    exact ⟨whole.acyclic, whole.held⟩
  | dict handle acyclic ih =>
    refine (whole_dict_iff (view_dict acyclic)).mpr ⟨held, List.forall_mem_map.mpr ?_⟩
    intro entry mem
    have key := (ih entry mem).1 (sound.keys handle entry mem).1
    have value := (ih entry mem).2 (sound.values handle entry mem).1
    exact ⟨⟨key.acyclic, key.held⟩, ⟨value.acyclic, value.held⟩⟩

/-- **In a sound store without cycles everything is all there.** -/
theorem Sound.allWhole (sound : store.Sound) (acyclic : store.Acyclic) : store.AllWhole :=
  fun value held => sound.whole_of_acyclic held (acyclic.isCyclic_view value)

/-- **Where everything is all there, there are no cycles.** -/
theorem AllWhole.acyclic (all : store.AllWhole) : store.Acyclic := by
  intro container within
  have read := read_eq (all container.value (holds_of_within within)).acyclic
  rw [read_eq_none within] at read
  cases read

/-! ## Containers that hold less -/

/-- Whether no container holds what it did not hold before. -/
def Sheds (before after : Store) : Prop :=
  ∀ outer inner, after.Contains outer inner → before.Contains outer inner

/-- **Where containers hold no more than before, no cycle is closed.** -/
theorem Sheds.acyclic (sheds : before.Sheds after) (acyclic : before.Acyclic) : after.Acyclic :=
  fun container within => acyclic container (Relation.TransGen.mono sheds _ _ within)

/-- A list that is changed to items that it had. -/
theorem sheds_modifyList {change : ListCell → ListCell}
    (fewer : (change (store.list handle)).items ⊆ (store.list handle).items) :
    store.Sheds (store.modifyList handle change) := by
  intro outer inner contains
  by_cases known : handle < store.lists.size
  · cases outer with
    | list other =>
      rw [Contains, list_modifyList known] at contains
      split at contains
      · rename_i same
        exact same ▸ fewer contains
      · exact contains
    | dict other => exact contains
  · rwa [modifyList_of_unknown known] at contains

/-- A dictionary that is changed to entries that it had. -/
theorem sheds_modifyDict {change : DictCell → DictCell}
    (fewer : (change (store.dict handle)).entries ⊆ (store.dict handle).entries) :
    store.Sheds (store.modifyDict handle change) := by
  intro outer inner contains
  by_cases known : handle < store.dicts.size
  · cases outer with
    | list other => exact contains
    | dict other =>
      rw [Contains, dict_modifyDict known] at contains
      split at contains
      · rename_i same
        obtain ⟨entry, mem, here⟩ := contains
        exact same ▸ ⟨entry, fewer mem, here⟩
      · exact contains
  · rwa [modifyDict_of_unknown known] at contains

/-! ## Searches -/

/-- A key is looked for to the end where the keys can be compared with it. -/
theorem isSome_findEntry {key : Value} {entries : List (Value × Value)}
    (ends : ∀ entry ∈ entries, (store.same entry.1 key).isSome = true) :
    (store.findEntry key entries).isSome = true := by
  rcases misses_or_splits ends with misses | ⟨before, entry, behind, splits⟩
  · rw [misses.findEntry_eq]
    rfl
  · rw [splits.entries, splits.misses.findEntry_append splits.same]
    rfl

/-- A value is taken out where the items can be compared with it. -/
theorem isSome_removeFirst {items : List Value}
    (ends : ∀ item ∈ items, (store.same item value).isSome = true) :
    (store.removeFirst none value items).isSome = true := by
  induction items with
  | nil => rfl
  | cons item items ih =>
    obtain ⟨answered, ends⟩ := List.forall_mem_cons.mp ends
    obtain ⟨answer, compared⟩ := Option.isSome_iff_exists.mp answered
    obtain ⟨rest, removed⟩ := Option.isSome_iff_exists.mp (ih ends)
    rw [Store.same] at compared
    cases answer <;> simp [removeFirst, compared, removed]

/-- Values are taken out one after the other where all can be compared. -/
theorem isSome_removeEach {items values : List Value}
    (ends : ∀ item ∈ items, ∀ value ∈ values, (store.same item value).isSome = true) :
    (Value.removeEach store items values).isSome = true := by
  induction values generalizing items with
  | nil => rfl
  | cons value values ih =>
    have first := isSome_removeFirst fun item mem => ends item mem value List.mem_cons_self
    obtain ⟨removed, taken⟩ := Option.isSome_iff_exists.mp first
    rw [Value.removeEach, taken]
    refine ih fun item mem other mem' => ends item ?_ other (List.mem_cons_of_mem _ mem')
    cases removed with
    | none => exact mem
    | some rest => exact mem_of_removeFirst taken mem

end Store

open Alloc

variable {store : Store}

namespace Value

/-- What a value adds to a list is all there if the value is. -/
theorem whole_of_mem_asItems {value item : Value} (whole : store.Whole value)
    (mem : item ∈ value.asItems store) : store.Whole item := by
  unfold asItems at mem
  split at mem
  · exact whole.item mem
  · rw [List.mem_singleton.mp mem]
    exact whole

/-- An operator on values that are all there comes to an end. -/
theorem binary_ends (op : BinaryOp) {left right : Value} (whole : store.Whole left)
    (whole' : store.Whole right) : (binary op left right).Ends store fun after => after.Whole := by
  have number {op : BinaryOp} {left right : Value} :
      (liftM (numeric op left right) : Alloc Value).Ends store fun after => after.Whole := by
    cases given : numeric op left right with
    | error fault => trivial
    | ok value => exact Ends.plain (isPlain_of_numeric given)
  unfold binary
  refine .get ?_
  split
  · -- A sum of lists: the items on the right are converted, those on the left are kept.
    refine .bind (.mapM fun item mem after extended => ?_) fun after added extended each => ?_
    · exact coerce_ends _ ((whole_of_mem_asItems whole' mem).of_extends extended)
    · refine .newList fun item mem => ?_
      rcases List.mem_append.mp mem with mem | mem
      · exact (whole.item mem).of_extends extended
      · exact each item mem
  · -- A difference: every comparison of an item with one to be taken away comes to an end.
    refine .found (Store.isSome_removeEach fun item mem value mem' => ?_) fun items left => ?_
    · exact Option.isSome_of_mem (Store.same_eq (whole.item mem).acyclic
        (whole_of_mem_asItems whole' mem').acyclic)
    · exact .newList fun item mem => whole.item (mem_of_mem_removeEach left mem)
  · split
    · refine .found ?_ fun _ _ => .found ?_ fun _ _ => .plain rfl
      · rw [Store.render_eq whole.acyclic]
        rfl
      · rw [Store.render_eq whole'.acyclic]
        rfl
    · exact number
  · exact number

end Value

namespace Alloc

/-- The integers of a range are counted to the end. -/
theorem range_ends (first last step : Int64) (inclusive : Bool) :
    (Alloc.range first last step inclusive).Ends store fun after => after.Whole := by
  refine .lift fun items counted => .newList fun item mem => ?_
  unfold rangeItems at counted
  split at counted
  · cases counted
  · dsimp only at counted
    split at counted
    · cases counted
    · cases counted
      obtain ⟨n, -, rfl⟩ := List.mem_map.mp mem
      exact store.whole_of_isPlain rfl

/-- The element at an index of what is all there is found or refused. -/
theorem index_ends {target position : Value} (whole : store.Whole target)
    (whole' : store.Whole position) :
    (Alloc.index target position).Ends store fun after => after.Whole := by
  cases target with
  | list handle =>
    refine .get (.lift fun place _ => .pure ?_)
    rw [List.getD_eq_getElem?_getD]
    cases found : (store.list handle).items[place]? with
    | none => exact store.whole_of_isPlain rfl
    | some item => exact whole.item (List.mem_of_getElem? found)
  | dict handle =>
    refine .get (.found (Store.isSome_findEntry fun entry mem => ?_) fun found done => .pure ?_)
    · exact Option.isSome_of_mem (Store.same_eq (whole.entry mem).1.acyclic whole'.acyclic)
    · cases found with
      | none => exact store.whole_of_isPlain rfl
      | some value =>
        obtain ⟨entry, mem, rfl⟩ := Store.mem_of_findEntry done
        exact (whole.entry mem).2
  | text s => exact .lift fun place _ => .plain rfl
  | _ => exact .fail

/-- Whether what is all there holds a value is told in the end. -/
theorem contains_ends {container value : Value} (whole : store.Whole container)
    (whole' : store.Whole value) : (Alloc.contains container value).Ends store fun _ _ => True := by
  unfold Alloc.contains
  split
  · rename_i handle
    have told : (liftM ((store.list handle).items.anyM (store.same · value)) :
        Alloc Bool).Ends store fun _ _ => True := by
      obtain ⟨answer, found⟩ := Option.isSome_iff_exists.mp
        (isSome_anyM fun item mem => Option.isSome_of_mem
          (Store.same_eq (whole.item mem).acyclic whole'.acyclic))
      rw [found]
      exact .pure trivial
    exact .get told
  · refine .get (.found (Store.isSome_findEntry fun entry mem => ?_) fun _ _ => .pure trivial)
    exact Option.isSome_of_mem (Store.same_eq (whole.entry mem).1.acyclic whole'.acyclic)
  · exact .pure trivial
  · exact .fail
  · exact .fail

/-- A part of what is all there is all there. -/
theorem slice_ends {sequence : Value} (first last : Int64) (whole : store.Whole sequence) :
    (Alloc.slice sequence first last).Ends store fun after => after.Whole := by
  cases sequence with
  | list handle =>
    refine .get (.newList fun item mem => whole.item ?_)
    exact List.mem_of_mem_take (List.mem_of_mem_drop mem)
  | text s => exact .plain rfl
  | _ => exact .fail

/-- Variables whose values are all there as a dictionary. -/
theorem scopeDict_ends {listing : List (String × Value)}
    (each : ∀ entry ∈ listing, store.Whole entry.2) :
    (Alloc.scopeDict listing).Ends store fun after => after.Whole :=
  .newDict (List.forall_mem_map.mpr fun entry mem => ⟨store.whole_of_isPlain rfl, each entry mem⟩)

end Alloc

mutual

/-- The value of a document is made to the end. -/
theorem Document.toValue_ends : ∀ (document : Document) {store : Store},
    document.toValue.Ends store fun after => after.Whole
  | .null, store => .plain rfl
  | .boolean _, store => .plain rfl
  | .integer _, store => .plain rfl
  | .float _, store => .plain rfl
  | .text _, store => .plain rfl
  | .array items, store => by
    rw [Document.toValue]
    exact .bind (Document.toValues_ends items) fun _ _ _ each => .newList each
  | .object members, store => by
    rw [Document.toValue]
    refine .bind (Document.toEntries_ends members (List.forall_mem_nil _)) ?_
    exact fun _ _ _ each => .newDict each

/-- The values of documents are made to the end. -/
theorem Document.toValues_ends : ∀ (documents : List Document) {store : Store},
    (Document.toValues documents).Ends store fun after values => ∀ value ∈ values, after.Whole value
  | [], store => by
    rw [Document.toValues]
    exact .pure (List.forall_mem_nil _)
  | item :: items, store => by
    rw [Document.toValues]
    refine .bind (Document.toValue_ends item) fun middle value _ whole => ?_
    refine .bind (Document.toValues_ends items) fun after values extended each => ?_
    exact .pure (List.forall_mem_cons.mpr ⟨whole.of_extends extended, each⟩)

/-- The entries of an object are set to the end. -/
theorem Document.toEntries_ends : ∀ (members : List (String × Document))
    {before : List (Value × Value)} {store : Store},
    (∀ entry ∈ before, store.Whole entry.1 ∧ store.Whole entry.2) →
    (Document.toEntries before members).Ends store
      fun after entries => ∀ entry ∈ entries, after.Whole entry.1 ∧ after.Whole entry.2
  | [], before, store, each => by
    rw [Document.toEntries]
    exact .pure each
  | (name, document) :: members, before, store, each => by
    rw [Document.toEntries]
    refine .bind (Document.toValue_ends document) fun after value extended whole => .get ?_
    have key : after.Whole (.text name) := after.whole_of_isPlain rfl
    have each' : ∀ entry ∈ before, after.Whole entry.1 ∧ after.Whole entry.2 := fun entry mem =>
      ⟨(each entry mem).1.of_extends extended, (each entry mem).2.of_extends extended⟩
    refine .found
      (Store.isSome_setEntry value key.acyclic fun entry mem => (each' entry mem).1.acyclic) ?_
    exact fun set done => Document.toEntries_ends members
      (Store.forall_mem_setEntry done key whole each')

end

namespace ScopeStack

variable {store : Store} {value : Value}

/-- A declaration of a variable with what is all there comes to an end. -/
theorem declare_ends (scopes : ScopeStack) (name : String) (type : Ty)
    (whole : store.Whole value) :
    (scopes.declare name value type).Ends store fun _ _ => True :=
  Alloc.Ends.bind (Value.coerce_ends type whole) fun _ _ _ _ => .pure trivial

/-- An assignment of what is all there comes to an end. -/
theorem assign_ends (scopes : ScopeStack) (name : String) (whole : store.Whole value) :
    (scopes.assign name value).Ends store fun _ _ => True := by
  unfold assign
  split
  · exact Alloc.Ends.fail
  · dsimp only
    split
    · exact .pure trivial
    · exact .get (.bind (Value.coerce_ends _ whole) fun _ _ _ _ => .pure trivial)

end ScopeStack

/-- **An operation that adds containers comes to an end on a sound memory without cycles**, and adds
none that is inside itself. -/
theorem Making.ends {memory : Memory} {α : Type} {action : Alloc α} {operands : List Value}
    {results : α → List Value} (making : Making memory action operands results)
    (sound : memory.Sound) (all : memory.store.AllWhole)
    (held : ∀ value ∈ operands, memory.store.Holds value) :
    action.Ends memory.store fun _ _ => True := by
  have whole (value : Value) (mem : value ∈ operands) : memory.store.Whole value :=
    all value (held value mem)
  have list (handle : Handle) (mem : .list handle ∈ operands) :
      ∀ item ∈ (memory.store.list handle).items, memory.store.Whole item :=
    fun item mem' => (whole _ mem).item mem'
  have ends {action : Alloc Value} (h : action.Ends memory.store fun after => after.Whole) :
      action.Ends memory.store fun _ _ => True := h.mono fun _ => trivial
  cases making with
  | zero type => exact ends (Value.zeroOf_ends type)
  | convert type value => exact ends (Value.coerce_ends type (whole value (by simp)))
  | cast type value => exact ends (Value.cast_ends type (whole value (by simp)))
  | binary op left right =>
    exact ends (Value.binary_ends op (whole left (by simp)) (whole right (by simp)))
  | range first last step inclusive => exact ends (Alloc.range_ends first last step inclusive)
  | list items => exact ends (.newList whole)
  | dict entries =>
    refine ends (.newDict fun entry mem => ⟨whole _ ?_, whole _ ?_⟩)
    · exact mem_entryValues.mpr ⟨entry, mem, .inl rfl⟩
    · exact mem_entryValues.mpr ⟨entry, mem, .inr rfl⟩
  | index target position =>
    exact ends (Alloc.index_ends (whole target (by simp)) (whole position (by simp)))
  | contains container value =>
    exact Alloc.contains_ends (whole container (by simp)) (whole value (by simp))
  | keys handle =>
    refine ends (.newList (List.forall_mem_map.mpr fun entry mem => ?_))
    exact ((whole (.dict handle) (by simp)).entry mem).1
  | values handle =>
    refine ends (.newList (List.forall_mem_map.mpr fun entry mem => ?_))
    exact ((whole (.dict handle) (by simp)).entry mem).2
  | sort handle sorted =>
    exact ends (.newList fun item mem =>
      list handle (by simp) item (Alloc.mem_of_sortValues sorted mem))
  | slice sequence first last => exact ends (Alloc.slice_ends first last (whole sequence (by simp)))
  | localScope =>
    -- The values of variables are no operands, but they are held and so they are whole.
    exact ends (Alloc.scopeDict_ends fun entry mem => all _ (sound.holds_currentListing entry mem))
  | globalScope =>
    exact ends (Alloc.scopeDict_ends fun entry mem => all _ (sound.holds_globalListing entry mem))
  | texts texts =>
    exact ends (.newList (List.forall_mem_map.mpr fun text _ => memory.store.whole_of_isPlain rfl))
  | document text =>
    unfold Alloc.ofDocumentText
    split
    · exact ends (Document.toValue_ends _)
    · exact .fail

namespace Alloc

/-- **Taking something out of a container closes no cycle.** -/
theorem remove_sheds {container value result : Value} {after : Store}
    (ran : (Alloc.remove container value).run store = .ok (result, after)) : store.Sheds after := by
  have same : store.Sheds store := fun _ _ => id
  cases container with
  | list handle =>
    obtain ⟨⟨told, middle⟩, removed, done⟩ := exists_of_bind_eq_ok ran
    cases done
    obtain ⟨⟨found, middle⟩, searched, removed⟩ := exists_of_bind_eq_ok removed
    obtain ⟨taken, rfl⟩ := lift_eq_ok searched
    cases found with
    | none =>
      cases removed
      exact same
    | some items =>
      cases removed
      exact Store.sheds_modifyList fun item mem => Store.mem_of_removeFirst taken mem
  | dict handle =>
    obtain ⟨⟨told, middle⟩, removed, done⟩ := exists_of_bind_eq_ok ran
    cases done
    obtain ⟨⟨found, middle⟩, searched, removed⟩ := exists_of_bind_eq_ok removed
    obtain ⟨taken, rfl⟩ := lift_eq_ok searched
    cases found with
    | none =>
      cases removed
      exact same
    | some entry =>
      cases removed
      exact Store.sheds_modifyDict fun other mem => (Store.mem_of_removeEntry taken).2 other mem
  | _ => cases ran

end Alloc

end ReactiveScript
