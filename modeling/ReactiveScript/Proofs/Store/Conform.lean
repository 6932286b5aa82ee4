import ReactiveScript.Proofs.Evaluation.Operation

/-! # Values that conform to types

A container keeps the tags that it was made with, so whether a value conforms to a type depends on
the store only through the containers that it already has: it stays true while the store `Grows`. A
store is `Sound` when its containers hold what their tags say. `Alloc.Yields` is the statement that
an operation on a sound store leads to a sound store that has grown, and the rules for it follow the
ways in which operations are put together. -/

namespace ReactiveScript

namespace Store

/-- Whether a value conforms to a type: anything to the type of anything, scalars and what has no
value to their own type, and containers by their tags, where a parameter that admits anything admits
every tag. Nothing conforms to a name that is no type. -/
def Conforms (store : Store) : Ty → Value → Prop
  | .any, _ => True
  | .int, .int _ => True
  | .float, .float _ => True
  | .complex, .complex .. => True
  | .boolean, .boolean _ => True
  | .text, .text _ => True
  | .void, .void => True
  | .list element, .list handle => element = .any ∨ (store.list handle).element = element
  | .dict key value, .dict handle =>
    (key = .any ∨ (store.dict handle).key = key) ∧
      (value = .any ∨ (store.dict handle).value = value)
  | _, _ => False

/-- Whether a value is no container that the store does not have. -/
def Holds (store : Store) : Value → Prop
  | .list handle => handle < store.lists.size
  | .dict handle => handle < store.dicts.size
  | _ => True

/-- Whether a value may stand in a store where a type is asked for. -/
def Admits (store : Store) (type : Ty) (value : Value) : Prop :=
  store.Holds value ∧ store.Conforms type value

/-- **A sound store.** Every item of a list is admitted by its tag, and every key and every value of
a dictionary by its tags. -/
structure Sound (store : Store) : Prop where
  /-- Items are admitted by the tag of their list. -/
  items : ∀ handle, ∀ item ∈ (store.list handle).items,
    store.Admits (store.list handle).element item
  /-- Keys are admitted by the first tag of their dictionary. -/
  keys : ∀ handle, ∀ entry ∈ (store.dict handle).entries,
    store.Admits (store.dict handle).key entry.1
  /-- Values are admitted by the second tag of their dictionary. -/
  values : ∀ handle, ∀ entry ∈ (store.dict handle).entries,
    store.Admits (store.dict handle).value entry.2

/-- The containers that were there are still there, with the tags that they had. -/
structure Grows (before after : Store) : Prop where
  /-- There are at least as many lists. -/
  lists : before.lists.size ≤ after.lists.size
  /-- There are at least as many dictionaries. -/
  dicts : before.dicts.size ≤ after.dicts.size
  /-- Lists keep their tags. -/
  element : ∀ handle < before.lists.size,
    (after.list handle).element = (before.list handle).element
  /-- Dictionaries keep their first tags. -/
  key : ∀ handle < before.dicts.size, (after.dict handle).key = (before.dict handle).key
  /-- Dictionaries keep their second tags. -/
  value : ∀ handle < before.dicts.size, (after.dict handle).value = (before.dict handle).value

variable {store before middle after : Store} {type : Ty} {value : Value}

namespace Grows

/-- Every store has grown from itself. -/
theorem refl (store : Store) : Grows store store :=
  ⟨Nat.le_refl _, Nat.le_refl _, fun _ _ => rfl, fun _ _ => rfl, fun _ _ => rfl⟩

/-- A store may grow twice. -/
theorem trans (first : Grows before middle) (second : Grows middle after) : Grows before after where
  lists := Nat.le_trans first.lists second.lists
  dicts := Nat.le_trans first.dicts second.dicts
  element handle h := by
    rw [second.element handle (Nat.lt_of_lt_of_le h first.lists), first.element handle h]
  key handle h := by
    rw [second.key handle (Nat.lt_of_lt_of_le h first.dicts), first.key handle h]
  value handle h := by
    rw [second.value handle (Nat.lt_of_lt_of_le h first.dicts), first.value handle h]

/-- A container stays in a store that grows. -/
theorem holds (h : Grows before after) (held : before.Holds value) : after.Holds value := by
  cases value with
  | list handle => exact Nat.lt_of_lt_of_le held h.lists
  | dict handle => exact Nat.lt_of_lt_of_le held h.dicts
  | _ => trivial

/-- **A value stays admitted in a store that grows.** -/
theorem admits (h : Grows before after) (admitted : before.Admits type value) :
    after.Admits type value := by
  refine ⟨h.holds admitted.1, ?_⟩
  obtain ⟨held, conforms⟩ := admitted
  -- Only tags are looked up in the store, and those of old containers stay.
  cases type <;> cases value <;> try exact conforms
  · rename_i element handle
    exact conforms.imp_right fun same => (h.element handle held).trans same
  · rename_i key value handle
    refine conforms.imp ?_ ?_
    · exact Or.imp_right fun same => (h.key handle held).trans same
    · exact Or.imp_right fun same => (h.value handle held).trans same

end Grows

/-- The empty store is sound. -/
theorem sound_empty : Sound .empty where
  items _ item mem := by simp [Store.list, Store.empty] at mem
  keys _ entry mem := by simp [Store.dict, Store.empty] at mem
  values _ entry mem := by simp [Store.dict, Store.empty] at mem

/-- A value that is no container is held by every store. -/
theorem holds_of_isPlain (store : Store) (h : value.isPlain = true) : store.Holds value := by
  cases value with
  | list handle => cases h
  | dict handle => cases h
  | _ => trivial

/-- What a store holds is admitted where anything is. -/
theorem admits_any (held : store.Holds value) : store.Admits .any value := ⟨held, trivial⟩

/-- What a loop goes through is held by the store. -/
theorem Sound.holds_of_mem_itemsIn (sound : store.Sound) {container : Value}
    (mem : value ∈ store.itemsIn container) : store.Holds value := by
  cases container with
  | list handle => exact (sound.items handle value mem).1
  | dict handle =>
    obtain ⟨entry, found, rfl⟩ := List.mem_map.mp mem
    exact (sound.keys handle entry found).1
  | _ => cases mem

/-! ## New and changed containers -/

/-- The lists after one more is put into the store. -/
theorem list_push (store : Store) (cell : ListCell) (handle : Handle) :
    Store.list { store with lists := store.lists.push cell } handle =
      if handle = store.lists.size then cell else store.list handle := by
  simp only [Store.list, Array.getD_eq_getD_getElem?, Array.getElem?_push]
  split <;> rfl

/-- The dictionaries after one more is put into the store. -/
theorem dict_push (store : Store) (cell : DictCell) (handle : Handle) :
    Store.dict { store with dicts := store.dicts.push cell } handle =
      if handle = store.dicts.size then cell else store.dict handle := by
  simp only [Store.dict, Array.getD_eq_getD_getElem?, Array.getElem?_push]
  split <;> rfl

/-- The lists after one is changed. -/
theorem list_modifyList {store : Store} {changed : Handle} (h : changed < store.lists.size)
    (change : ListCell → ListCell) (handle : Handle) :
    (store.modifyList changed change).list handle =
      if handle = changed then change (store.list changed) else store.list handle := by
  simp only [Store.list, Store.modifyList, Array.getD_eq_getD_getElem?, Array.getElem?_modify]
  by_cases same : changed = handle
  · subst same
    simp [h]
  · rw [if_neg same, if_neg (Ne.symm same)]

/-- The dictionaries after one is changed. -/
theorem dict_modifyDict {store : Store} {changed : Handle} (h : changed < store.dicts.size)
    (change : DictCell → DictCell) (handle : Handle) :
    (store.modifyDict changed change).dict handle =
      if handle = changed then change (store.dict changed) else store.dict handle := by
  simp only [Store.dict, Store.modifyDict, Array.getD_eq_getD_getElem?, Array.getElem?_modify]
  by_cases same : changed = handle
  · subst same
    simp [h]
  · rw [if_neg same, if_neg (Ne.symm same)]

/-- Changing a list that was never given out changes nothing. -/
theorem modifyList_of_unknown {handle : Handle} (unknown : ¬ handle < store.lists.size)
    (change : ListCell → ListCell) : store.modifyList handle change = store := by
  simp [modifyList, Array.modify, Array.modifyM, unknown]

/-- Changing a dictionary that was never given out changes nothing. -/
theorem modifyDict_of_unknown {handle : Handle} (unknown : ¬ handle < store.dicts.size)
    (change : DictCell → DictCell) : store.modifyDict handle change = store := by
  simp [modifyDict, Array.modify, Array.modifyM, unknown]

/-- A store grows by a list. -/
theorem grows_pushList (store : Store) (cell : ListCell) :
    store.Grows { store with lists := store.lists.push cell } where
  lists := by simp
  dicts := Nat.le_refl _
  element handle h := by rw [list_push, if_neg (Nat.ne_of_lt h)]
  key _ _ := rfl
  value _ _ := rfl

/-- A store grows by a dictionary. -/
theorem grows_pushDict (store : Store) (cell : DictCell) :
    store.Grows { store with dicts := store.dicts.push cell } where
  lists := Nat.le_refl _
  dicts := by simp
  element _ _ := rfl
  key handle h := by rw [dict_push, if_neg (Nat.ne_of_lt h)]
  value handle h := by rw [dict_push, if_neg (Nat.ne_of_lt h)]

/-- Changing a list but for its tag makes a store grow. -/
theorem grows_modifyList {handle : Handle} (h : handle < store.lists.size)
    {change : ListCell → ListCell} (tag : ∀ cell, (change cell).element = cell.element) :
    store.Grows (store.modifyList handle change) where
  lists := by simp [modifyList]
  dicts := Nat.le_refl _
  element other _ := by
    rw [list_modifyList h]
    split
    · rename_i same
      rw [tag, same]
    · rfl
  key _ _ := rfl
  value _ _ := rfl

/-- Changing a dictionary but for its tags makes a store grow. -/
theorem grows_modifyDict {handle : Handle} (h : handle < store.dicts.size)
    {change : DictCell → DictCell} (tag : ∀ cell, (change cell).key = cell.key)
    (tag' : ∀ cell, (change cell).value = cell.value) :
    store.Grows (store.modifyDict handle change) where
  lists := Nat.le_refl _
  dicts := by simp [modifyDict]
  element _ _ := rfl
  key other _ := by
    rw [dict_modifyDict h]
    split
    · rename_i same
      rw [tag, same]
    · rfl
  value other _ := by
    rw [dict_modifyDict h]
    split
    · rename_i same
      rw [tag', same]
    · rfl

/-- A new list of items that its tag admits keeps a store sound. -/
theorem Sound.pushList (sound : store.Sound) {element : Ty} {items : List Value}
    (admitted : ∀ item ∈ items, store.Admits element item) :
    Sound { store with lists := store.lists.push ⟨element, items, []⟩ } := by
  have grown := store.grows_pushList ⟨element, items, []⟩
  refine ⟨fun handle => ?_, fun handle entry mem => ?_, fun handle entry mem => ?_⟩
  · rw [list_push]
    split
    · exact fun item mem => grown.admits (admitted item mem)
    · exact fun item mem => grown.admits (sound.items handle item mem)
  · exact grown.admits (sound.keys handle entry mem)
  · exact grown.admits (sound.values handle entry mem)

/-- A new dictionary of entries that its tags admit keeps a store sound. -/
theorem Sound.pushDict (sound : store.Sound) {key value : Ty} {entries : List (Value × Value)}
    (keys : ∀ entry ∈ entries, store.Admits key entry.1)
    (values : ∀ entry ∈ entries, store.Admits value entry.2) :
    Sound { store with dicts := store.dicts.push ⟨key, value, entries, []⟩ } := by
  have grown := store.grows_pushDict ⟨key, value, entries, []⟩
  refine ⟨fun handle item mem => ?_, fun handle => ?_, fun handle => ?_⟩
  · exact grown.admits (sound.items handle item mem)
  · rw [dict_push]
    split
    · exact fun entry mem => grown.admits (keys entry mem)
    · exact fun entry mem => grown.admits (sound.keys handle entry mem)
  · rw [dict_push]
    split
    · exact fun entry mem => grown.admits (values entry mem)
    · exact fun entry mem => grown.admits (sound.values handle entry mem)

/-- A changed list whose items its tag admits keeps a store sound. -/
theorem Sound.modifyList (sound : store.Sound) {handle : Handle} (h : handle < store.lists.size)
    {change : ListCell → ListCell} (tag : ∀ cell, (change cell).element = cell.element)
    (admitted : ∀ item ∈ (change (store.list handle)).items,
      store.Admits (store.list handle).element item) :
    Sound (store.modifyList handle change) := by
  have grown := grows_modifyList h tag
  refine ⟨fun other => ?_, fun other entry mem => ?_, fun other entry mem => ?_⟩
  · rw [list_modifyList h]
    split
    · rw [tag]
      exact fun item mem => grown.admits (admitted item mem)
    · exact fun item mem => grown.admits (sound.items other item mem)
  · exact grown.admits (sound.keys other entry mem)
  · exact grown.admits (sound.values other entry mem)

/-- A changed dictionary whose entries its tags admit keeps a store sound. -/
theorem Sound.modifyDict (sound : store.Sound) {handle : Handle} (h : handle < store.dicts.size)
    {change : DictCell → DictCell} (tag : ∀ cell, (change cell).key = cell.key)
    (tag' : ∀ cell, (change cell).value = cell.value)
    (keys : ∀ entry ∈ (change (store.dict handle)).entries,
      store.Admits (store.dict handle).key entry.1)
    (values : ∀ entry ∈ (change (store.dict handle)).entries,
      store.Admits (store.dict handle).value entry.2) :
    Sound (store.modifyDict handle change) := by
  have grown := grows_modifyDict h tag tag'
  refine ⟨fun other item mem => ?_, fun other => ?_, fun other => ?_⟩
  · exact grown.admits (sound.items other item mem)
  · rw [dict_modifyDict h]
    split
    · rw [tag]
      exact fun entry mem => grown.admits (keys entry mem)
    · exact fun entry mem => grown.admits (sound.keys other entry mem)
  · rw [dict_modifyDict h]
    split
    · rw [tag']
      exact fun entry mem => grown.admits (values entry mem)
    · exact fun entry mem => grown.admits (sound.values other entry mem)

end Store

/-! ## Operations on sound stores -/

namespace Alloc

variable {α β : Type} {store : Store}

/-- An operation that leads from a store to a sound one that has grown, and to a result as
promised, if it leads anywhere. -/
def Yields (action : Alloc α) (store : Store) (gives : Store → α → Prop) : Prop :=
  ∀ result after, action.run store = .ok (result, after) →
    store.Grows after ∧ after.Sound ∧ gives after result

namespace Yields

variable {action : Alloc α} {next : α → Alloc β}
variable {gives gives' : Store → α → Prop} {promises : Store → β → Prop}

/-- A result that is given at once. -/
theorem pure (sound : store.Sound) {value : α} (h : gives store value) :
    Yields (Pure.pure value) store gives := by
  intro result after ran
  cases ran
  exact ⟨.refl store, sound, h⟩

/-- An operation that fails. -/
theorem fail {cause : Cause} : Yields (Alloc.fail cause) store gives := by
  intro result after ran
  cases ran

/-- **One operation after the other.** The second starts on the store that the first has led to. -/
theorem bind (first : Yields action store gives)
    (second : ∀ after value, store.Grows after → after.Sound → gives after value →
      Yields (next value) after promises) : Yields (action >>= next) store promises := by
  intro result final ran
  obtain ⟨⟨value, middle⟩, first', rest⟩ := exists_of_bind_eq_ok ran
  obtain ⟨grown, sound, given⟩ := first value middle first'
  obtain ⟨grown', sound', kept⟩ := second middle value grown sound given result final rest
  exact ⟨grown.trans grown', sound', kept⟩

/-- What is promised may be weakened. -/
theorem mono (h : Yields action store gives)
    (weaker : ∀ {after value}, gives after value → gives' after value) :
    Yields action store gives' := by
  intro result after ran
  obtain ⟨grown, sound, given⟩ := h result after ran
  exact ⟨grown, sound, weaker given⟩

/-- An operation that looks at the store first. -/
theorem get {follow : Store → Alloc β} (h : Yields (follow store) store promises) :
    Yields (MonadState.get >>= follow) store promises := h

/-- An operation after an outcome that does not look at the store. -/
theorem lift {outcome : Except Fault α} (h : ∀ value, outcome = .ok value →
      Yields (next value) store promises) :
    Yields ((liftM outcome : Alloc α) >>= next) store promises := by
  intro result after ran
  cases outcome with
  | error fault => cases ran
  | ok value => exact h value rfl result after ran

/-- An operation after something that is found without touching the store. -/
theorem find {found : Option α} (h : ∀ value, found = some value →
      Yields (next value) store promises) :
    Yields ((liftM found : Alloc α) >>= next) store promises := by
  intro result after ran
  cases found with
  | none => cases ran
  | some value => exact h value rfl result after ran

/-- Something that is found without touching the store. -/
theorem found {found : Option α} (sound : store.Sound)
    (h : ∀ value, found = some value → gives store value) :
    Yields (liftM found : Alloc α) store gives := by
  intro result after ran
  cases found with
  | none => cases ran
  | some value =>
    cases ran
    exact ⟨.refl store, sound, h _ rfl⟩

/-- An outcome that does not look at the store. -/
theorem outcome {outcome : Except Fault α} (sound : store.Sound)
    (h : ∀ value, outcome = .ok value → gives store value) :
    Yields (liftM outcome : Alloc α) store gives := by
  intro result after ran
  cases outcome with
  | error fault => cases ran
  | ok value =>
    cases ran
    exact ⟨.refl store, sound, h _ rfl⟩

/-- Operations on each of some values, with results that a type admits. -/
theorem mapM {operation : α → Alloc Value} (type : Ty) {values : List α} (sound : store.Sound)
    (h : ∀ value ∈ values, ∀ after, store.Grows after → after.Sound →
      Yields (operation value) after fun after => after.Admits type) :
    Yields (values.mapM operation) store fun after results =>
      ∀ result ∈ results, after.Admits type result := by
  induction values generalizing store with
  | nil => exact Yields.pure sound (by simp)
  | cons value rest ih =>
    rw [List.mapM_cons]
    refine Yields.bind (h value List.mem_cons_self store (.refl store) sound) ?_
    -- The other operations start from the store that the first has led to.
    intro middle result grown sound given
    refine Yields.bind (ih sound fun other mem after further =>
      h other (List.mem_cons_of_mem _ mem) after (grown.trans further)) ?_
    intro after results further sound all
    exact Yields.pure sound (List.forall_mem_cons.mpr ⟨further.admits given, all⟩)

/-- A change of the store. -/
theorem change {alter : Store → Store} (grown : store.Grows (alter store))
    (sound : (alter store).Sound) : Yields (modify alter) store fun _ _ => True := by
  intro result after ran
  cases ran
  exact ⟨grown, sound, trivial⟩

/-- A new list. -/
theorem newList (sound : store.Sound) {element : Ty} {items : List Value}
    (admitted : ∀ item ∈ items, store.Admits element item) :
    Yields (Alloc.newList element items) store fun after => after.Admits (.list element) := by
  intro result after ran
  cases ran
  refine ⟨store.grows_pushList _, sound.pushList admitted, ?_, .inr ?_⟩
  · change store.lists.size < (store.lists.push _).size
    rw [Array.size_push]
    exact Nat.lt_succ_self _
  · rw [Store.list_push, if_pos rfl]

/-- A new dictionary. -/
theorem newDict (sound : store.Sound) {key value : Ty} {entries : List (Value × Value)}
    (keys : ∀ entry ∈ entries, store.Admits key entry.1)
    (values : ∀ entry ∈ entries, store.Admits value entry.2) :
    Yields (Alloc.newDict key value entries) store fun after =>
      after.Admits (.dict key value) := by
  intro result after ran
  cases ran
  refine ⟨store.grows_pushDict _, sound.pushDict keys values, ?_, .inr ?_, .inr ?_⟩
  · change store.dicts.size < (store.dicts.push _).size
    rw [Array.size_push]
    exact Nat.lt_succ_self _
  · rw [Store.dict_push, if_pos rfl]
  · rw [Store.dict_push, if_pos rfl]

end Yields

end Alloc

end ReactiveScript
