import ReactiveScript.Proofs.Container.Lookup
import ReactiveScript.Proofs.Store.Conform

/-! # The operations keep the store sound

A conversion gives a value that conforms to the type it converts to, although it keeps a container
whose tags fit as it is. Every other operation puts into a container only what was converted to its
tags or what came out of a container with the same tags. `Operation.yields` says so of all of them.
-/

namespace ReactiveScript

open Alloc

variable {store : Store}

namespace Value

/-! ## Conversions -/

/-- The zero of a type conforms to it. -/
theorem zeroOf_yields (type : Ty) (sound : store.Sound) :
    (zeroOf type).Yields store fun after => after.Admits type := by
  cases type with
  | list element => exact Yields.newList sound (by simp)
  | dict key value => exact Yields.newDict sound (by simp) (by simp)
  | unknown name => exact Yields.fail
  | _ => exact Yields.pure sound ⟨trivial, trivial⟩

/-- A tag that fits is the tag itself or admits anything. -/
theorem tagFits_iff {wanted present : Ty} :
    tagFits wanted present = true ↔ wanted = .any ∨ present = wanted := by
  unfold tagFits Ty.isAny
  rw [Bool.or_eq_true, decide_eq_true_iff, decide_eq_true_iff]
  exact or_congr_right eq_comm

/-- Entries that are converted one after the other are admitted where the conversions give what is
admitted. -/
theorem convertEntries_yields (keyType valueType : Ty)
    {convertKey convertValue : Value → Alloc Value} {entries done : List (Value × Value)}
    (sound : store.Sound)
    (admitted : ∀ entry ∈ done, store.Admits keyType entry.1 ∧ store.Admits valueType entry.2)
    (keys : ∀ entry ∈ entries, ∀ after, store.Grows after → after.Sound →
      (convertKey entry.1).Yields after fun after => after.Admits keyType)
    (values : ∀ entry ∈ entries, ∀ after, store.Grows after → after.Sound →
      (convertValue entry.2).Yields after fun after => after.Admits valueType) :
    (convertEntries convertKey convertValue done entries).Yields store fun after converted =>
      ∀ entry ∈ converted, after.Admits keyType entry.1 ∧ after.Admits valueType entry.2 := by
  induction entries generalizing store done with
  | nil => exact Yields.pure sound admitted
  | cons entry rest ih =>
    refine Yields.bind (keys entry List.mem_cons_self store (.refl store) sound) ?_
    intro middle key grown sound admitsKey
    refine Yields.bind (values entry List.mem_cons_self middle grown sound) ?_
    intro after value further sound admitsValue
    have both := grown.trans further
    -- The conversions of the later entries start from the store that this entry has led to.
    refine Yields.get (Yields.find fun set done => ih sound ?_ ?_ ?_)
    · refine Store.forall_mem_setEntry done (further.admits admitsKey) admitsValue
        fun old mem => ?_
      exact ⟨both.admits (admitted old mem).1, both.admits (admitted old mem).2⟩
    · exact fun old mem later grows =>
        keys old (List.mem_cons_of_mem _ mem) later (both.trans grows)
    · exact fun old mem later grows =>
        values old (List.mem_cons_of_mem _ mem) later (both.trans grows)

/-- **A conversion gives what conforms to its type.** A container whose tags fit is kept, and its
tags are what the type asks for; any other is copied into one with the tags of the type. -/
theorem coerce_yields (type : Ty) {value : Value} (sound : store.Sound) (held : store.Holds value) :
    (coerce type value).Yields store fun after => after.Admits type := by
  induction type generalizing value store with
  | any => exact Yields.pure sound ⟨held, trivial⟩
  | unknown name => exact Yields.fail
  | void => exact Yields.pure sound ⟨trivial, trivial⟩
  | list element ih =>
    cases value with
    | void | untyped => exact zeroOf_yields _ sound
    | list handle =>
      rw [coerce]
      refine Yields.get ?_
      dsimp only
      -- A list whose tag fits is kept, and so stays shared with those who hold it.
      split
      · rename_i fits
        exact Yields.pure sound ⟨held, tagFits_iff.mp fits⟩
      · refine Yields.bind (Yields.mapM element sound ?_) ?_
        · intro item mem after grown sound'
          exact ih sound' (grown.holds (sound.items handle item mem).1)
        · exact fun after items _ sound admitted => Yields.newList sound admitted
    | _ => exact Yields.fail
  | dict keyType valueType ihKey ihValue =>
    cases value with
    | void | untyped => exact zeroOf_yields _ sound
    | dict handle =>
      rw [coerce]
      refine Yields.get ?_
      dsimp only
      split
      · rename_i fits
        rw [Bool.and_eq_true, tagFits_iff, tagFits_iff] at fits
        exact Yields.pure sound ⟨held, fits⟩
      · refine Yields.bind (convertEntries_yields keyType valueType sound (by simp) ?_ ?_) ?_
        · intro entry mem after grown sound'
          exact ihKey sound' (grown.holds (sound.keys handle entry mem).1)
        · intro entry mem after grown sound'
          exact ihValue sound' (grown.holds (sound.values handle entry mem).1)
        · intro after entries _ sound admitted
          exact Yields.newDict sound (fun entry mem => (admitted entry mem).1)
            fun entry mem => (admitted entry mem).2
    | _ => exact Yields.fail
  | _ =>
    cases value <;> first
      | exact Yields.pure sound ⟨trivial, trivial⟩
      | exact Yields.fail

/-- **A cast gives what conforms to its type.** -/
theorem cast_yields (type : Ty) {value : Value} (sound : store.Sound) (held : store.Holds value) :
    (cast type value).Yields store fun after => after.Admits type := by
  induction type generalizing value store with
  | any => exact Yields.pure sound ⟨held, trivial⟩
  | unknown name => exact Yields.fail
  | void => exact Yields.pure sound ⟨trivial, trivial⟩
  | int | float | complex =>
    -- A cast to a number may fail, but what it gives is a number of that kind.
    cases value with
    | void | untyped => exact zeroOf_yields _ sound
    | _ =>
      simp only [cast]
      exact Yields.lift fun _ _ => Yields.pure sound ⟨trivial, trivial⟩
  | boolean =>
    cases value with
    | void | untyped => exact zeroOf_yields _ sound
    | _ =>
      simp only [cast]
      exact Yields.get (Yields.pure sound ⟨trivial, trivial⟩)
  | text =>
    cases value with
    | void | untyped => exact zeroOf_yields _ sound
    | _ =>
      simp only [cast]
      exact Yields.get (Yields.find fun _ _ => Yields.pure sound ⟨trivial, trivial⟩)
  | list element ih =>
    have fill {items : List Value} (h : ∀ item ∈ items, store.Holds item) :
        Yields (do
          let items ← items.mapM (cast element)
          Alloc.newList element items) store fun after => after.Admits (.list element) := by
      refine Yields.bind (Yields.mapM element sound ?_) ?_
      · exact fun item mem after grown sound => ih sound (grown.holds (h item mem))
      · exact fun after items _ sound admitted => Yields.newList sound admitted
    cases value with
    | void | untyped => exact zeroOf_yields _ sound
    | list handle => exact Yields.get (fill fun item mem => (sound.items handle item mem).1)
    | text s =>
      refine fill fun item mem => ?_
      obtain ⟨c, _, rfl⟩ := List.mem_map.mp mem
      trivial
    | dict handle =>
      refine Yields.get (fill fun item mem => ?_)
      obtain ⟨entry, found, rfl⟩ := List.mem_map.mp mem
      exact (sound.keys handle entry found).1
    | _ => exact Yields.fail
  | dict keyType valueType ihKey ihValue =>
    cases value with
    | void | untyped => exact zeroOf_yields _ sound
    | dict handle =>
      rw [cast]
      -- What is cast is converted once more where it is put into the new dictionary.
      refine Yields.get (Yields.bind (convertEntries_yields keyType valueType sound
        (by simp) ?_ ?_) ?_)
      · intro entry mem after grown sound'
        refine Yields.bind (ihKey sound' (grown.holds (sound.keys handle entry mem).1)) ?_
        exact fun later key _ sound admitted => coerce_yields keyType sound admitted.1
      · intro entry mem after grown sound'
        refine Yields.bind (ihValue sound' (grown.holds (sound.values handle entry mem).1)) ?_
        exact fun later key _ sound admitted => coerce_yields valueType sound admitted.1
      · intro after entries _ sound admitted
        exact Yields.newDict sound (fun entry mem => (admitted entry mem).1)
          fun entry mem => (admitted entry mem).2
    | _ => exact Yields.fail

/-! ## Operators -/

/-- A result of arithmetic on integers is no container. -/
theorem isPlain_of_intBinary {op : BinaryOp} {left right : Int64} {result : Value}
    (h : intBinary op left right = .ok result) : result.isPlain = true := by
  unfold intBinary orOverflow at h
  split at h
  · exact isPlain_of_intOr h
  · exact isPlain_of_intOr h
  · exact isPlain_of_intOr h
  · split at h
    · cases h
    · cases h
      rfl
  · split at h
    · cases h
    · exact isPlain_of_intOr h

/-- A result of arithmetic on floating-point numbers is no container. -/
theorem isPlain_of_floatBinary {op : BinaryOp} {left right : Float} {result : Value}
    (h : floatBinary op left right = .ok result) : result.isPlain = true := by
  unfold floatBinary at h
  split at h
  · cases h
    rfl
  · cases h
    rfl
  · cases h
    rfl
  · split at h
    · cases h
    · cases h
      rfl
  · split at h
    · cases h
    · cases h
      rfl

/-- A result of arithmetic is no container. -/
theorem isPlain_of_numeric {op : BinaryOp} {left right result : Value}
    (h : numeric op left right = .ok result) : result.isPlain = true := by
  unfold numeric at h
  split at h
  · cases h
  · exact isPlain_of_intBinary h
  · exact isPlain_of_floatBinary h
  · split at h
    · cases h
      rfl
    · cases h
      rfl
    · cases h
      rfl
    · obtain ⟨quotient, _, h⟩ := exists_of_bind_eq_ok h
      cases h
      rfl
    · cases h

/-- What is left when some items are taken out was there. -/
theorem mem_of_mem_removeEach {items values rest : List Value} {item : Value}
    (done : removeEach store items values = some rest) (mem : item ∈ rest) : item ∈ items := by
  induction values generalizing items with
  | nil =>
    cases done
    exact mem
  | cons value others ih =>
    obtain ⟨removed, taken, done⟩ := Option.bind_eq_some_iff.mp done
    have left : item ∈ removed.getD items := ih done
    cases removed with
    | none => exact left
    | some rest => exact Store.mem_of_removeFirst taken left

/-- What a value adds to a list is held by the store. -/
theorem holds_of_mem_asItems (sound : store.Sound) {value item : Value} (held : store.Holds value)
    (mem : item ∈ value.asItems store) : store.Holds item := by
  unfold asItems at mem
  split at mem
  · exact (sound.items _ item mem).1
  · rw [List.mem_singleton.mp mem]
    exact held

/-- An arithmetic operator gives what the store holds. -/
theorem binary_yields (op : BinaryOp) {left right : Value} (sound : store.Sound)
    (held : store.Holds right) :
    (binary op left right).Yields store fun after => after.Holds := by
  have number {op : BinaryOp} {left right : Value} :
      Yields (liftM (numeric op left right) : Alloc Value) store
        fun after => after.Holds :=
    Yields.outcome sound fun value h => store.holds_of_isPlain (isPlain_of_numeric h)
  unfold binary
  refine Yields.get ?_
  split
  · -- What is added to a list is converted to the tag of the list.
    rename_i handle
    refine Yields.bind (Yields.mapM (store.list handle).element sound ?_) ?_
    · intro item mem after grown sound'
      exact coerce_yields _ sound' (grown.holds (holds_of_mem_asItems sound held mem))
    · intro after added grown sound' admitted
      refine (Yields.newList sound' fun item mem => ?_).mono And.left
      rcases List.mem_append.mp mem with mem | mem
      · exact grown.admits (sound.items handle item mem)
      · exact admitted item mem
  · rename_i handle
    refine Yields.find fun items left => ?_
    refine (Yields.newList sound fun item mem => ?_).mono And.left
    exact sound.items handle item (mem_of_mem_removeEach left mem)
  · split
    · exact Yields.find fun _ _ => Yields.find fun _ _ => Yields.pure sound trivial
    · exact number
  · exact number

end Value

/-! ## Containers -/

namespace Alloc

variable {handle : Handle}

/-- The integers of a range as a list. -/
theorem range_yields (first last step : Int64) (inclusive : Bool) (sound : store.Sound) :
    (Alloc.range first last step inclusive).Yields store fun after => after.Holds := by
  refine Yields.lift fun items found => ?_
  refine (Yields.newList sound fun item mem => ?_).mono And.left
  unfold rangeItems at found
  split at found
  · cases found
  · dsimp only at found
    split at found
    · cases found
    · cases found
      obtain ⟨n, _, rfl⟩ := List.mem_map.mp mem
      exact ⟨trivial, trivial⟩

/-- The element at an index is held by the store. -/
theorem index_yields (target position : Value) (sound : store.Sound) :
    (Alloc.index target position).Yields store fun after => after.Holds := by
  cases target with
  | list handle =>
    refine Yields.get (Yields.lift fun place _ => Yields.pure sound ?_)
    rw [List.getD_eq_getElem?_getD]
    cases found : (store.list handle).items[place]? with
    | none => exact trivial
    | some item => exact (sound.items handle item (List.mem_of_getElem? found)).1
  | dict handle =>
    refine Yields.get (Yields.find fun found done => Yields.pure sound ?_)
    cases found with
    | none => exact trivial
    | some value =>
      obtain ⟨entry, mem, rfl⟩ := Store.mem_of_findEntry done
      exact (sound.values handle entry mem).1
  | text s => exact Yields.lift fun place _ => Yields.pure sound trivial
  | _ => exact Yields.fail

/-- A list that exists, changed but for its tag, to items that the tag admits. -/
theorem modifyList_yields {change : ListCell → ListCell} (sound : store.Sound)
    (held : store.Holds (.list handle)) (tag : ∀ cell, (change cell).element = cell.element)
    (admitted : ∀ item ∈ (change (store.list handle)).items,
      store.Admits (store.list handle).element item) :
    Yields (modify (·.modifyList handle change)) store fun _ _ => True :=
  Yields.change (Store.grows_modifyList held tag) (sound.modifyList held tag admitted)

/-- A dictionary that exists, changed but for its tags, to entries that the tags admit. -/
theorem modifyDict_yields {change : DictCell → DictCell} (sound : store.Sound)
    (held : store.Holds (.dict handle)) (tag : ∀ cell, (change cell).key = cell.key)
    (tag' : ∀ cell, (change cell).value = cell.value)
    (admitted : ∀ entry ∈ (change (store.dict handle)).entries,
      store.Admits (store.dict handle).key entry.1 ∧
        store.Admits (store.dict handle).value entry.2) :
    Yields (modify (·.modifyDict handle change)) store fun _ _ => True :=
  Yields.change (Store.grows_modifyDict held tag tag')
    (sound.modifyDict held tag tag' (fun entry mem => (admitted entry mem).1)
      fun entry mem => (admitted entry mem).2)

/-- An assignment to an item. The item is converted to the tag, which stays what it is. -/
theorem listSet_yields (position : Value) {value : Value} (sound : store.Sound)
    (list : store.Holds (.list handle)) (held : store.Holds value) :
    (listSet handle position value).Yields store fun _ _ => True := by
  refine Yields.get (Yields.bind (Value.coerce_yields _ sound held) ?_)
  intro after stored grown sound admitted
  -- The conversion may have made containers, but the tag it converted to is still that of the list.
  refine Yields.get (Yields.lift fun place _ => ?_)
  refine modifyList_yields sound (grown.holds list) (fun _ => rfl) fun item mem => ?_
  rw [grown.element handle list]
  rcases List.mem_or_eq_of_mem_set mem with mem | rfl
  · rw [← grown.element handle list]
    exact sound.items handle item mem
  · exact admitted

/-- One more item. -/
theorem listPush_yields {value : Value} (sound : store.Sound)
    (list : store.Holds (.list handle)) (held : store.Holds value) :
    (listPush handle value).Yields store fun _ _ => True := by
  refine Yields.get (Yields.bind (Value.coerce_yields _ sound held) ?_)
  intro after stored grown sound admitted
  refine modifyList_yields sound (grown.holds list) (fun _ => rfl) fun item mem => ?_
  rw [grown.element handle list]
  rcases List.mem_append.mp mem with mem | mem
  · rw [← grown.element handle list]
    exact sound.items handle item mem
  · rw [List.mem_singleton.mp mem]
    exact admitted

/-- An assignment to a key. -/
theorem dictSet_yields {key value : Value} (sound : store.Sound)
    (dict : store.Holds (.dict handle)) (heldKey : store.Holds key) (held : store.Holds value) :
    (dictSet handle key value).Yields store fun _ _ => True := by
  refine Yields.get (Yields.bind (Value.coerce_yields _ sound heldKey) ?_)
  intro middle storedKey grown sound admitsKey
  refine Yields.get (Yields.bind (Value.coerce_yields _ sound (grown.holds held)) ?_)
  intro after stored further sound admitsValue
  have both := grown.trans further
  refine Yields.get (Yields.find fun set done => ?_)
  refine modifyDict_yields sound (both.holds dict) (fun _ => rfl) (fun _ => rfl) ?_
  rw [grown.value handle dict] at admitsValue
  rw [both.key handle dict, both.value handle dict]
  refine Store.forall_mem_setEntry done (further.admits admitsKey) admitsValue fun entry mem => ?_
  rw [← both.key handle dict, ← both.value handle dict]
  exact ⟨sound.keys handle entry mem, sound.values handle entry mem⟩

/-- Taking something out of a container gives what the store holds. -/
theorem remove_yields {container : Value} (value : Value) (sound : store.Sound)
    (held : store.Holds container) :
    (Alloc.remove container value).Yields store fun after => after.Holds := by
  cases container with
  | list handle =>
    have removed : (listRemove handle value).Yields store fun _ _ => True := by
      refine Yields.get (Yields.find fun result found => ?_)
      cases result with
      | none => exact Yields.pure sound trivial
      | some items =>
        refine Yields.bind (modifyList_yields sound held (fun _ => rfl) fun item mem => ?_)
          fun _ _ _ sound _ => Yields.pure sound trivial
        exact sound.items handle item (Store.mem_of_removeFirst found mem)
    exact Yields.bind removed fun _ _ _ sound _ => Yields.pure sound trivial
  | dict handle =>
    have removed : (dictRemove handle value).Yields store fun after result =>
        after.Holds (result.getD .void) := by
      refine Yields.get (Yields.find fun result found => ?_)
      cases result with
      | none => exact Yields.pure sound trivial
      | some removed =>
        obtain ⟨old, entries⟩ := removed
        obtain ⟨⟨entry, mem, rfl⟩, kept⟩ := Store.mem_of_removeEntry found
        refine Yields.bind (modifyDict_yields sound held (fun _ => rfl) (fun _ => rfl)
          fun entry mem => ?_) fun _ _ grown sound' _ => Yields.pure sound' ?_
        · have old := kept entry mem
          exact ⟨sound.keys handle entry old, sound.values handle entry old⟩
        · exact grown.holds (sound.values handle entry mem).1
    exact Yields.bind removed fun _ _ _ sound held => Yields.pure sound held
  | _ => exact Yields.fail

/-- A question whether a container holds something changes nothing. -/
theorem contains_yields (container value : Value) (sound : store.Sound) :
    (Alloc.contains container value).Yields store fun _ _ => True := by
  unfold Alloc.contains
  split
  · exact Yields.get (Yields.found sound fun _ _ => trivial)
  · exact Yields.get (Yields.find fun _ _ => Yields.pure sound trivial)
  · exact Yields.pure sound trivial
  · exact Yields.fail
  · exact Yields.fail

/-- Values that are ranked one by one are the same values. -/
theorem map_snd_of_mapM {ρ : Type} {rank : Value → Option (ρ × Value)}
    (keeps : ∀ {item ranked}, rank item = some ranked → ranked.2 = item) :
    ∀ {items : List Value} {ranked : List (ρ × Value)}, items.mapM rank = some ranked →
      ranked.map Prod.snd = items
  | [], ranked, h => by
    cases h
    rfl
  | item :: items, ranked, h => by
    rw [List.mapM_cons] at h
    obtain ⟨first, found, h⟩ := Option.bind_eq_some_iff.mp h
    obtain ⟨rest, others, h⟩ := Option.bind_eq_some_iff.mp h
    cases h
    rw [List.map_cons, keeps found, map_snd_of_mapM keeps others]

/-- What is sorted is what was there. -/
theorem mem_of_sortValues {items sorted : List Value} (h : sortValues items = .ok sorted)
    {item : Value} (mem : item ∈ sorted) : item ∈ items := by
  -- Numbers and texts are ranked differently and sorted in the same way.
  have ranked {ρ : Type} {ranked : List (ρ × Value)} {le : ρ × Value → ρ × Value → Bool}
      (same : ranked.map Prod.snd = items) (mem : item ∈ (ranked.mergeSort le).map Prod.snd) :
      item ∈ items := by
    obtain ⟨pair, found, rfl⟩ := List.mem_map.mp mem
    rw [← same]
    exact List.mem_map.mpr ⟨pair, List.mem_mergeSort.mp found, rfl⟩
  unfold sortValues at h
  split at h
  · rename_i numbers found
    cases h
    refine ranked (map_snd_of_mapM (fun h => ?_) found) mem
    obtain ⟨x, _, rfl⟩ := Option.map_eq_some_iff.mp h
    rfl
  · split at h
    · rename_i texts found
      cases h
      refine ranked (map_snd_of_mapM (fun h => ?_) found) mem
      obtain ⟨x, _, rfl⟩ := Option.map_eq_some_iff.mp h
      rfl
    · cases h

/-- A part of a list has the tag of the list. -/
theorem slice_yields (sequence : Value) (first last : Int64) (sound : store.Sound) :
    (Alloc.slice sequence first last).Yields store fun after => after.Holds := by
  cases sequence with
  | list handle =>
    refine Yields.get ((Yields.newList sound fun item mem => ?_).mono And.left)
    exact sound.items handle item (List.mem_of_mem_take (List.mem_of_mem_drop mem))
  | text s => exact Yields.pure sound trivial
  | _ => exact Yields.fail

/-- Variables as a dictionary. -/
theorem scopeDict_yields {listing : List (String × Value)} (sound : store.Sound)
    (held : ∀ entry ∈ listing, store.Holds entry.2) :
    (Alloc.scopeDict listing).Yields store fun after => after.Holds := by
  refine (Yields.newDict sound ?_ ?_).mono And.left
  · intro entry mem
    obtain ⟨bound, _, rfl⟩ := List.mem_map.mp mem
    exact ⟨trivial, trivial⟩
  · intro entry mem
    obtain ⟨bound, found, rfl⟩ := List.mem_map.mp mem
    exact Store.admits_any (held bound found)

end Alloc

/-! ## Documents -/

mutual

/-- The value of a document is held by the store. -/
theorem Document.toValue_yields : ∀ (document : Document) {store : Store}, store.Sound →
    document.toValue.Yields store fun after => after.Holds
  | .null, _, sound => Yields.pure sound trivial
  | .boolean _, _, sound => Yields.pure sound trivial
  | .integer _, _, sound => Yields.pure sound trivial
  | .float _, _, sound => Yields.pure sound trivial
  | .text _, _, sound => Yields.pure sound trivial
  | .array items, store, sound => by
    rw [Document.toValue]
    refine Yields.bind (Document.toValues_yields items sound) fun after values _ sound held => ?_
    exact (Yields.newList sound fun item mem => Store.admits_any (held item mem)).mono And.left
  | .object members, store, sound => by
    rw [Document.toValue]
    refine Yields.bind (Document.toEntries_yields members sound (List.forall_mem_nil _)) ?_
    intro after entries _ sound held
    refine (Yields.newDict sound ?_ ?_).mono And.left
    · exact fun entry mem => (held entry mem).1
    · exact fun entry mem => Store.admits_any (held entry mem).2

/-- The values of documents are held by the store. -/
theorem Document.toValues_yields : ∀ (documents : List Document) {store : Store}, store.Sound →
    (Document.toValues documents).Yields store fun after values =>
      ∀ value ∈ values, after.Holds value
  | [], store, sound => by
    rw [Document.toValues]
    exact Yields.pure sound (by simp)
  | item :: items, store, sound => by
    rw [Document.toValues]
    refine Yields.bind (Document.toValue_yields item sound) fun middle value _ sound held => ?_
    refine Yields.bind (Document.toValues_yields items sound) fun after values grown sound all => ?_
    exact Yields.pure sound (List.forall_mem_cons.mpr ⟨grown.holds held, all⟩)

/-- The entries of an object have texts as keys. -/
theorem Document.toEntries_yields : ∀ (members : List (String × Document))
    {before : List (Value × Value)} {store : Store}, store.Sound →
    (∀ entry ∈ before, store.Admits .text entry.1 ∧ store.Holds entry.2) →
    (Document.toEntries before members).Yields store fun after entries =>
      ∀ entry ∈ entries, after.Admits .text entry.1 ∧ after.Holds entry.2
  | [], before, store, sound, known => by
    rw [Document.toEntries]
    exact Yields.pure sound known
  | (name, document) :: members, before, store, sound, known => by
    rw [Document.toEntries]
    refine Yields.bind (Document.toValue_yields document sound)
      fun after value grown sound held => ?_
    refine Yields.get (Yields.find fun set done => Document.toEntries_yields members sound ?_)
    refine Store.forall_mem_setEntry done ⟨trivial, trivial⟩ held ?_
    exact fun entry mem => ⟨grown.admits (known entry mem).1, grown.holds (known entry mem).2⟩

end

/-! ## All operations -/

namespace Memory

variable {memory : Memory}

/-- The scopes of a memory. -/
def scopeList (memory : Memory) : List Scope := memory.scopes.locals ++ [memory.scopes.globals]

/-- **A sound memory.** The containers hold what their tags say, and the variables hold what they
were declared to hold. -/
structure Sound (memory : Memory) : Prop where
  /-- The store is sound. -/
  store : memory.store.Sound
  /-- The value of every binding of every scope is admitted by its declared type. -/
  bindings : ∀ scope ∈ memory.scopeList, ∀ entry ∈ scope.entries,
    memory.store.Admits entry.2.declared entry.2.value

/-- The variables of the innermost scope hold what the store has. -/
theorem Sound.holds_currentListing (sound : memory.Sound) :
    ∀ entry ∈ memory.scopes.currentListing, memory.store.Holds entry.2 := by
  intro entry mem
  obtain ⟨bound, found, rfl⟩ := List.mem_map.mp mem
  refine (sound.bindings (memory.scopes.locals.headD memory.scopes.globals) ?_ bound
    (List.mem_mergeSort.mp found)).1
  unfold scopeList
  cases memory.scopes.locals with
  | nil => exact List.mem_singleton.mpr rfl
  | cons innermost outer => exact List.mem_cons_self

/-- The variables of the whole program hold what the store has. -/
theorem Sound.holds_globalListing (sound : memory.Sound) :
    ∀ entry ∈ memory.scopes.globalListing, memory.store.Holds entry.2 := by
  intro entry mem
  obtain ⟨bound, found, rfl⟩ := List.mem_map.mp mem
  refine (sound.bindings memory.scopes.globals ?_ bound (List.mem_mergeSort.mp found)).1
  exact List.mem_append_right _ (List.mem_singleton.mpr rfl)

end Memory

/-- **An operation that adds containers keeps the store sound**, and gives what the store holds,
from operands that the store holds. -/
theorem Making.yields {memory : Memory} {α : Type} {action : Alloc α} {operands : List Value}
    {results : α → List Value} (making : Making memory action operands results)
    (sound : memory.Sound) (held : ∀ value ∈ operands, memory.store.Holds value) :
    action.Yields memory.store fun after result => ∀ value ∈ results result, after.Holds value := by
  have one {action : Alloc Value} (h : action.Yields memory.store fun after => after.Holds) :
      action.Yields memory.store fun after result => ∀ value ∈ [result], after.Holds value :=
    h.mono fun held => List.forall_mem_singleton.mpr held
  have fresh {action : Alloc Value} {type : Ty}
      (h : action.Yields memory.store fun after => after.Admits type) :
      action.Yields memory.store fun after result => ∀ value ∈ [result], after.Holds value :=
    one (h.mono And.left)
  have store := sound.store
  -- Most operations give one value, which a type admits and which is therefore held.
  cases making with
  | zero type => exact fresh (Value.zeroOf_yields type store)
  | convert type value => exact fresh (Value.coerce_yields type store (held value (by simp)))
  | cast type value => exact fresh (Value.cast_yields type store (held value (by simp)))
  | binary op left right => exact one (Value.binary_yields op store (held right (by simp)))
  | range first last step inclusive =>
    exact one (Alloc.range_yields first last step inclusive store)
  | list => exact fresh (Yields.newList store fun item mem => Store.admits_any (held item mem))
  | dict entries =>
    refine fresh (Yields.newDict store ?_ ?_)
    · exact fun entry mem => Store.admits_any
        (held _ (mem_entryValues.mpr ⟨entry, mem, .inl rfl⟩))
    · exact fun entry mem => Store.admits_any
        (held _ (mem_entryValues.mpr ⟨entry, mem, .inr rfl⟩))
  | index target position => exact one (Alloc.index_yields target position store)
  | contains container value =>
    exact (Alloc.contains_yields container value store).mono fun _ => List.forall_mem_nil _
  | keys handle =>
    refine fresh (Yields.newList store fun item mem => ?_)
    obtain ⟨entry, found, rfl⟩ := List.mem_map.mp mem
    exact store.keys handle entry found
  | values handle =>
    refine fresh (Yields.newList store fun item mem => ?_)
    obtain ⟨entry, found, rfl⟩ := List.mem_map.mp mem
    exact store.values handle entry found
  | sort handle sorted =>
    refine fresh (Yields.newList store fun item mem => ?_)
    exact store.items handle item (Alloc.mem_of_sortValues sorted mem)
  | slice sequence first last => exact one (Alloc.slice_yields sequence first last store)
  | localScope => exact one (Alloc.scopeDict_yields store sound.holds_currentListing)
  | globalScope => exact one (Alloc.scopeDict_yields store sound.holds_globalListing)
  | texts texts =>
    refine fresh (Yields.newList store fun item mem => ?_)
    obtain ⟨text, _, rfl⟩ := List.mem_map.mp mem
    exact ⟨trivial, trivial⟩
  | document text =>
    unfold Alloc.ofDocumentText
    split
    · exact one (Document.toValue_yields _ store)
    · exact Yields.fail

/-- **Every operation keeps the store sound**, and gives what the store holds, from operands that
the store holds. -/
theorem Operation.yields {memory : Memory} {α : Type} {action : Alloc α} {operands : List Value}
    {results : α → List Value} (op : Operation memory action operands results)
    (sound : memory.Sound) (held : ∀ value ∈ operands, memory.store.Holds value) :
    action.Yields memory.store fun after result => ∀ value ∈ results result, after.Holds value := by
  have none {β : Type} {action : Alloc β} (h : action.Yields memory.store fun _ _ => True) :
      action.Yields memory.store fun after _ => ∀ value ∈ [], after.Holds value :=
    h.mono fun _ => List.forall_mem_nil _
  have store := sound.store
  cases op with
  | make making => exact making.yields sound held
  | listSet handle position value =>
    exact none (Alloc.listSet_yields position store (held _ (by simp)) (held value (by simp)))
  | dictSet handle key value =>
    exact none (Alloc.dictSet_yields store (held _ (by simp)) (held key (by simp))
      (held value (by simp)))
  | listPush handle value =>
    exact none (Alloc.listPush_yields store (held _ (by simp)) (held value (by simp)))
  | remove container value =>
    exact (Alloc.remove_yields value store (held _ (by simp))).mono
      fun held => List.forall_mem_singleton.mpr held
  | listSubscribe handle name =>
    exact none (Alloc.modifyList_yields store (held _ (by simp)) (fun _ => rfl)
      (store.items handle))
  | dictSubscribe handle name =>
    exact none (Alloc.modifyDict_yields store (held _ (by simp)) (fun _ => rfl) (fun _ => rfl)
      fun entry mem => ⟨store.keys handle entry mem, store.values handle entry mem⟩)

end ReactiveScript
