import ReactiveScript.Proofs.Conversion.Restriction

/-! # Conversions that only widen numbers

A conversion to a type may lose what a value was: what has no value becomes a zero, a value becomes
nothing where nothing is asked for, and keys that become alike are merged. Where it does none of
that it only `Widens` numbers, and then whatever has the type compares to the result as it compares
to the value (`Fits.like_convert`). In a sound store, what conforms to a type has it all the way
down (`Store.Sound.fits`), and it compares alike to the value and to the result of the conversion
also while a container is shut, where comparing need not come to an end
(`Store.Sound.sameBeside_convert`). -/

namespace ReactiveScript

namespace Datum

/-- Whether a tree is of a type all the way down: numbers of the kind that is asked for, and
containers that hold what is. -/
def Fits : Ty → Datum → Prop
  | .any, _ => True
  | .int, .int _ => True
  | .float, .float _ => True
  | .complex, .complex .. => True
  | .boolean, .boolean _ => True
  | .text, .text _ => True
  | .void, .void => True
  | .list element, .list _ _ items => ∀ item ∈ items, Fits element item
  | .dict key value, .dict _ _ _ entries =>
    ∀ entry ∈ entries, Fits key entry.1 ∧ Fits value entry.2
  | _, _ => False

/-- Whether a conversion to a type does no more to a tree than to widen numbers: nothing takes the
place of what has no value, only what has no value becomes nothing, and different keys of a
dictionary stay different. -/
def Widens : Ty → Datum → Prop
  | .any, _ => True
  | .void, tree => tree = .void
  | .list element, .list _ _ items => ∀ item ∈ items, Widens element item
  | .dict key value, .dict _ _ _ entries =>
    (∀ entry ∈ entries, Widens key entry.1 ∧ Widens value entry.2) ∧
      entries.Pairwise fun entry other => ∀ one ∈ convert key entry.1,
        ∀ two ∈ convert key other.1, one.like two = false
  | _, tree => tree ≠ .void ∧ tree ≠ .untyped

variable {type : Ty} {tree other result : Datum}

/-- Trees that are alike to what items become are alike to the items, if each is. -/
theorem likeItems_convert {convert : Datum → Option Datum} {others items results : List Datum}
    (converted : List.Forall₂ (fun item result => convert item = some result) items results)
    (each : ∀ other ∈ others, ∀ item ∈ items, ∀ result, convert item = some result →
      other.like result = other.like item) :
    likeItems others results = likeItems others items := by
  induction converted generalizing others with
  | nil => rfl
  | cons first _ ih =>
    cases others with
    | nil => rfl
    | cons other others =>
      rw [likeItems, likeItems,
        each other List.mem_cons_self _ List.mem_cons_self _ first, ih]
      exact fun other mem item mem' =>
        each other (List.mem_cons_of_mem _ mem) item (List.mem_cons_of_mem _ mem')

/-- What an entry becomes. -/
def ConvertsEntry (convertKey convertValue : Datum → Option Datum) (entry result : Datum × Datum) :
    Prop :=
  convertKey entry.1 = some result.1 ∧ convertValue entry.2 = some result.2

/-- Entries whose keys stay different are converted one by one. -/
theorem convertEntries_apart {convertKey convertValue : Datum → Option Datum}
    {done entries results : List (Datum × Datum)}
    (apart : entries.Pairwise fun entry other => ∀ one ∈ convertKey entry.1,
      ∀ two ∈ convertKey other.1, one.like two = false)
    (new : ∀ entry ∈ entries, ∀ key ∈ convertKey entry.1, ∀ other ∈ done,
      other.1.like key = false)
    (h : convertEntries convertKey convertValue done entries = some results) :
    ∃ added, results = done ++ added ∧
      List.Forall₂ (ConvertsEntry convertKey convertValue) entries added := by
  induction entries generalizing done with
  | nil =>
    cases h
    exact ⟨[], by simp, .nil⟩
  | cons entry entries ih =>
    obtain ⟨alone, apart⟩ := List.pairwise_cons.mp apart
    obtain ⟨newFirst, new⟩ := List.forall_mem_cons.mp new
    obtain ⟨key, convertedKey, h⟩ := Option.bind_eq_some_iff.mp h
    obtain ⟨value, convertedValue, h⟩ := Option.bind_eq_some_iff.mp h
    rw [setEntry_of_new (newFirst key convertedKey)] at h
    obtain ⟨added, rfl, converted⟩ := ih apart (fun later mem key' found other mem' => by
      rcases List.mem_append.mp mem' with mem' | mem'
      · exact new later mem key' found other mem'
      · cases List.mem_singleton.mp mem'
        exact alone later mem key convertedKey key' found) h
    exact ⟨(key, value) :: added, by simp, .cons ⟨convertedKey, convertedValue⟩ converted⟩

/-- An entry is like one of those that entries become when it is like one of the entries, if being
like each is the same. -/
theorem exists_likeEntry_convert {convertKey convertValue : Datum → Option Datum}
    {entry : Datum × Datum} {others results : List (Datum × Datum)}
    (converted : List.Forall₂ (ConvertsEntry convertKey convertValue) others results)
    (each : ∀ other ∈ others, ∀ result, ConvertsEntry convertKey convertValue other result →
      (LikeEntry entry result ↔ LikeEntry entry other)) :
    (∃ result ∈ results, LikeEntry entry result) ↔ ∃ other ∈ others, LikeEntry entry other := by
  induction converted with
  | nil => simp
  | cons first _ ih =>
    obtain ⟨head, rest⟩ := List.forall_mem_cons.mp each
    simp only [List.exists_mem_cons_iff, head _ first, ih rest]

/-- **What is of a type does not tell a tree from what it is widened to.** -/
theorem Fits.like_convert (fits : Fits type other) (widens : Widens type tree)
    (h : convert type tree = some result) : other.like result = other.like tree := by
  induction type generalizing tree other result with
  | any =>
    cases h
    rfl
  | list element ih =>
    cases other with
    | list handle tag others =>
      cases tree with
      | list handle' tag' items =>
        obtain ⟨results, converted, rfl⟩ := Option.map_eq_some_iff.mp h
        refine likeItems_convert (mapM_eq_some_iff.mp converted) fun other mem item mem' _ => ?_
        exact ih (fits other mem) (widens item mem')
      | void => exact absurd rfl widens.1
      | untyped => exact absurd rfl widens.2
      | _ => cases h
    | _ => cases fits
  | dict key value keys values =>
    cases other with
    | dict handle tag tag' others =>
      cases tree with
      | dict handle' keyTag valueTag entries =>
        obtain ⟨results, converted, rfl⟩ := Option.map_eq_some_iff.mp h
        obtain ⟨added, rfl, converted⟩ := convertEntries_apart widens.2 (by simp) converted
        rw [like, like, ← converted.length_eq]
        congr 1
        rw [Bool.eq_iff_iff, likeCovered_iff, likeCovered_iff]
        refine forall₂_congr fun other mem => exists_likeEntry_convert converted ?_
        intro entry mem' result found
        rw [LikeEntry, LikeEntry, keys (fits other mem).1 (widens.1 entry mem').1 found.1,
          values (fits other mem).2 (widens.1 entry mem').2 found.2]
      | void => exact absurd rfl widens.1
      | untyped => exact absurd rfl widens.2
      | _ => cases h
    | _ => cases fits
  | unknown name => cases h
  | void =>
    cases widens
    cases h
    rfl
  | _ =>
    cases other <;> first
      | exact False.elim fits
      | (cases tree <;> first
          | exact absurd rfl widens.1
          | exact absurd rfl widens.2
          | (cases h; rfl)
          | cases h)

/-! ## What a conversion does to containers -/

variable {handle : Handle} {tag tag' : Ty}

/-- A list that is widened is one whose items are. -/
theorem Widens.convert_list {items : List Datum} (widens : Widens type (.list handle tag items))
    (h : convert type (.list handle tag items) = some result) :
    ∃ element other tag' results, result = .list other tag' results ∧
      (type = .any ∧ element = .any ∨ type = .list element) ∧
      (∀ item ∈ items, Widens element item) ∧
      List.Forall₂ (fun item result => convert element item = some result) items results := by
  cases type with
  | any =>
    cases h
    exact ⟨.any, handle, tag, items, rfl, .inl ⟨rfl, rfl⟩, fun _ _ => trivial,
      List.forall₂_same.mpr fun _ _ => rfl⟩
  | list element =>
    obtain ⟨results, converted, rfl⟩ := Option.map_eq_some_iff.mp h
    exact ⟨element, 0, .any, results, rfl, .inr rfl, widens, mapM_eq_some_iff.mp converted⟩
  | void => cases widens
  | _ => cases h

/-- A dictionary that is widened is one whose keys and values are. -/
theorem Widens.convert_dict {entries : List (Datum × Datum)}
    (widens : Widens type (.dict handle tag tag' entries))
    (h : convert type (.dict handle tag tag' entries) = some result) :
    ∃ key value other keyTag valueTag results, result = .dict other keyTag valueTag results ∧
      (type = .any ∧ key = .any ∧ value = .any ∨ type = .dict key value) ∧
      (∀ entry ∈ entries, Widens key entry.1 ∧ Widens value entry.2) ∧
      List.Forall₂ (ConvertsEntry (convert key) (convert value)) entries results := by
  cases type with
  | any =>
    cases h
    exact ⟨.any, .any, handle, tag, tag', entries, rfl, .inl ⟨rfl, rfl, rfl⟩,
      fun _ _ => ⟨trivial, trivial⟩, List.forall₂_same.mpr fun _ _ => ⟨rfl, rfl⟩⟩
  | dict key value =>
    obtain ⟨results, converted, rfl⟩ := Option.map_eq_some_iff.mp h
    obtain ⟨added, rfl, lined⟩ := convertEntries_apart widens.2 (by simp) converted
    exact ⟨key, value, 0, .any, .any, _, rfl, .inr rfl, widens.1, lined⟩
  | void => cases widens
  | _ => cases h

/-- What is no container is widened to no container. -/
theorem Widens.convert_plain (widens : Widens type tree) (plain : tree.container? = none)
    (h : convert type tree = some result) : result.container? = none := by
  cases type with
  | any =>
    cases h
    exact plain
  | void =>
    cases h
    rfl
  | _ =>
    cases tree <;> cases plain <;> first
      | exact absurd rfl widens.1
      | exact absurd rfl widens.2
      | (cases h; rfl)
      | cases h

end Datum

section Beside

variable {α β γ : Type} {values : List α} {others : List β} {others' : List γ}
  {beside : β → γ → Prop}

/-- Answers about pairs are the same where those about each pair are. -/
theorem allM_zip_congr {f : α → β → Option Bool} {g : α → γ → Option Bool}
    (lined : List.Forall₂ beside others others')
    (each : ∀ value ∈ values, ∀ other ∈ others, ∀ other' ∈ others', beside other other' →
      f value other = g value other') :
    (values.zip others).allM (fun pair => f pair.1 pair.2) =
      (values.zip others').allM fun pair => g pair.1 pair.2 := by
  induction lined generalizing values with
  | nil => simp
  | cons first _ ih =>
    cases values with
    | nil => rfl
    | cons value values =>
      rw [List.zip_cons_cons, List.zip_cons_cons, List.allM, List.allM,
        each value List.mem_cons_self _ List.mem_cons_self _ List.mem_cons_self first,
        ih fun value mem other mem' other' mem'' => each value (List.mem_cons_of_mem _ mem)
          other (List.mem_cons_of_mem _ mem') other' (List.mem_cons_of_mem _ mem'')]

/-- Whether some answer is yes is the same where the answers are. -/
theorem anyM_forall₂_congr {f : β → Option Bool} {g : γ → Option Bool}
    (lined : List.Forall₂ beside others others')
    (each : ∀ other ∈ others, ∀ other' ∈ others', beside other other' → f other = g other') :
    others.anyM f = others'.anyM g := by
  induction lined with
  | nil => rfl
  | cons first _ ih =>
    rw [List.anyM, List.anyM, each _ List.mem_cons_self _ List.mem_cons_self first,
      ih fun other mem other' mem' =>
        each other (List.mem_cons_of_mem _ mem) other' (List.mem_cons_of_mem _ mem')]

end Beside

namespace Store

variable {store : Store} {shut : Option Container} {type : Ty} {value left key stored : Value}

/-- What is read from a sound store is held by it, with containers that hold what their tags say. -/
theorem Sound.parts (sound : store.Sound) {tree : Datum} (read : tree.ReadFrom store)
    (held : store.Holds tree.value) :
    ∀ part ∈ tree.parts, store.Holds part.value ∧ part.Tagged store := by
  induction tree with
  | list handle element items ih =>
    obtain ⟨-, rfl, same⟩ := Datum.list.inj read.list_eq
    have admitted : ∀ item ∈ items, store.Admits (store.list handle).element item.value := by
      rw [same]
      exact List.forall_mem_map.mpr fun item mem => by simpa using sound.items handle item mem
    refine Datum.forall_parts_list.mpr ⟨⟨held, fun item mem => (admitted item mem).2⟩, ?_⟩
    exact fun item mem => ih item mem (read.item mem) (admitted item mem).1
  | dict handle key value entries keys values =>
    obtain ⟨-, rfl, rfl, same⟩ := Datum.dict.inj read.dict_eq
    have admitted : ∀ entry ∈ entries,
        store.Admits (store.dict handle).key entry.1.value ∧
          store.Admits (store.dict handle).value entry.2.value := by
      rw [same]
      exact List.forall_mem_map.mpr fun entry mem => by
        simpa using ⟨sound.keys handle entry mem, sound.values handle entry mem⟩
    refine Datum.forall_parts_dict.mpr ⟨⟨held, fun entry mem =>
      ⟨(admitted entry mem).1.2, (admitted entry mem).2.2⟩⟩, ?_, ?_⟩
    · exact fun entry mem => keys entry mem (read.entry mem).1 (admitted entry mem).1.1
    · exact fun entry mem => values entry mem (read.entry mem).2 (admitted entry mem).2.1
  | cycle container => cases read.acyclic
  | _ =>
    intro part mem
    cases List.mem_singleton.mp mem
    exact ⟨held, trivial⟩

/-- **A value of a sound store is all there**, if no container stands inside itself. -/
theorem Sound.whole (sound : store.Sound) (held : store.Holds value)
    (acyclic : (store.view value).isCyclic = false) : store.Whole value :=
  ⟨acyclic, fun part mem => (sound.parts (.of_view acyclic) (by simpa using held) part mem).1⟩

/-- **A value of a sound store that can be compared is well formed**, with keys that compare as
their contents do. -/
theorem Sound.tidy (sound : store.Sound) (held : store.Holds value)
    (comparable : store.Comparable value) : store.Tidy value where
  toWhole := sound.whole held comparable.acyclic
  tags part mem := (sound.parts (.of_view comparable.acyclic) (by simpa using held) part mem).2
  keys := comparable.keys
  steady part mem key found := .inr fun inner inside => comparable.numbers inner
    (Datum.mem_parts_trans mem (Datum.mem_parts_trans (Datum.mem_parts_of_mem_keys found) inside))

/-- **What conforms to a type has it all the way down** in a sound store. -/
theorem Sound.fits (sound : store.Sound) (whole : store.Whole value)
    (conforms : store.Conforms type value) : Datum.Fits type (store.contents value) := by
  induction type generalizing value with
  | any => trivial
  | list element ih =>
    cases value with
    | list handle =>
      rw [whole.contents_list]
      refine List.forall_mem_map.mpr fun item mem => ?_
      obtain rfl | same := conforms
      · trivial
      · exact ih (whole.item mem) (same ▸ (sound.items handle item mem).2)
    | _ => cases conforms
  | dict keyType valueType keys values =>
    cases value with
    | dict handle =>
      rw [whole.contents_dict]
      refine List.forall_mem_map.mpr fun entry mem => ⟨?_, ?_⟩
      · obtain rfl | same := conforms.1
        · trivial
        · exact keys (whole.entry mem).1 (same ▸ (sound.keys handle entry mem).2)
      · obtain rfl | same := conforms.2
        · trivial
        · exact values (whole.entry mem).2 (same ▸ (sound.values handle entry mem).2)
    | _ => cases conforms
  | _ => cases value <;> trivial

/-- What has no container inside itself is read as a list only if it is one. -/
theorem Whole.eq_list {handle : Handle} {tag : Ty} {items : List Datum} (whole : store.Whole value)
    (shows : store.contents value = .list handle tag items) :
    ∃ one, value = .list one ∧ items = (store.list one).items.map store.contents := by
  cases value with
  | list one =>
    rw [whole.contents_list] at shows
    cases shows
    exact ⟨one, rfl, rfl⟩
  | dict one =>
    rw [whole.contents_dict] at shows
    cases shows
  | _ => cases shows

/-- What has no container inside itself is read as a dictionary only if it is one. -/
theorem Whole.eq_dict {handle : Handle} {tag tag' : Ty} {entries : List (Datum × Datum)}
    (whole : store.Whole value) (shows : store.contents value = .dict handle tag tag' entries) :
    ∃ one, value = .dict one ∧ entries = (store.dict one).entries.map store.entryContents := by
  cases value with
  | list one =>
    rw [whole.contents_list] at shows
    cases shows
  | dict one =>
    rw [whole.contents_dict] at shows
    cases shows
    exact ⟨one, rfl, rfl⟩
  | _ => cases shows

/-- No container is inside what is none. -/
theorem clear_of_isPlain (store : Store) (shut : Option Container) (plain : value.isPlain = true) :
    store.Clear shut value := by
  intro part mem container _ same
  cases value with
  | list handle => cases plain
  | dict handle => cases plain
  | _ =>
    cases List.mem_singleton.mp mem
    cases container <;> cases same

/-- **A value that can be taken as a key that is widened**: all there, with nothing that is no
number inside, and without the container that is shut. -/
structure Settled (store : Store) (shut : Option Container) (value : Value) : Prop
    extends store.Whole value where
  /-- Nothing is no number. -/
  numbers : ∀ part ∈ (store.contents value).parts, part.isNaN = false
  /-- The container that is shut is not inside. -/
  clear : store.Clear shut value

/-- The items of a list that is settled are settled. -/
theorem Settled.item {handle : Handle} (settled : store.Settled shut (.list handle)) {item : Value}
    (mem : item ∈ (store.list handle).items) : store.Settled shut item := by
  have numbers := settled.numbers
  rw [settled.contents_list] at numbers
  exact ⟨settled.toWhole.item mem,
    (Datum.forall_parts_list.mp numbers).2 _ (List.mem_map_of_mem mem),
    settled.clear.item settled.acyclic mem⟩

/-- The keys and values of a dictionary that is settled are settled. -/
theorem Settled.entry {handle : Handle} (settled : store.Settled shut (.dict handle))
    {entry : Value × Value} (mem : entry ∈ (store.dict handle).entries) :
    store.Settled shut entry.1 ∧ store.Settled shut entry.2 := by
  have numbers := settled.numbers
  rw [settled.contents_dict] at numbers
  obtain ⟨-, keys, values⟩ := Datum.forall_parts_dict.mp numbers
  have inside := List.mem_map_of_mem (f := store.entryContents) mem
  obtain ⟨key, value⟩ := settled.toWhole.entry mem
  obtain ⟨clearKey, clearValue⟩ := settled.clear.entry settled.acyclic mem
  exact ⟨⟨key, keys _ inside, clearKey⟩, ⟨value, values _ inside, clearValue⟩⟩

/-- A settled value is compared by its contents with what is all there and does not have the
container inside either. -/
theorem Settled.sameBeside_eq (settled : store.Settled shut value) (whole : store.Whole left)
    (clear : store.Clear shut left) :
    store.sameBeside shut left value =
      some ((store.contents left).like (store.contents value)) := by
  rw [Store.sameBeside_eq whole.acyclic settled.acyclic clear settled.clear, contents, contents,
    Datum.like_bare, Datum.same_eq_like (.of_view whole.acyclic) (.of_view settled.acyclic)
      (.inr (Datum.numbers_bare_iff.mp settled.numbers))]

/-- The items of a list that is of a type conform to what the type asks of them. -/
theorem Sound.conforms_item (sound : store.Sound) {handle : Handle} {element : Ty}
    (conforms : store.Conforms type (.list handle))
    (asked : type = .any ∧ element = .any ∨ type = .list element) :
    ∀ item ∈ (store.list handle).items, store.Holds item ∧ store.Conforms element item := by
  intro item mem
  obtain ⟨held, admitted⟩ := sound.items handle item mem
  refine ⟨held, ?_⟩
  rcases asked with ⟨-, rfl⟩ | rfl
  · trivial
  · obtain rfl | same := conforms
    · trivial
    · exact same ▸ admitted

/-- The keys and values of a dictionary that is of a type conform to what the type asks of them. -/
theorem Sound.conforms_entry (sound : store.Sound) {handle : Handle} {keyType valueType : Ty}
    (conforms : store.Conforms type (.dict handle))
    (asked : type = .any ∧ keyType = .any ∧ valueType = .any ∨ type = .dict keyType valueType) :
    ∀ entry ∈ (store.dict handle).entries,
      (store.Holds entry.1 ∧ store.Conforms keyType entry.1) ∧
        store.Holds entry.2 ∧ store.Conforms valueType entry.2 := by
  intro entry mem
  obtain ⟨heldKey, key⟩ := sound.keys handle entry mem
  obtain ⟨heldValue, value⟩ := sound.values handle entry mem
  rcases asked with ⟨-, rfl, rfl⟩ | rfl
  · exact ⟨⟨heldKey, trivial⟩, heldValue, trivial⟩
  · refine ⟨⟨heldKey, ?_⟩, heldValue, ?_⟩
    · obtain rfl | same := conforms.1
      · trivial
      · exact same ▸ key
    · obtain rfl | same := conforms.2
      · trivial
      · exact same ▸ value

section Congruence

variable {one handle handle' : Handle}

/-- A list compares alike to two others whose items it compares alike to. -/
theorem sameBeside_list_congr {beside : Value → Value → Prop} (differ : one ≠ handle)
    (differ' : one ≠ handle') (clear : store.Clear shut (.list handle))
    (clear' : store.Clear shut (.list handle'))
    (lined : List.Forall₂ beside (store.list handle).items (store.list handle').items)
    (each : ∀ value ∈ (store.list one).items, ∀ item ∈ (store.list handle).items,
      ∀ item' ∈ (store.list handle').items, beside item item' →
        store.sameBeside shut value item' = store.sameBeside shut value item) :
    store.sameBeside shut (.list one) (.list handle') =
      store.sameBeside shut (.list one) (.list handle) := by
  have open' : shut ≠ some (.list handle) := Clear.ne clear
  have open'' : shut ≠ some (.list handle') := Clear.ne clear'
  have items := allM_zip_congr (f := store.sameBeside shut) (g := store.sameBeside shut) lined
    fun value mem item mem' item' mem'' converts =>
      (each value mem item mem' item' mem'' converts).symm
  rw [sameBeside_list, sameBeside_list, if_neg differ, if_neg differ', lined.length_eq, items]
  simp only [open', open'', or_false]

/-- A dictionary compares alike to two others whose keys and values its own compare alike to. -/
theorem sameBeside_dict_congr {beside : Value × Value → Value × Value → Prop}
    (differ : one ≠ handle) (differ' : one ≠ handle') (clear : store.Clear shut (.dict handle))
    (clear' : store.Clear shut (.dict handle'))
    (lined : List.Forall₂ beside (store.dict handle).entries (store.dict handle').entries)
    (each : ∀ value ∈ (store.dict one).entries, ∀ entry ∈ (store.dict handle).entries,
      ∀ entry' ∈ (store.dict handle').entries, beside entry entry' →
        store.sameBeside shut value.1 entry'.1 = store.sameBeside shut value.1 entry.1 ∧
          store.sameBeside shut value.2 entry'.2 = store.sameBeside shut value.2 entry.2) :
    store.sameBeside shut (.dict one) (.dict handle') =
      store.sameBeside shut (.dict one) (.dict handle) := by
  have open' : shut ≠ some (.dict handle) := Clear.ne clear
  have open'' : shut ≠ some (.dict handle') := Clear.ne clear'
  have entries := allM_congr fun value mem =>
    anyM_forall₂_congr (f := sameEntry (store.sameBeside shut) value)
      (g := sameEntry (store.sameBeside shut) value) lined
      fun entry mem' entry' mem'' converts => by
        obtain ⟨key, value⟩ := each value mem entry mem' entry' mem'' converts
        rw [sameEntry, sameEntry, key, value]
  rw [sameBeside_dict, sameBeside_dict, if_neg differ, if_neg differ', lined.length_eq, entries]
  simp only [open', open'', or_false]

end Congruence

/-- **What conforms to a type does not tell a key from what the key is widened to**, also while a
container is shut: where the one comparison goes on for ever, so does the other. By induction on how
deep the key is. -/
theorem Sound.sameBeside_convert (sound : store.Sound) (held : store.Holds left)
    (conforms : store.Conforms type left) (settled : store.Settled shut key)
    (widens : Datum.Widens type (store.contents key)) (settled' : store.Settled shut stored)
    (converted : Datum.convert type (store.contents key) = some (store.contents stored)) :
    store.sameBeside shut left stored = store.sameBeside shut left key := by
  obtain ⟨depth, deep⟩ : ∃ depth, (store.view key).nesting < depth := ⟨_, Nat.lt_succ_self _⟩
  induction depth generalizing type left key stored with
  | zero => cases deep
  | succ depth ih =>
    by_cases tame : store.Whole left ∧ store.Clear shut left
    · -- Both comparisons come to an end, and tell whether the contents are alike.
      obtain ⟨whole, clear⟩ := tame
      rw [settled.sameBeside_eq whole clear, settled'.sameBeside_eq whole clear,
        (sound.fits whole conforms).like_convert widens converted]
    -- Otherwise the value is neither the key nor what the key is widened to.
    have other {value : Value} (settled : store.Settled shut value) : left ≠ value := by
      rintro rfl
      exact tame ⟨settled.toWhole, settled.clear⟩
    cases key with
    | list handle =>
      rw [settled.contents_list] at widens converted
      obtain ⟨element, _, _, _, shows, asked, widened, lined⟩ := widens.convert_list converted
      obtain ⟨handle', rfl, rfl⟩ := settled'.eq_list shows
      rw [List.forall₂_map_left_iff, List.forall₂_map_right_iff] at lined
      cases left with
      | list one =>
        refine sameBeside_list_congr (fun same => other settled (congrArg _ same))
          (fun same => other settled' (congrArg _ same)) settled.clear settled'.clear lined ?_
        intro value mem item mem' item' mem'' converts
        obtain ⟨held, conforms⟩ := sound.conforms_item conforms asked value mem
        have := (view_item settled.acyclic mem').2
        exact ih held conforms (settled.item mem') (widened _ (List.mem_map_of_mem mem'))
          (settled'.item mem'') converts (by omega)
      | _ => rfl
    | dict handle =>
      rw [settled.contents_dict] at widens converted
      obtain ⟨keyType, valueType, _, _, _, _, shows, asked, widened, lined⟩ :=
        widens.convert_dict converted
      obtain ⟨handle', rfl, rfl⟩ := settled'.eq_dict shows
      rw [List.forall₂_map_left_iff, List.forall₂_map_right_iff] at lined
      cases left with
      | dict one =>
        refine sameBeside_dict_congr (fun same => other settled (congrArg _ same))
          (fun same => other settled' (congrArg _ same)) settled.clear settled'.clear lined ?_
        intro value mem entry mem' entry' mem'' converts
        obtain ⟨⟨heldKey, key⟩, heldValue, value⟩ := sound.conforms_entry conforms asked value mem
        obtain ⟨⟨-, lessKey⟩, -, lessValue⟩ := view_entry settled.acyclic mem'
        obtain ⟨settledKey, settledValue⟩ := settled.entry mem'
        obtain ⟨settledKey', settledValue'⟩ := settled'.entry mem''
        obtain ⟨widensKey, widensValue⟩ := widened _ (List.mem_map_of_mem mem')
        exact ⟨ih heldKey key settledKey widensKey settledKey' converts.1 (by omega),
          ih heldValue value settledValue widensValue settledValue' converts.2 (by omega)⟩
      | _ => rfl
    | _ =>
      -- Nothing is opened beside what is no container.
      have plain := widens.convert_plain rfl converted
      cases stored with
      | list handle =>
        rw [settled'.contents_list] at plain
        cases plain
      | dict handle =>
        rw [settled'.contents_dict] at plain
        cases plain
      | _ =>
        cases left with
        | list one => rfl
        | dict one => rfl
        | _ => exact absurd ⟨store.whole_of_isPlain rfl, store.clear_of_isPlain shut rfl⟩ tame

end Store

end ReactiveScript
