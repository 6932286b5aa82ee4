import ReactiveScript.Proofs.Conversion.Operation
import ReactiveScript.Proofs.Document.Ending
import ReactiveScript.Proofs.Document.Object

/-! # Writing a value and reading it back

The value of a document is new, but a document that was written restores the contents that it was
written from (`Datum.RestoredBy`): items come back in order, and entries in the order of their
keys, which does not count for sameness. So a value that a document keeps (`Store.Storable`) is
written, and what is read back is the same. -/

namespace ReactiveScript

/-- A finite number is a number. -/
theorem Number.isNaN_of_isFinite {x : Float} (finite : x.isFinite = true) : x.isNaN = false := by
  change x.toModel.unpack.isFinite = true at finite
  change x.toModel.unpack.isNaN = false
  revert finite
  cases x.toModel.unpack with
  | notANumber => exact nofun
  | _ => exact fun _ => rfl

/-- Where an operation has a result, what follows goes on from it. -/
theorem Alloc.run_bind_of_ok {α β : Type} {action : Alloc α} {follow : α → Alloc β}
    {store after : Store} {result : α} (ran : action.run store = .ok (result, after)) :
    (action >>= follow).run store = (follow result).run after := by
  rw [StateT.run_bind, ran]
  rfl

namespace Datum

variable {tree : Datum} {items : List Datum} {entries : List (Datum × Datum)}
variable {handle : Handle} {element key value : Ty} {document : Document} {set : Document.Setting}

/-- **A tree that is restored by a document**: the value of the document is added to any store, and
the contents of the tree are like those of the value. -/
def RestoredBy (tree : Datum) (document : Document) : Prop :=
  ∀ store : Store, ∃ back after contents, document.toValue.run store = .ok (back, after) ∧
    store.Adds after back contents ∧ tree.bare.like contents = true

/-- An entry that is restored by a member: the key is the name, and the value is restored. -/
def RestoredByMember (entry : Datum × Datum) (member : String × Document) : Prop :=
  entry.1 = .text member.1 ∧ entry.2.RestoredBy member.2

/-- An entry without handles and tags. -/
def bareEntry (entry : Datum × Datum) : Datum × Datum := (entry.1.bare, entry.2.bare)

/-! ## Values without items -/

/-- What is no container is restored by what gives it back. -/
theorem restoredBy_of_plain (plain : tree.container? = none) (number : tree.isNaN = false)
    (ran : ∀ store, document.toValue.run store = .ok (tree.value, store)) :
    tree.RestoredBy document := by
  intro store
  obtain ⟨isPlain, shows, acyclic⟩ : tree.value.isPlain = true ∧
      store.contents tree.value = tree.bare ∧ tree.isCyclic = false := by
    cases tree with
    | list | dict | cycle => cases plain
    | _ => exact ⟨rfl, rfl, rfl⟩
  refine ⟨tree.value, store, _, ran store, .refl (store.whole_of_isPlain isPlain), ?_⟩
  rw [shows, like_bare]
  exact like_self acyclic (numbers_of_plain plain number)

/-! ## Containers -/

/-- Items are restored one after the other. -/
theorem restores_items {documents : List Document}
    (each : List.Forall₂ RestoredBy items documents) (store : Store) :
    ∃ values after, (Document.toValues documents).run store = .ok (values, after) ∧
      store.Extends after ∧ (∀ value ∈ values, after.Whole value) ∧
      List.Forall₂ (fun item contents => item.like contents = true) (items.map bare)
        (values.map after.contents) := by
  induction each generalizing store with
  | nil => exact ⟨[], store, rfl, .refl store, by simp, .nil⟩
  | cons first rest ih =>
    obtain ⟨back, middle, contents, ran, added, like⟩ := first store
    obtain ⟨values, after, ran', kept, whole, alike⟩ := ih middle
    refine ⟨back :: values, after, ?_, added.kept.trans kept,
      List.forall_mem_cons.mpr ⟨added.whole.of_extends kept, whole⟩, .cons ?_ alike⟩
    · rw [Document.toValues, Alloc.run_bind_of_ok ran, Alloc.run_bind_of_ok ran']
      rfl
    · rwa [added.whole.contents_eq kept, added.shows]

/-- A name that no key is, where all keys are texts, is missing. -/
theorem misses_text {store : Store} {found : List (Value × Value)} {name : String}
    (new : ∀ entry ∈ found, ∃ other, entry.1 = .text other ∧ other ≠ name) :
    store.Misses none (.text name) found := by
  intro entry mem
  obtain ⟨other, text, different⟩ := new entry mem
  rw [text]
  exact congrArg some (beq_false_of_ne different)

/-- Entries are restored one after the other, and each is put behind those that were restored before
it, because its name is new. -/
theorem restores_entries {members : List (String × Document)} {before : List (Value × Value)}
    (each : List.Forall₂ RestoredByMember entries members) (apart : Document.Apart members)
    (new : ∀ entry ∈ before, ∃ name, entry.1 = .text name ∧ ∀ member ∈ members, name ≠ member.1)
    (store : Store) :
    ∃ found after, (Document.toEntries before members).run store = .ok (before ++ found, after) ∧
      store.Extends after ∧ (∀ entry ∈ found, after.Whole entry.1 ∧ after.Whole entry.2) ∧
      List.Forall₂ LikeEntry (entries.map bareEntry) (found.map after.entryContents) := by
  induction each generalizing store before with
  | nil =>
    refine ⟨[], store, ?_, .refl store, by simp, .nil⟩
    rw [List.append_nil]
    rfl
  | @cons entry member entries members first rest ih =>
    obtain ⟨name, restored⟩ := first
    obtain ⟨different, apart⟩ := List.pairwise_cons.mp apart
    obtain ⟨back, middle, contents, ran, added, like⟩ := restored store
    -- No entry before has this name, so the entry is put at the end.
    have set : middle.setEntry none (.text member.1) back before =
        some (before ++ [(.text member.1, back)]) := by
      refine Store.Misses.setEntry_eq (misses_text fun entry mem => ?_)
      obtain ⟨name, text, other⟩ := new entry mem
      exact ⟨name, text, other _ List.mem_cons_self⟩
    have new' : ∀ entry ∈ before ++ [(.text member.1, back)],
        ∃ name, entry.1 = .text name ∧ ∀ member ∈ members, name ≠ member.1 := by
      intro entry mem
      rcases List.mem_append.mp mem with mem | mem
      · obtain ⟨name, text, other⟩ := new entry mem
        exact ⟨name, text, fun member mem => other member (List.mem_cons_of_mem _ mem)⟩
      · cases List.mem_singleton.mp mem
        exact ⟨member.1, rfl, different⟩
    obtain ⟨found, after, ran', kept, whole, alike⟩ := ih apart new' middle
    refine ⟨(.text member.1, back) :: found, after, ?_, added.kept.trans kept,
      List.forall_mem_cons.mpr ⟨⟨after.whole_of_isPlain rfl, added.whole.of_extends kept⟩, whole⟩,
      .cons ⟨?_, ?_⟩ alike⟩
    · rw [Document.toEntries, Alloc.run_bind_of_ok ran]
      change ((liftM (middle.setEntry none (.text member.1) back before) : Alloc _).run middle
        >>= _) = _
      rw [set]
      change (Document.toEntries (before ++ [(.text member.1, back)]) members).run middle = _
      rw [ran', List.append_assoc, List.singleton_append]
    · rw [bareEntry, name]
      exact beq_self_eq_true member.1
    · rwa [Store.entryContents, added.whole.contents_eq kept, added.shows]

/-- **A list is restored by an array** of documents that restore its items. -/
theorem restoredBy_array {documents : List Document}
    (each : List.Forall₂ RestoredBy items documents) :
    (list handle element items).RestoredBy (.array documents) := by
  intro store
  obtain ⟨values, middle, ran, kept, whole, alike⟩ := restores_items each store
  have added := Store.adds_newList .any whole
  refine ⟨_, _, _, ?_, ⟨kept.trans added.kept, added.whole, added.shows⟩, ?_⟩
  · rw [Document.toValue, Alloc.run_bind_of_ok ran]
    rfl
  · rw [bare, bareItems_eq]
    exact like_list_iff.mpr ⟨_, _, _, rfl, alike⟩

/-- **A dictionary is restored by an object** of members that restore its entries, in any order. -/
theorem restoredBy_object {members : List (String × Document)} {lined : List (Datum × Datum)}
    (order : entries.Perm lined) (each : List.Forall₂ RestoredByMember lined members)
    (apart : Document.Apart members) :
    (dict handle key value entries).RestoredBy (.object members) := by
  intro store
  obtain ⟨found, middle, ran, kept, whole, alike⟩ :=
    restores_entries each apart (List.forall_mem_nil _) store
  have added := Store.adds_newDict .text .any whole
  refine ⟨_, _, _, ?_, ⟨kept.trans added.kept, added.whole, added.shows⟩, ?_⟩
  · rw [Document.toValue, Alloc.run_bind_of_ok ran]
    rfl
  · rw [bare, bareEntries_eq]
    have order := order.map bareEntry
    refine like_dict_iff.mpr ⟨_, _, _, _, rfl, ?_, fun entry mem => ?_⟩
    · exact order.length_eq.trans alike.length_eq
    · exact exists_of_forall₂ alike entry (order.mem_iff.mp mem)

/-! ## Trees -/

/-- Whether a tree is of a kind that a document keeps: no complex number, none that is not finite,
no missing value, and no dictionary with a key that is not a text. -/
def isKept : Datum → Bool
  | .int _ | .boolean _ | .text _ | .void | .list .. => true
  | .float x => x.isFinite
  | .dict _ _ _ entries => entries.all fun
    | (.text _, _) => true
    | _ => false
  | _ => false

/-- What a document keeps is not unwritable. -/
theorem isUnwritable_of_isKept (kept : tree.isKept = true) : tree.isUnwritable = false := by
  cases tree with
  | float x => simpa [isUnwritable, isKept] using kept
  | complex re im => cases kept
  | _ => rfl

/-- What a document keeps is not the value that is no number. -/
theorem isNaN_of_isKept (kept : tree.isKept = true) : tree.isNaN = false := by
  cases tree with
  | float x => exact Number.isNaN_of_isFinite kept
  | complex re im => cases kept
  | _ => rfl

/-- The keys of a dictionary that a document keeps are texts. -/
theorem exists_text_of_isKept (kept : (dict handle key value entries).isKept = true) :
    ∀ entry ∈ entries, ∃ name, entry.1 = .text name := by
  intro entry mem
  have kind := List.all_eq_true.mp kept entry mem
  obtain ⟨key, value⟩ := entry
  cases key with
  | text name => exact ⟨name, rfl⟩
  | _ => cases kind

/-- Members that stand for keys which are pairwise different have different names. -/
theorem apart_of_restoredByMember {members : List (String × Document)}
    (differ : (entries.map Prod.fst).Pairwise fun key other => key.same other = false)
    (each : List.Forall₂ RestoredByMember entries members) : Document.Apart members := by
  have names : entries.map Prod.fst = members.map fun member => text member.1 := by
    induction each with
    | nil => rfl
    | cons first _ ih =>
      rw [List.map_cons, List.map_cons, first.1, ih (List.pairwise_cons.mp differ).2]
  rw [names, List.pairwise_map] at differ
  exact differ.imp fun differ => ne_of_beq_false differ

/-- What stands side by side is related otherwise if it is for each of the things. -/
theorem forall₂_imp_of_mem {α β : Type} {beside related : α → β → Prop} {things : List α}
    {others : List β} (h : List.Forall₂ beside things others)
    (each : ∀ thing ∈ things, ∀ other, beside thing other → related thing other) :
    List.Forall₂ related things others :=
  ((List.forall₂_and_left things others).mpr ⟨each, h⟩).imp
    fun _ other ⟨each, beside⟩ => each other beside

/-- **What was written restores what it was written from**, if it is of the kinds that a document
keeps and the keys of every dictionary are different. -/
theorem restoredBy_of_toDocument (keeps : Document.KeepsMembers set)
    (kept : ∀ part ∈ tree.parts, part.isKept = true)
    (differ : ∀ part ∈ tree.parts, part.keys.Pairwise fun key other => key.same other = false)
    (written : tree.toDocument set = .ok document) : tree.RestoredBy document := by
  induction tree generalizing document with
  | list handle element items ih =>
    obtain ⟨-, kept⟩ := forall_parts_list.mp kept
    obtain ⟨-, differ⟩ := forall_parts_list.mp differ
    obtain ⟨documents, rfl, each⟩ := toDocument_list_eq_ok written
    have restored (item) (mem : item ∈ items) (document : Document)
        (written : item.toDocument set = .ok document) : item.RestoredBy document :=
      ih item mem (kept item mem) (differ item mem) written
    exact restoredBy_array (forall₂_imp_of_mem each restored)
  | dict handle key value entries _ ih =>
    obtain ⟨texts, -, kept⟩ := forall_parts_dict.mp kept
    obtain ⟨different, -, differ⟩ := forall_parts_dict.mp differ
    obtain ⟨members, rfl, each⟩ := toDocument_dict_eq_ok written
    have restored (entry) (mem : entry ∈ entries) (member : String × Document)
        (becomes : Becomes set entry member) : RestoredByMember entry member := by
      obtain ⟨name, text⟩ := exists_text_of_isKept texts entry mem
      refine ⟨?_, ih entry mem (kept entry mem) (differ entry mem) becomes.2⟩
      rw [becomes.1, text]
      rfl
    have each := forall₂_imp_of_mem each restored
    have order := keeps.perm_setMembers (apart_of_restoredByMember different each)
    -- The entries in the order of the members that the object has.
    have lined : Relation.Comp (List.Forall₂ RestoredByMember) List.Perm entries
        (Document.setMembers set [] members) :=
      ⟨members, each, order.symm⟩
    rw [List.forall₂_comp_perm_eq_perm_comp_forall₂] at lined
    obtain ⟨lined, order', each'⟩ := lined
    exact restoredBy_object order' each' (keeps.apart members)
  | float x =>
    have finite : x.isFinite = true := kept _ (mem_parts_self _)
    rw [toDocument, if_pos finite] at written
    cases written
    exact restoredBy_of_plain rfl (Number.isNaN_of_isFinite finite) fun _ => rfl
  | complex re im => cases kept _ (mem_parts_self _)
  | untyped => cases kept _ (mem_parts_self _)
  | cycle container => cases kept _ (mem_parts_self _)
  | _ =>
    cases written
    exact restoredBy_of_plain rfl rfl fun _ => rfl

/-- A text hands on numbers, as it holds none. -/
theorem chains_text (name : String) (middle right : Datum) : (text name).Chains middle right := by
  intro first mem number
  cases List.mem_singleton.mp mem
  cases number

end Datum

namespace Store

variable {store after : Store} {value back : Value} {set : Document.Setting}

/-- **A value that documents keep**: all there, of integers, finite floating-point numbers, truth
values, texts, nothing, lists and dictionaries with texts as keys, which are pairwise different. -/
structure Storable (store : Store) (value : Value) : Prop extends store.Whole value where
  /-- Everything is of a kind that a document keeps. -/
  kept : ∀ part ∈ (store.view value).parts, part.isKept = true
  /-- The keys of every dictionary are pairwise different. -/
  keys : ∀ part ∈ (store.view value).parts,
    part.keys.Pairwise fun key other => key.same other = false

namespace Storable

/-- A value that documents keep can be compared. -/
theorem comparable (storable : store.Storable value) : store.Comparable value :=
  ⟨storable.acyclic, fun part mem => Datum.isNaN_of_isKept (storable.kept part mem),
    storable.keys⟩

/-- A value that documents keep is one in a store that extends. -/
theorem of_extends (storable : store.Storable value) (h : store.Extends after) :
    after.Storable value where
  toWhole := storable.toWhole.of_extends h
  kept := by
    rw [storable.view_eq h]
    exact storable.kept
  keys := by
    rw [storable.view_eq h]
    exact storable.keys

/-- The keys of a dictionary that documents keep are texts. -/
theorem exists_text (storable : store.Storable value) {part key : Datum}
    (mem : part ∈ (store.view value).parts) (found : key ∈ part.keys) :
    ∃ name, key = .text name := by
  have kept := storable.kept part mem
  cases part with
  | dict handle keyType valueType entries =>
    obtain ⟨entry, mem, rfl⟩ := List.mem_map.mp found
    exact Datum.exists_text_of_isKept kept entry mem
  | _ => cases found

/-- **A value that documents keep is the same as what has its contents**, whichever comes first. -/
theorem same_of_like (storable : store.Storable value)
    (acyclic : (store.view back).isCyclic = false)
    (like : (store.view value).like (store.view back) = true) :
    store.same back value = some true ∧ store.same value back = some true := by
  have comparable := storable.comparable
  rw [same_eq acyclic storable.acyclic, same_eq storable.acyclic acyclic, Option.some_inj,
    Option.some_inj, Datum.same_eq_like (.of_view storable.acyclic) (.of_view acyclic)
    (.inl comparable.numbers), Datum.same_eq_like (.of_view acyclic)
    (.of_view comparable.acyclic) (.inr comparable.numbers)]
  refine ⟨Datum.like_symm_of_chains comparable.keys_like (fun part mem => ?_) like, like⟩
  refine (storable.keys part mem).imp_of_mem fun {key other} found _ _ between _ => ?_
  obtain ⟨name, rfl⟩ := storable.exists_text mem found
  exact Datum.chains_text name between other

end Storable

/-- **Values survive being written and read back.** Let objects keep their members. A value is
refused as a document with a type error. What has no container inside itself is written or refused,
and refused exactly if a complex number or one that is not finite stands in it as a value. A value
that documents keep has a document, and the value of the document, made at any time before
containers change, is the same as the one that was written. -/
theorem document_round_trip (keeps : Document.KeepsMembers set) (store : Store) (value : Value) :
    (∀ fault, store.document set value = .error (.fault fault) → fault.kind = .typeError) ∧
    ((store.view value).isCyclic = false → store.document set value ≠ .error .exhausted ∧
      ((∃ fault, store.document set value = .error (.fault fault)) ↔
        ∃ part : Datum, part.StandsIn (store.view value) ∧ part.isUnwritable = true)) ∧
    (store.Storable value → ∃ document, store.document set value = .ok document ∧
      ∀ later, store.Extends later → ∃ back after,
        document.toValue.run later = .ok (back, after) ∧ later.Extends after ∧
        after.same back value = some true ∧ after.same value back = some true) := by
  have judged := Datum.toDocument_judged set (store.view value)
  refine ⟨fun _ => document_typeError, fun acyclic =>
    ⟨document_ne_exhausted acyclic, ?_⟩, fun storable => ?_⟩
  · rw [← judged.error_iff]
    exact exists_congr fun _ => document_eq_fault_iff acyclic
  · obtain ⟨document, written⟩ := judged.ok_iff.mpr fun part inside =>
      Datum.isUnwritable_of_isKept (storable.kept part inside.mem_parts)
    refine ⟨document, (document_eq_ok_iff storable.acyclic).mpr written, fun later extends_ => ?_⟩
    have restored := Datum.restoredBy_of_toDocument keeps storable.kept storable.keys written
    obtain ⟨back, after, contents, ran, added, like⟩ := restored later
    have grown := extends_.trans added.kept
    -- The contents are alike, and what can be kept is the same as what has contents like its own.
    refine ⟨back, after, ran, added.kept, (storable.of_extends grown).same_of_like
      added.whole.acyclic ?_⟩
    rw [storable.view_eq grown, ← Datum.like_bare]
    rwa [← added.shows] at like

instance (store : Store) (value : Value) : Decidable (store.Holds value) :=
  match value with
  | .list handle => inferInstanceAs (Decidable (handle < store.lists.size))
  | .dict handle => inferInstanceAs (Decidable (handle < store.dicts.size))
  | .int _ | .float _ | .complex .. | .boolean _ | .text _ | .void | .untyped =>
    inferInstanceAs (Decidable True)

/-- A store with nested lists and dictionaries, the last of which holds a complex number. -/
def records : Store where
  lists := #[⟨.any, [.int 1, .float 2.5, .boolean true, .void], []⟩,
    ⟨.any, [.text "point", .complex 1 2], []⟩]
  dicts := #[
    ⟨.text, .any, [(.text "tags", .list 0), (.text "name", .text "muni"), (.text "more", .dict 1)],
      []⟩,
    ⟨.text, .int, [(.text "b", .int 2), (.text "a", .int 9007199254740993)], []⟩,
    ⟨.any, .any, [(.complex 1 2, .list 1)], []⟩]

/-- A record with entries in no order is the same after it was written and read back, and one with a
complex number in a list is refused. -/
theorem records_round_trip :
    (∃ document, records.document Document.insertMember (.dict 0) = .ok document ∧ ∃ back after,
      document.toValue.run records = .ok (back, after) ∧ after.same back (.dict 0) = some true) ∧
    ∃ fault, records.document Document.insertMember (.dict 2) = .error (.fault fault) ∧
      fault.kind = .typeError := by
  have keeps := Document.insertMember_keepsMembers
  constructor
  · have storable : records.Storable (.dict 0) :=
      { acyclic := by decide, held := by decide, kept := by decide, keys := by decide }
    obtain ⟨-, -, survives⟩ := document_round_trip keeps records (.dict 0)
    obtain ⟨document, written, read⟩ := survives storable
    obtain ⟨back, after, ran, -, same, -⟩ := read records (.refl records)
    exact ⟨document, written, back, after, ran, same⟩
  · obtain ⟨kind, refused, -⟩ := document_round_trip keeps records (.dict 2)
    have inside : (Datum.complex 1 2).StandsIn (records.view (.dict 2)) :=
      .value List.mem_cons_self (.item (List.mem_cons_of_mem _ List.mem_cons_self) .self)
    obtain ⟨fault, refused⟩ := (refused (by decide)).2.mpr ⟨.complex 1 2, inside, rfl⟩
    exact ⟨fault, refused, kind fault refused⟩

end Store

end ReactiveScript
