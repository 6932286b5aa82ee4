import ReactiveScript.Proofs.Conversion.Distinct
import ReactiveScript.Proofs.Datum.Sameness
import ReactiveScript.Proofs.Document.Ending
import ReactiveScript.Proofs.Document.Object

/-! # The entries of a dictionary and the members of an object

Keys become names by their texts, and of members with one name the last one counts. Different scalar
keys have different texts but in two cases: a text may be the text of a key of another kind
(`text_key_hides_integer`), and the value that is no number, which is different from itself, may be
a key more than once. Where neither happens (`Datum.SpelledApart`) every entry of a dictionary is a
member of its object. -/

namespace ReactiveScript

namespace Datum

variable {part inner tree : Datum} {keys : List Datum} {entries : List (Datum × Datum)}
variable {handle : Handle} {key value : Ty} {document : Document} {set : Document.Setting}

/-! ## Keys with different texts -/

/-- **Keys that are spelled apart**: different scalars, of which those that contain the value that
is no number have different texts, and no text among them is the text of a key that is not a text.
-/
structure SpelledApart (keys : List Datum) : Prop where
  /-- They are scalars. -/
  plain : ∀ key ∈ keys, key.container? = none
  /-- They are pairwise different. -/
  differ : keys.Pairwise fun key other => key.same other = false
  /-- Those that are the value that is no number or have it as a part have different texts. -/
  numbers : keys.Pairwise fun key other =>
    key.isNaN = true → other.isNaN = true → key.render ≠ other.render
  /-- No text spells a key that is not a text. -/
  texts : ∀ key ∈ keys, key.isText = true → ∀ other ∈ keys, other.isText = false →
    other.render ≠ key.render

/-- **Keys that are spelled apart have different texts.** -/
theorem SpelledApart.pairwise_render (apart : SpelledApart keys) :
    keys.Pairwise fun key other => key.render ≠ other.render := by
  refine (apart.differ.and apart.numbers).imp_of_mem ?_
  rintro key other mem mem' ⟨differ, numbers⟩ same
  cases isText : key.isText with
  | true =>
    cases isText' : other.isText with
    | true =>
      -- A text is its own text.
      cases key <;> cases isText
      cases other <;> cases isText'
      exact ne_of_beq_false differ same
    | false => exact apart.texts key mem isText other mem' isText' same.symm
  | false =>
    cases isText' : other.isText with
    | true => exact apart.texts other mem' isText' key mem isText same
    | false =>
      have plain := apart.plain key mem
      have plain' := apart.plain other mem'
      have both := isNaN_eq_of_render_eq plain plain' isText isText' same
      cases number : key.isNaN with
      | true => exact numbers number (both ▸ number) same
      | false =>
        rw [same_of_render_eq plain plain' isText isText' number (both ▸ number) same] at differ
        cases differ

/-! ## What stands in a tree that is written -/

/-- What stands in something that stands in a tree stands in the tree. -/
theorem StandsIn.trans (inside : inner.StandsIn part) (outside : part.StandsIn tree) :
    inner.StandsIn tree := by
  induction outside with
  | self => exact inside
  | item mem _ ih => exact .item mem ih
  | value mem _ ih => exact .value mem ih

/-- What stands in a tree that is cut off nowhere is cut off nowhere. -/
theorem StandsIn.acyclic (inside : part.StandsIn tree) (acyclic : tree.isCyclic = false) :
    part.isCyclic = false := by
  induction inside with
  | self => exact acyclic
  | item mem _ ih => exact ih (anyCyclic_iff.mp acyclic _ mem)
  | value mem _ ih => exact ih (anyCyclicEntry_iff.mp acyclic _ mem).2

/-- What stands in a tree that has a document has one. -/
theorem StandsIn.exists_document (inside : part.StandsIn tree)
    (written : tree.toDocument set = .ok document) :
    ∃ document, part.toDocument set = .ok document := by
  have all := (toDocument_judged set tree).ok_iff.mp ⟨document, written⟩
  exact (toDocument_judged set part).ok_iff.mpr fun found deeper => all found (deeper.trans inside)

/-- The members that entries become are named by the texts of the keys. -/
theorem names_of_becomes {members : List (String × Document)}
    (each : List.Forall₂ (Becomes set) entries members) :
    members.map Prod.fst = entries.map fun entry => entry.1.render := by
  induction each with
  | nil => rfl
  | cons first _ ih => rw [List.map_cons, List.map_cons, ih, first.1]

/-- **A dictionary whose keys have different texts is written without losing an entry.** -/
theorem exists_members_of_toDocument (keeps : Document.KeepsMembers set)
    (texts : entries.Pairwise fun entry other => entry.1.render ≠ other.1.render)
    (written : (dict handle key value entries).toDocument set = .ok document) :
    ∃ members, document = .object members ∧ Document.Apart members ∧
      (Document.KeepsOrder set → Document.Ascending members) ∧
      members.length = entries.length ∧ ∀ entry ∈ entries, ∃ part,
        entry.2.toDocument set = .ok part ∧
          Document.member? entry.1.render members = some part := by
  obtain ⟨members, rfl, each⟩ := toDocument_dict_eq_ok written
  have apart : Document.Apart members := by
    have names := names_of_becomes each
    have differ : (members.map Prod.fst).Pairwise (· ≠ ·) := by
      rw [names]
      exact List.pairwise_map.mpr texts
    exact List.pairwise_map.mp differ
  have order := keeps.perm_setMembers apart
  have kept := keeps.apart members
  refine ⟨_, rfl, kept, fun ordered => ordered.setMembers .nil members,
    order.length_eq.trans each.length_eq.symm, ?_⟩
  intro entry mem
  obtain ⟨member, found, name, part⟩ := exists_of_forall₂ each entry mem
  refine ⟨member.2, part, ?_⟩
  rw [← name]
  exact Document.member?_of_mem kept (order.mem_iff.mpr found)

end Datum

namespace Store

variable {store : Store} {value : Value} {document : Document} {handle : Handle}
variable {set : Document.Setting}

/-- **An object that keeps all entries of a dictionary**: as many members with different names, in
ascending order of them where objects keep that order, and under the text of every key the document
of its value. -/
structure KeepsEntries (store : Store) (set : Document.Setting) (handle : Handle)
    (members : List (String × Document)) : Prop where
  /-- No name stands twice. -/
  apart : Document.Apart members
  /-- Names stand in ascending order where objects keep it. -/
  ascending : Document.KeepsOrder set → Document.Ascending members
  /-- There are as many members as entries. -/
  length : members.length = (store.dict handle).entries.length
  /-- The document of a value stands under the text of its key. -/
  member : ∀ entry ∈ (store.dict handle).entries, ∃ name part,
    store.render entry.1 = some name ∧ store.document set entry.2 = .ok part ∧
      Document.member? name members = some part

/-- **No entry is lost where keys are spelled apart.** Let objects keep their members. Where a
value has a document, every dictionary that stands in it as a value, the value itself included, is
written as an object that keeps all its entries, if its keys are spelled apart. -/
theorem document_keeps_entries (keeps : Document.KeepsMembers set)
    (acyclic : (store.view value).isCyclic = false)
    (written : store.document set value = .ok document)
    (inside : (store.view (.dict handle)).StandsIn (store.view value))
    (apart : Datum.SpelledApart (store.view (.dict handle)).keys) :
    ∃ members, store.document set (.dict handle) = .ok (.object members) ∧
      store.KeepsEntries set handle members := by
  obtain ⟨document, written⟩ := inside.exists_document ((document_eq_ok_iff acyclic).mp written)
  have acyclic := inside.acyclic acyclic
  have tree := view_dict acyclic
  have texts := apart.pairwise_render
  have found := written
  rw [tree] at found texts
  rw [Datum.keys, List.pairwise_map] at texts
  obtain ⟨members, rfl, kept, ascending, length, member⟩ :=
    Datum.exists_members_of_toDocument keeps texts found
  refine ⟨members, (document_eq_ok_iff acyclic).mpr written, kept, ascending,
    length.trans (List.length_map _), fun entry mem => ?_⟩
  obtain ⟨part, document, found⟩ := member _ (List.mem_map_of_mem mem)
  obtain ⟨⟨key, -⟩, value, -⟩ := view_entry acyclic mem
  exact ⟨_, part, render_eq key, (document_eq_ok_iff value).mpr document, found⟩

/-- A store with a dictionary of keys of many kinds, and another one inside its first value. -/
def catalogue : Store where
  lists := #[⟨.any, [.dict 1, .text "end"], []⟩]
  dicts := #[
    ⟨.any, .any, [(.text "list", .list 0), (.int 12, .void), (.float 1.5, .int 3),
      (.complex 0 (-1), .boolean true), (.boolean false, .int 5), (.void, .int 6),
      (.float Float.nan, .int 7)], []⟩,
    ⟨.any, .int, [(.text "true", .int 1), (.int 9007199254740993, .int 2),
      (.int 9007199254740992, .int 3), (.text "1.5", .int 4)], []⟩]

/-- Both dictionaries keep all their entries, and the inner one keeps two integers that round to the
same floating-point number. -/
theorem catalogue_keeps_entries :
    (∃ members, catalogue.document Document.insertMember (.dict 0) = .ok (.object members) ∧
      catalogue.KeepsEntries Document.insertMember 0 members) ∧
    ∃ members, catalogue.document Document.insertMember (.dict 1) = .ok (.object members) ∧
      catalogue.KeepsEntries Document.insertMember 1 members := by
  have keeps := Document.insertMember_keepsMembers
  have acyclic : (catalogue.view (.dict 0)).isCyclic = false := by decide
  have outer : Datum.SpelledApart (catalogue.view (.dict 0)).keys :=
    ⟨by decide, by decide, by decide, by decide⟩
  have inner : Datum.SpelledApart (catalogue.view (.dict 1)).keys :=
    ⟨by decide, by decide, by decide, by decide⟩
  obtain ⟨document, written⟩ :
      ∃ document, catalogue.document Document.insertMember (.dict 0) = .ok document := ⟨_, rfl⟩
  have inside : (catalogue.view (.dict 1)).StandsIn (catalogue.view (.dict 0)) :=
    .value List.mem_cons_self (.item List.mem_cons_self .self)
  exact ⟨document_keeps_entries keeps acyclic written .self outer,
    document_keeps_entries keeps acyclic written inside inner⟩

/-- A store with a dictionary whose keys are an integer and the text of that integer. -/
def shadowed : Store where
  lists := #[]
  dicts := #[⟨.any, .any, [(.int 1, .int 10), (.text "1", .int 20)], []⟩]

/-- **A text hides the integer that it spells.** The keys are different, and yet the object has one
member, with what stood under the text. -/
theorem text_key_hides_integer :
    (shadowed.view (.dict 0)).isCyclic = false ∧
    (shadowed.view (.dict 0)).keys.Pairwise (fun key other => key.same other = false) ∧
    ∃ members, shadowed.document Document.insertMember (.dict 0) = .ok (.object members) ∧
      members.length ≠ (shadowed.dict 0).entries.length ∧
      shadowed.render (.int 1) = some "1" ∧
      shadowed.document Document.insertMember (.int 10) = .ok (.integer 10) ∧
      Document.member? "1" members = some (.integer 20) := by
  refine ⟨by decide, by decide, _, rfl, by decide, rfl, rfl, rfl⟩

end Store

end ReactiveScript
