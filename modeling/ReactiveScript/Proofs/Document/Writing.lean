import Mathlib.Data.List.Forall2
import ReactiveScript.Json.Document
import ReactiveScript.Proofs.Datum.Tree
import ReactiveScript.Proofs.Evaluation.Effect

/-! # Writing trees as documents

What has no container inside itself is a tree, and `Datum.toDocument` is its document. A tree is
refused because of a number that stands in it as a value, never because of a key
(`toDocument_judged`). What is written is written part by part: the items of an array and the
members that an object is made from are the documents of the items and values
(`toDocument_list_eq_ok`, `toDocument_dict_eq_ok`). -/

namespace ReactiveScript

namespace Datum

mutual

/-- The document of a tree. A complex number and a number that is not finite have none. -/
def toDocument (set : Document.Setting) : Datum → Except Fault Document
  | .int n => .ok (.integer n)
  | .float x =>
    if x.isFinite then .ok (.float x)
    else .error (Cause.jsonNumber (messageLayout.write x)).fault
  | .complex .. => .error Cause.jsonComplex.fault
  | .boolean b => .ok (.boolean b)
  | .text s => .ok (.text s)
  | .void => .ok .null
  | .untyped => .ok .null
  | .list _ _ items => do
    let documents ← toDocuments set items
    return .array documents
  | .dict _ _ _ entries => do
    let members ← toMembers set entries
    return .ofMembers set members
  | .cycle _ => .ok .null

/-- The documents of trees in order. -/
def toDocuments (set : Document.Setting) : List Datum → Except Fault (List Document)
  | [] => .ok []
  | item :: items => do
    let document ← toDocument set item
    let documents ← toDocuments set items
    return document :: documents

/-- The members that the entries of a dictionary become. -/
def toMembers (set : Document.Setting) :
    List (Datum × Datum) → Except Fault (List (String × Document))
  | [] => .ok []
  | (key, value) :: entries => do
    let document ← toDocument set value
    let members ← toMembers set entries
    return (key.render, document) :: members

end

variable {part : Datum} {items : List Datum} {entries : List (Datum × Datum)}
variable {handle : Handle} {element key value : Ty} {document : Document}
variable {set : Document.Setting}

/-! ## What stands in a tree as a value -/

/-- **What stands in a tree as a value**: the tree, and what does in an item of a list or in a value
of a dictionary, but not what stands in a key. -/
inductive StandsIn (part : Datum) : Datum → Prop where
  /-- A tree stands in itself. -/
  | self : StandsIn part part
  /-- What stands in an item stands in the list. -/
  | item {handle : Handle} {element : Ty} {items : List Datum} {item : Datum} (mem : item ∈ items)
      (inside : StandsIn part item) : StandsIn part (.list handle element items)
  /-- What stands in a value stands in the dictionary. -/
  | value {handle : Handle} {key value : Ty} {entries : List (Datum × Datum)}
      {entry : Datum × Datum} (mem : entry ∈ entries) (inside : StandsIn part entry.2) :
      StandsIn part (.dict handle key value entries)

/-- What stands in a tree is a part of it. -/
theorem StandsIn.mem_parts {tree : Datum} (inside : StandsIn part tree) : part ∈ tree.parts := by
  induction inside with
  | self => exact mem_parts_self _
  | item mem _ ih => exact mem_parts_list mem ih
  | value mem _ ih => exact mem_parts_dict mem (.inr ih)

/-- A number that no document has: one that is complex or not finite. -/
def isUnwritable : Datum → Bool
  | .float x => !x.isFinite
  | .complex .. => true
  | _ => false

/-! ## When writing fails -/

/-- **A judged outcome** of writing what is found somewhere: if there is a result then nothing that
is found is unwritable, and if there is a fault then it is a type error, and something is. -/
def Judged {α : Type} (found : Datum → Prop) : Except Fault α → Prop
  | .ok _ => ∀ part, found part → part.isUnwritable = false
  | .error fault => fault.kind = .typeError ∧ ∃ part, found part ∧ part.isUnwritable = true

namespace Judged

variable {α β : Type} {found found' : Datum → Prop} {outcome : Except Fault α}

/-- **There is a result exactly if nothing that is found is unwritable.** -/
theorem ok_iff (h : Judged found outcome) :
    (∃ value, outcome = .ok value) ↔ ∀ part, found part → part.isUnwritable = false := by
  cases outcome with
  | ok value => exact iff_of_true ⟨value, rfl⟩ h
  | error fault =>
    obtain ⟨-, part, mem, unwritable⟩ := h
    refine iff_of_false nofun fun none => ?_
    exact Bool.false_ne_true ((none part mem).symm.trans unwritable)

/-- There is a fault exactly if something that is found is unwritable. -/
theorem error_iff (h : Judged found outcome) :
    (∃ fault, outcome = .error fault) ↔ ∃ part, found part ∧ part.isUnwritable = true := by
  cases outcome with
  | ok value =>
    refine iff_of_false nofun ?_
    rintro ⟨part, mem, unwritable⟩
    exact Bool.false_ne_true ((h part mem).symm.trans unwritable)
  | error fault => exact iff_of_true ⟨fault, rfl⟩ h.2

/-- An outcome is judged by what may be unwritable only. -/
theorem of_found (h : Judged found outcome) (more : ∀ part, found part → found' part)
    (less : ∀ part, found' part → found part ∨ part.isUnwritable = false) :
    Judged found' outcome := by
  cases outcome with
  | ok value => exact fun part mem => (less part mem).elim (h part) id
  | error fault =>
    obtain ⟨kind, part, mem, unwritable⟩ := h
    exact ⟨kind, part, more part mem, unwritable⟩

/-- What is made of a result is judged as the result is. -/
theorem map (h : Judged found outcome) (make : α → β) :
    Judged found (outcome >>= fun value => pure (make value)) := by
  cases outcome with
  | ok value => exact h
  | error fault => exact h

/-- One outcome after another is judged by what is found for either. -/
theorem bind {follow : α → Except Fault β} (h : Judged found outcome)
    (h' : ∀ value, Judged found' (follow value)) :
    Judged (fun part => found part ∨ found' part) (outcome >>= follow) := by
  cases outcome with
  | error fault =>
    obtain ⟨kind, part, mem, unwritable⟩ := h
    exact ⟨kind, part, .inl mem, unwritable⟩
  | ok value =>
    have next := h' value
    rw [show Except.ok value >>= follow = follow value from rfl]
    cases ended : follow value with
    | ok result =>
      rw [ended] at next
      exact fun part mem => mem.elim (h part) (next part)
    | error fault =>
      rw [ended] at next
      obtain ⟨kind, part, mem, unwritable⟩ := next
      exact ⟨kind, part, .inr mem, unwritable⟩

end Judged

/-- Writing items is judged by what stands in one of them. -/
theorem toDocuments_judged
    (each : ∀ item ∈ items, Judged (·.StandsIn item) (item.toDocument set)) :
    Judged (fun part => ∃ item ∈ items, part.StandsIn item) (toDocuments set items) := by
  induction items with
  | nil => rintro part ⟨item, mem, -⟩; cases mem
  | cons item items ih =>
    obtain ⟨first, rest⟩ := List.forall_mem_cons.mp each
    rw [toDocuments]
    refine (first.bind fun document => (ih rest).map _).of_found ?_ ?_
    · simp
    · exact fun part mem => .inl (by simpa using mem)

/-- Writing entries is judged by what stands in the value of one of them. -/
theorem toMembers_judged
    (each : ∀ entry ∈ entries, Judged (·.StandsIn entry.2) (entry.2.toDocument set)) :
    Judged (fun part => ∃ entry ∈ entries, part.StandsIn entry.2) (toMembers set entries) := by
  induction entries with
  | nil => rintro part ⟨entry, mem, -⟩; cases mem
  | cons entry entries ih =>
    obtain ⟨first, rest⟩ := List.forall_mem_cons.mp each
    rw [toMembers]
    refine (first.bind fun document => (ih rest).map _).of_found ?_ ?_
    · simp
    · exact fun part mem => .inl (by simpa using mem)

/-- **Writing a tree fails because of what stands in it as a value**, and as a type error. -/
theorem toDocument_judged (set : Document.Setting) (tree : Datum) :
    Judged (·.StandsIn tree) (tree.toDocument set) := by
  induction tree with
  | float x =>
    rw [toDocument]
    cases finite : x.isFinite with
    | true =>
      rintro part ⟨⟩
      simp [isUnwritable, finite]
    | false => exact ⟨rfl, _, .self, by simp [isUnwritable, finite]⟩
  | complex re im => exact ⟨rfl, _, .self, rfl⟩
  | list handle element items ih =>
    rw [toDocument]
    refine ((toDocuments_judged ih).map _).of_found ?_ ?_
    · rintro part ⟨item, mem, inside⟩
      exact .item mem inside
    · rintro part (_ | ⟨mem, inside⟩)
      · exact .inr rfl
      · exact .inl ⟨_, mem, inside⟩
  | dict handle key value entries _ ih =>
    rw [toDocument]
    refine ((toMembers_judged ih).map _).of_found ?_ ?_
    · rintro part ⟨entry, mem, inside⟩
      exact .value mem inside
    · rintro part (_ | _ | ⟨mem, inside⟩)
      · exact .inr rfl
      · exact .inl ⟨_, mem, inside⟩
  | _ =>
    rintro part ⟨⟩
    rfl

/-! ## What is written -/

/-- Items are written one by one. -/
theorem toDocuments_eq_ok {documents : List Document}
    (written : toDocuments set items = .ok documents) :
    List.Forall₂ (fun item document => item.toDocument set = .ok document) items documents := by
  induction items generalizing documents with
  | nil =>
    cases written
    exact .nil
  | cons item items ih =>
    rw [toDocuments] at written
    obtain ⟨document, first, written⟩ := exists_of_bind_eq_ok written
    obtain ⟨rest, others, written⟩ := exists_of_bind_eq_ok written
    cases written
    exact .cons first (ih others)

/-- An entry becomes a member: the document of the value, under the text of the key. -/
def Becomes (set : Document.Setting) (entry : Datum × Datum) (member : String × Document) :
    Prop :=
  member.1 = entry.1.render ∧ entry.2.toDocument set = .ok member.2

/-- Entries are written one by one. -/
theorem toMembers_eq_ok {members : List (String × Document)}
    (written : toMembers set entries = .ok members) :
    List.Forall₂ (Becomes set) entries members := by
  induction entries generalizing members with
  | nil =>
    cases written
    exact .nil
  | cons entry entries ih =>
    rw [toMembers] at written
    obtain ⟨document, first, written⟩ := exists_of_bind_eq_ok written
    obtain ⟨rest, others, written⟩ := exists_of_bind_eq_ok written
    cases written
    exact .cons ⟨rfl, first⟩ (ih others)

/-- **A list is written as the array of the documents of its items.** -/
theorem toDocument_list_eq_ok
    (written : (list handle element items).toDocument set = .ok document) :
    ∃ documents, document = .array documents ∧
      List.Forall₂ (fun item document => item.toDocument set = .ok document) items documents := by
  rw [toDocument] at written
  obtain ⟨documents, found, written⟩ := exists_of_bind_eq_ok written
  cases written
  exact ⟨documents, rfl, toDocuments_eq_ok found⟩

/-- **A dictionary is written as an object made from the members that its entries become.** -/
theorem toDocument_dict_eq_ok
    (written : (dict handle key value entries).toDocument set = .ok document) :
    ∃ members, document = .ofMembers set members ∧ List.Forall₂ (Becomes set) entries members := by
  rw [toDocument] at written
  obtain ⟨members, found, written⟩ := exists_of_bind_eq_ok written
  cases written
  exact ⟨members, rfl, toMembers_eq_ok found⟩

end Datum

end ReactiveScript
