import ReactiveScript.Proofs.Document.Writing
import ReactiveScript.Proofs.Nesting.Reading

/-! # Writing values as documents

Writing a value goes down its containers, and stops at the first part that has no document. So it
may be refused even where it would otherwise go on for ever. A larger budget keeps every outcome, a
refusal included (`Store.documentWithin_succ`), and what is written or refused within any budget is
so in the end (`Store.document_eq_of_answered`). What has no container inside itself is written as
its tree is (`Store.document_eq`), and every refusal is a type error (`Store.document_typeError`).
-/

namespace ReactiveScript

/-! ## Outcomes that stand -/

/-- What an operation says in the end, nothing if it was cut off. -/
def answer? {α : Type} : Except Stop α → Option (Except Fault α)
  | .ok result => some (.ok result)
  | .error (.fault fault) => some (.error fault)
  | .error .exhausted => none

/-- Outcomes say as much as their answers. -/
theorem answer?_injective {α : Type} : Function.Injective (answer? (α := α)) := by
  intro outcome other same
  match outcome, other with
  | .ok _, .ok _ | .error (.fault _), .error (.fault _) =>
    cases same
    rfl
  | .error .exhausted, .error .exhausted => rfl
  | .ok _, .error (.fault _) | .error (.fault _), .ok _ => cases same
  | .ok _, .error .exhausted | .error .exhausted, .ok _ => cases same
  | .error (.fault _), .error .exhausted | .error .exhausted, .error (.fault _) => cases same

/-- **An outcome that stands**: it was cut off, or the other one is the same. -/
def Stands {α : Type} (outcome other : Except Stop α) : Prop :=
  outcome = .error .exhausted ∨ other = outcome

namespace Stands

variable {α β : Type} {outcome other : Except Stop α} {values : List α}

theorem refl (outcome : Except Stop α) : Stands outcome outcome := .inr rfl

/-- An answer stays. -/
theorem answer {given : Except Fault α} (stands : Stands outcome other)
    (said : answer? outcome = some given) : answer? other = some given := by
  rcases stands with rfl | rfl
  · cases said
  · exact said

/-- Outcomes that stand, one after the other. -/
theorem bind {next next' : α → Except Stop β} (stands : Stands outcome other)
    (follow : ∀ value, Stands (next value) (next' value)) :
    Stands (outcome >>= next) (other >>= next') := by
  rcases stands with rfl | rfl
  · exact .inl rfl
  · cases other with
    | error stop => exact .refl _
    | ok value => exact follow value

/-- Outcomes of many operations stand if each does. -/
theorem mapM {f g : α → Except Stop β} (each : ∀ value, Stands (f value) (g value)) :
    Stands (values.mapM f) (values.mapM g) := by
  induction values with
  | nil => exact .refl _
  | cons value values ih =>
    rw [List.mapM_cons, List.mapM_cons]
    exact (each value).bind fun _ => ih.bind fun _ => .refl _

end Stands

/-- **An outcome whose fault, if it is one, is allowed.** -/
def OnlyFaults {α : Type} (allowed : Fault → Prop) (outcome : Except Stop α) : Prop :=
  ∀ fault, outcome = .error (.fault fault) → allowed fault

namespace OnlyFaults

variable {α β : Type} {allowed : Fault → Prop}

/-- An outcome that is a value. -/
theorem ok {value : α} : OnlyFaults allowed (.ok value) := nofun

/-- A fault that is allowed. -/
theorem fault {fault : Fault} (h : allowed fault) :
    OnlyFaults allowed (.error (.fault fault) : Except Stop α) := by
  rintro raised ⟨⟩
  exact h

/-- What is looked for has no fault. -/
theorem ended (result : Option α) : OnlyFaults allowed (ReactiveScript.ended result) := by
  cases result <;> nofun

/-- One outcome after the other. -/
theorem bind {outcome : Except Stop α} {next : α → Except Stop β}
    (first : OnlyFaults allowed outcome) (second : ∀ value, OnlyFaults allowed (next value)) :
    OnlyFaults allowed (outcome >>= next) := by
  cases outcome with
  | error stop =>
    rintro raised ⟨⟩
    exact first raised rfl
  | ok value => exact second value

/-- The outcomes of many operations. -/
theorem mapM {operation : α → Except Stop β} {values : List α}
    (each : ∀ value, OnlyFaults allowed (operation value)) :
    OnlyFaults allowed (values.mapM operation) := by
  induction values with
  | nil => exact ok
  | cons value rest ih =>
    rw [List.mapM_cons]
    exact (each value).bind fun _ => ih.bind fun _ => ok

end OnlyFaults

namespace Store

variable {store : Store} {value : Value} {budget : Nat} {set : Document.Setting}

/-! ## Budgets -/

/-- A larger budget keeps how writing ends. -/
theorem documentWithin_succ (store : Store) (set : Document.Setting) (budget : Nat)
    (value : Value) :
    Stands (store.documentWithin set budget value)
      (store.documentWithin set (budget + 1) value) := by
  induction budget generalizing value with
  | zero =>
    cases value with
    | list handle | dict handle => exact .inl rfl
    | _ => exact .refl _
  | succ budget ih =>
    cases value with
    | list handle => exact (Stands.mapM ih).bind fun _ => .refl _
    | dict handle =>
      refine (Stands.mapM fun entry => ?_).bind fun _ => .refl _
      exact (Stands.refl _).bind fun _ => (ih entry.2).bind fun _ => .refl _
    | _ => exact .refl _

/-- What is no container that was given out is written within a budget of one, or not at all. -/
theorem documentWithin_one {given : Except Fault Document} (foreign : value ∉ store.containerValues)
    (said : answer? (store.documentWithin set budget value) = some given) :
    answer? (store.documentWithin set 1 value) = some given := by
  cases budget with
  | zero => exact (store.documentWithin_succ set 0 value).answer said
  | succ budget =>
    cases value with
    | list handle =>
      have unknown : ¬ handle < store.lists.size := by simpa [containerValues] using foreign
      simpa [documentWithin, list_of_unknown unknown] using said
    | dict handle =>
      have unknown : ¬ handle < store.dicts.size := by simpa [containerValues] using foreign
      simpa [documentWithin, dict_of_unknown unknown] using said
    | _ => exact said

/-- **What is written or refused within some budget is so in the end.** -/
theorem document_eq_of_answered (ends : store.documentWithin set budget value ≠ .error .exhausted) :
    store.document set value = store.documentWithin set budget value := by
  obtain ⟨given, said⟩ : ∃ given, answer? (store.documentWithin set budget value) = some given := by
    match h : store.documentWithin set budget value with
    | .ok document => exact ⟨.ok document, rfl⟩
    | .error (.fault fault) => exact ⟨.error fault, rfl⟩
    | .error .exhausted => exact absurd h ends
  have keep {budget : Nat} {value : Value} {given : Except Fault Document} :
      answer? (store.documentWithin set budget value) = some given →
        answer? (store.documentWithin set (budget + 1) value) = some given :=
    (store.documentWithin_succ set budget value).answer
  have idle {budget : Nat}
      (same : (fun value => answer? (store.documentWithin set (budget + 1) value))
        = fun value => answer? (store.documentWithin set budget value)) :
      (fun value => answer? (store.documentWithin set (budget + 2) value))
        = fun value => answer? (store.documentWithin set (budget + 1) value) := by
    have same : store.documentWithin set (budget + 1) = store.documentWithin set budget :=
      funext fun value => answer?_injective (congrFun same value)
    funext value
    cases value <;> simp only [documentWithin, same]
  have settled := settled_of_rounds
    (fun budget value => answer? (store.documentWithin set budget value)) store.containerValues
    keep documentWithin_one idle (Nat.le_of_eq (congrArg (· + 1) store.length_containerValues)) said
  exact answer?_injective (settled.trans said.symm)

/-! ## Trees -/

/-- Items are written as their trees are. -/
theorem mapM_eq_toDocuments {f : Value → Except Stop Document} {items : List Value}
    (each : ∀ item ∈ items, f item = ((store.view item).toDocument set).mapError .fault) :
    items.mapM f = (Datum.toDocuments set (items.map store.view)).mapError .fault := by
  induction items with
  | nil => rfl
  | cons item items ih =>
    obtain ⟨first, rest⟩ := List.forall_mem_cons.mp each
    rw [List.mapM_cons, first, ih rest, List.map_cons, Datum.toDocuments]
    cases (store.view item).toDocument set with
    | error fault => rfl
    | ok document => cases Datum.toDocuments set (items.map store.view) <;> rfl

/-- Entries are written as their trees are. -/
theorem mapM_eq_toMembers {write : Value → Except Stop Document} {entries : List (Value × Value)}
    (each : ∀ entry ∈ entries, (store.view entry.1).isCyclic = false ∧
      write entry.2 = ((store.view entry.2).toDocument set).mapError .fault) :
    entries.mapM (store.writeEntry write) =
      (Datum.toMembers set (entries.map fun entry =>
        (store.view entry.1, store.view entry.2))).mapError .fault := by
  induction entries with
  | nil => rfl
  | cons entry entries ih =>
    obtain ⟨⟨acyclic, first⟩, rest⟩ := List.forall_mem_cons.mp each
    rw [List.mapM_cons, ih rest, writeEntry, first, render_eq acyclic, List.map_cons,
      Datum.toMembers]
    cases (store.view entry.2).toDocument set with
    | error fault => rfl
    | ok document =>
      cases Datum.toMembers set (entries.map fun entry =>
        (store.view entry.1, store.view entry.2)) <;> rfl

/-- A number is written as its tree is. -/
theorem writeFloat_eq (x : Float) :
    writeFloat x = ((Datum.float x).toDocument set).mapError .fault := by
  rw [writeFloat, Datum.toDocument]
  split <;> rfl

/-- What has no container inside itself is written within a budget of as many containers as stand
inside each other. -/
theorem documentWithin_eq (acyclic : (store.view value).isCyclic = false)
    (deep : (store.view value).nesting ≤ budget) :
    store.documentWithin set budget value =
      ((store.view value).toDocument set).mapError .fault := by
  induction budget generalizing value with
  | zero =>
    cases value with
    | list handle => simp [view_list acyclic, Datum.nesting] at deep
    | dict handle => simp [view_dict acyclic, Datum.nesting] at deep
    | float x => exact writeFloat_eq x
    | _ => rfl
  | succ budget ih =>
    cases value with
    | list handle =>
      have each : ∀ item ∈ (store.list handle).items, store.documentWithin set budget item
          = ((store.view item).toDocument set).mapError .fault := by
        intro item mem
        obtain ⟨acyclic', less⟩ := view_item acyclic mem
        exact ih acyclic' (by omega)
      rw [documentWithin, mapM_eq_toDocuments each, view_list acyclic, Datum.toDocument]
      cases Datum.toDocuments set ((store.list handle).items.map store.view) <;> rfl
    | dict handle =>
      have each : ∀ entry ∈ (store.dict handle).entries, (store.view entry.1).isCyclic = false ∧
          store.documentWithin set budget entry.2
            = ((store.view entry.2).toDocument set).mapError .fault := by
        intro entry mem
        obtain ⟨⟨key, -⟩, value, less⟩ := view_entry acyclic mem
        exact ⟨key, ih value (by omega)⟩
      rw [documentWithin, mapM_eq_toMembers each, view_dict acyclic, Datum.toDocument]
      cases Datum.toMembers set ((store.dict handle).entries.map fun entry =>
        (store.view entry.1, store.view entry.2)) <;> rfl
    | float x => exact writeFloat_eq x
    | _ => rfl

/-- **What has no container inside itself is written as its tree is.** -/
theorem document_eq (acyclic : (store.view value).isCyclic = false) :
    store.document set value = ((store.view value).toDocument set).mapError .fault := by
  have within : store.documentWithin set _ value =
      ((store.view value).toDocument set).mapError .fault :=
    documentWithin_eq acyclic (Nat.le_refl _)
  rw [← within]
  refine document_eq_of_answered ?_
  rw [within]
  cases (store.view value).toDocument set <;> nofun

/-- Writing what has no container inside itself comes to an end. -/
theorem document_ne_exhausted (acyclic : (store.view value).isCyclic = false) :
    store.document set value ≠ .error .exhausted := by
  rw [document_eq acyclic]
  cases (store.view value).toDocument set <;> nofun

/-- What has no container inside itself is written exactly if its tree is. -/
theorem document_eq_ok_iff (acyclic : (store.view value).isCyclic = false) {document : Document} :
    store.document set value = .ok document ↔ (store.view value).toDocument set = .ok document := by
  rw [document_eq acyclic]
  cases (store.view value).toDocument set with
  | ok found => exact ⟨fun | rfl => rfl, fun | rfl => rfl⟩
  | error fault => exact ⟨nofun, nofun⟩

/-- What has no container inside itself is refused exactly if its tree is. -/
theorem document_eq_fault_iff (acyclic : (store.view value).isCyclic = false) {fault : Fault} :
    store.document set value = .error (.fault fault) ↔
      (store.view value).toDocument set = .error fault := by
  rw [document_eq acyclic]
  cases (store.view value).toDocument set with
  | ok found => exact ⟨nofun, nofun⟩
  | error fault => exact ⟨fun | rfl => rfl, fun | rfl => rfl⟩

/-! ## Refusals -/

/-- **A value is refused because of a complex number or of one that is not finite.** -/
theorem documentWithin_onlyFaults (allowed : Fault → Prop)
    (complex : allowed Cause.jsonComplex.fault)
    (number : ∀ text, allowed (Cause.jsonNumber text).fault) (budget : Nat) (value : Value) :
    OnlyFaults allowed (store.documentWithin set budget value) := by
  have float (x : Float) : OnlyFaults allowed (writeFloat x) := by
    rw [writeFloat]
    split
    · exact .ok
    · exact .fault (number _)
  induction budget generalizing value with
  | zero =>
    cases value with
    | float x => exact float x
    | complex re im => exact .fault complex
    | list handle | dict handle => nofun
    | _ => exact .ok
  | succ budget ih =>
    cases value with
    | list handle => exact (OnlyFaults.mapM ih).bind fun _ => .ok
    | dict handle =>
      refine (OnlyFaults.mapM fun entry => ?_).bind fun _ => .ok
      exact (OnlyFaults.ended _).bind fun _ => (ih entry.2).bind fun _ => .ok
    | float x => exact float x
    | complex re im => exact .fault complex
    | _ => exact .ok

/-- A value is refused with a type error. -/
theorem document_typeError {fault : Fault}
    (refused : store.document set value = .error (.fault fault)) : fault.kind = .typeError :=
  documentWithin_onlyFaults (·.kind = .typeError) rfl (fun _ => rfl) _ value fault refused

end Store

end ReactiveScript
