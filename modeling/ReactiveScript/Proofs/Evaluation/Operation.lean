import ReactiveScript.Library.Collection
import ReactiveScript.Library.Exchange
import ReactiveScript.Proofs.Evaluation.Quiet
import ReactiveScript.Value.Cast
import ReactiveScript.Value.Operate
import ReactiveScript.Value.Range

/-! # The operations on containers

Everything that an evaluation does to containers is one of a fixed list of operations. Each is
listed here once, as an `Operation` of a memory, with the values that it takes and those that it
gives: what is proved of every operation holds of whatever a program does to its containers. Most of
them only add containers; a `Making` is one of these. -/

namespace ReactiveScript

/-- What the program and its handlers share: the containers and the variables. -/
structure Memory where
  /-- The containers. -/
  store : Store
  /-- The variables. -/
  scopes : ScopeStack

/-- The memory of a program that has not started. -/
def Memory.fresh : Memory := ⟨.empty, .empty⟩

/-- The memory of a machine. -/
def Machine.memory (machine : Machine) : Memory := ⟨machine.store, machine.scopes⟩

/-- The keys and values of some entries. -/
def entryValues (entries : List (Value × Value)) : List Value :=
  entries.flatMap fun entry => [entry.1, entry.2]

/-- The values in some entries are their keys and their values. -/
theorem mem_entryValues {entries : List (Value × Value)} {value : Value} :
    value ∈ entryValues entries ↔ ∃ entry ∈ entries, value = entry.1 ∨ value = entry.2 := by
  simp [entryValues]

/-- The values that a loop over a value goes through, where they come from a container. -/
def Store.itemsIn (store : Store) : Value → List Value
  | .list handle => (store.list handle).items
  | .dict handle => (store.dict handle).entries.map Prod.fst
  | _ => []

/-- An operation that adds containers at most and leaves alone those that are there, with the values
that it takes and the values among what it gives. -/
inductive Making (memory : Memory) : {α : Type} → Alloc α → List Value → (α → List Value) → Prop
  /-- The value that a declaration without a value gives. -/
  | zero (type : Ty) : Making memory (Value.zeroOf type) [] ([·])
  /-- An implicit conversion. -/
  | convert (type : Ty) (value : Value) : Making memory (Value.coerce type value) [value] ([·])
  /-- An explicit cast. -/
  | cast (type : Ty) (value : Value) : Making memory (Value.cast type value) [value] ([·])
  /-- An arithmetic operator. -/
  | binary (op : BinaryOp) (left right : Value) :
    Making memory (Value.binary op left right) [left, right] ([·])
  /-- A range. -/
  | range (first last step : Int64) (inclusive : Bool) :
    Making memory (Alloc.range first last step inclusive) [] ([·])
  /-- A list that is written out. -/
  | list (items : List Value) : Making memory (Alloc.newList .any items) items ([·])
  /-- A dictionary that is written out. -/
  | dict (entries : List (Value × Value)) :
    Making memory (Alloc.newDict .any .any entries) (entryValues entries) ([·])
  /-- The element at an index. -/
  | index (target position : Value) :
    Making memory (Alloc.index target position) [target, position] ([·])
  /-- A question whether a container holds something. -/
  | contains (container value : Value) :
    Making memory (Alloc.contains container value) [container, value] fun _ => []
  /-- The keys of a dictionary as a list. -/
  | keys (handle : Handle) :
    Making memory
      (Alloc.newList (memory.store.dict handle).key
        ((memory.store.dict handle).entries.map Prod.fst)) [.dict handle] ([·])
  /-- The values of a dictionary as a list. -/
  | values (handle : Handle) :
    Making memory
      (Alloc.newList (memory.store.dict handle).value
        ((memory.store.dict handle).entries.map Prod.snd)) [.dict handle] ([·])
  /-- The items of a list in order, as a list. -/
  | sort (handle : Handle) {items : List Value}
      (sorted : sortValues (memory.store.list handle).items = .ok items) :
    Making memory (Alloc.newList (memory.store.list handle).element items) [.list handle] ([·])
  /-- A part of a list or text. -/
  | slice (sequence : Value) (first last : Int64) :
    Making memory (Alloc.slice sequence first last) [sequence] ([·])
  /-- The variables of the innermost scope as a dictionary. -/
  | localScope : Making memory (Alloc.scopeDict memory.scopes.currentListing) [] ([·])
  /-- The variables of the whole program as a dictionary. -/
  | globalScope : Making memory (Alloc.scopeDict memory.scopes.globalListing) [] ([·])
  /-- A list of texts. -/
  | texts (texts : List String) : Making memory (Alloc.newList .text (texts.map .text)) [] ([·])
  /-- The value of a document. -/
  | document (text : String) : Making memory (Alloc.ofDocumentText text) [] ([·])

/-- A single operation on the containers of a memory, with the values that it takes and the values
among what it gives: one that adds containers, or one that changes a container that is there. -/
inductive Operation (memory : Memory) : {α : Type} → Alloc α → List Value → (α → List Value) → Prop
  /-- Containers are added. -/
  | make {α : Type} {action : Alloc α} {operands : List Value} {results : α → List Value}
      (making : Making memory action operands results) :
    Operation memory action operands results
  /-- An assignment to an item of a list. -/
  | listSet (handle : Handle) (position value : Value) :
    Operation memory (Alloc.listSet handle position value) [.list handle, position, value]
      fun _ => []
  /-- An assignment to a key of a dictionary. -/
  | dictSet (handle : Handle) (key value : Value) :
    Operation memory (Alloc.dictSet handle key value) [.dict handle, key, value] fun _ => []
  /-- One more item of a list. -/
  | listPush (handle : Handle) (value : Value) :
    Operation memory (Alloc.listPush handle value) [.list handle, value] fun _ => []
  /-- Taking something out of a container. -/
  | remove (container value : Value) :
    Operation memory (Alloc.remove container value) [container, value] ([·])
  /-- A note in a list that a watched variable holds it. -/
  | listSubscribe (handle : Handle) (name : String) :
    Operation memory (Alloc.listSubscribe handle name) [.list handle] fun _ => []
  /-- A note in a dictionary that a watched variable holds it. -/
  | dictSubscribe (handle : Handle) (name : String) :
    Operation memory (Alloc.dictSubscribe handle name) [.dict handle] fun _ => []

/-! ## Variables -/

namespace ScopeStack

/-- A declaration binds the converted value. -/
theorem declare_eq_ok {scopes scopes' : ScopeStack} {name : String} {value stored : Value}
    {declared : Ty} {store store' : Store}
    (h : (scopes.declare name value declared).run store = .ok ((stored, scopes'), store')) :
    (Value.coerce declared value).run store = .ok (stored, store') ∧
      scopes' = scopes.bind name ⟨stored, declared⟩ := by
  obtain ⟨⟨converted, after⟩, same, h⟩ := exists_of_bind_eq_ok h
  cases h
  exact ⟨same, rfl⟩

/-- An assignment gives the variable the value itself where the variable takes anything, and else
the value converted to the type of what the variable holds. -/
theorem assign_eq_ok {scopes scopes' : ScopeStack} {name : String} {value stored : Value}
    {store store' : Store}
    (h : (scopes.assign name value).run store = .ok ((stored, scopes'), store')) :
    ∃ binding, scopes.binding? name = some binding ∧ scopes' = scopes.update name stored ∧
      (binding.declared = .any ∧ stored = value ∧ store' = store ∨
        binding.declared ≠ .any ∧
          (Value.coerce (binding.value.typeIn store) value).run store = .ok (stored, store')) := by
  unfold assign at h
  split at h
  · cases h
  · rename_i binding found
    refine ⟨binding, found, ?_⟩
    by_cases any : binding.declared = .any
    · rw [if_pos (by simpa [Ty.isAny] using any)] at h
      cases h
      exact ⟨rfl, .inl ⟨any, rfl, rfl⟩⟩
    · rw [if_neg (by simpa [Ty.isAny] using any)] at h
      obtain ⟨⟨converted, after⟩, same, h⟩ := exists_of_bind_eq_ok h
      cases h
      exact ⟨rfl, .inr ⟨any, same⟩⟩

end ScopeStack

end ReactiveScript
