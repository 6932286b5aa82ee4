import ReactiveScript.Proofs.Store.Growth
import ReactiveScript.Proofs.Store.Reachable

/-! # The names noted in containers

A container keeps the names of the watched variables that hold or held it. Whatever a program and
its handlers do to the memory that they share, no name that was noted is lost and none is noted
twice. `Operation.remembers` says so of every operation on containers, `Memory.Step.remembers` of
every step, and `Memory.Reachable.nodup_noted` draws the conclusion for every reachable memory. -/

namespace ReactiveScript

/-! ## Lists of names -/

/-- **How notes may change**: no name is lost, and where no name stands twice, none does later. -/
structure NotesKept (before after : List String) : Prop where
  /-- No name is lost. -/
  subset : before ⊆ after
  /-- No name is repeated. -/
  nodup : before.Nodup → after.Nodup

/-- Notes may stay as they are. -/
theorem NotesKept.refl (names : List String) : NotesKept names names :=
  ⟨List.Subset.refl names, id⟩

/-- Notes may change twice. -/
theorem NotesKept.trans {before middle after : List String} (first : NotesKept before middle)
    (second : NotesKept middle after) : NotesKept before after :=
  ⟨List.Subset.trans first.subset second.subset, second.nodup ∘ first.nodup⟩

/-- A name that is added is there. -/
theorem mem_addName (name : String) (names : List String) : name ∈ addName name names := by
  unfold addName
  split
  · rename_i present
    exact List.contains_iff_mem.mp present
  · exact List.mem_append_right _ (List.mem_singleton.mpr rfl)

/-- A name among some others to which one was added is that one, or was there. -/
theorem mem_of_mem_addName {name other : String} {names : List String}
    (mem : other ∈ addName name names) : other = name ∨ other ∈ names := by
  unfold addName at mem
  split at mem
  · exact .inr mem
  · exact (List.mem_append.mp mem).symm.imp_left List.mem_singleton.mp

/-- A name is added unless it is there, so it is not repeated. -/
theorem notesKept_addName (name : String) (names : List String) :
    NotesKept names (addName name names) := by
  unfold addName
  split
  · exact .refl names
  · rename_i absent
    refine ⟨List.subset_append_left .., fun once => List.nodup_append.mpr ⟨once, by simp, ?_⟩⟩
    rintro other mem new same rfl
    rw [List.mem_singleton] at same
    exact absent (List.contains_iff_mem.mpr (same ▸ mem))

/-! ## Stores -/

namespace Store

/-- The names noted in a container. -/
def noted (store : Store) : Value → List String
  | .list handle => (store.list handle).subscribers
  | .dict handle => (store.dict handle).subscribers
  | _ => []

/-- **What a store remembers**: the notes in every container are kept. -/
def Remembers (before after : Store) : Prop :=
  ∀ container, NotesKept (before.noted container) (after.noted container)

variable {store before middle after : Store}

/-- A store remembers itself. -/
theorem Remembers.refl (store : Store) : store.Remembers store := fun _ => .refl _

/-- A store may change twice. -/
theorem Remembers.trans (first : before.Remembers middle) (second : middle.Remembers after) :
    before.Remembers after :=
  fun container => (first container).trans (second container)

/-- **What a store may do without noting anything**: the notes in every container stay as they
are. -/
def SameNotes (before after : Store) : Prop :=
  ∀ container, after.noted container = before.noted container

/-- Where nothing is noted, the notes are kept. -/
theorem SameNotes.remembers (same : before.SameNotes after) : before.Remembers after := by
  intro container
  rw [same container]
  exact .refl _

/-- A new list has no notes, and those in other containers stay. -/
theorem sameNotes_pushList (store : Store) (element : Ty) (items : List Value) :
    store.SameNotes { store with lists := store.lists.push ⟨element, items, []⟩ } := by
  intro container
  cases container with
  | list handle =>
    simp only [noted, list_push]
    split
    · rename_i same
      simp [Store.list, same]
    · rfl
  | _ => rfl

/-- A new dictionary has no notes, and those in other containers stay. -/
theorem sameNotes_pushDict (store : Store) (key value : Ty) (entries : List (Value × Value)) :
    store.SameNotes { store with dicts := store.dicts.push ⟨key, value, entries, []⟩ } := by
  intro container
  cases container with
  | dict handle =>
    simp only [noted, dict_push]
    split
    · rename_i same
      simp [Store.dict, same]
    · rfl
  | _ => rfl

section Change

variable (related : List String → List String → Prop) (stay : ∀ names, related names names)

include stay

/-- The notes after a list is changed are related to those before as the change relates them. -/
theorem noted_modifyList (store : Store) (handle : Handle) {change : ListCell → ListCell}
    (kept : ∀ cell, related cell.subscribers (change cell).subscribers) (container : Value) :
    related (store.noted container) ((store.modifyList handle change).noted container) := by
  cases container with
  | list other =>
    by_cases known : handle < store.lists.size
    · simp only [noted, list_modifyList known]
      split
      · rename_i same
        exact same ▸ kept _
      · exact stay _
    · rw [modifyList_of_unknown known]
      exact stay _
  | _ => exact stay _

/-- The notes after a dictionary is changed are related to those before as the change relates
them. -/
theorem noted_modifyDict (store : Store) (handle : Handle) {change : DictCell → DictCell}
    (kept : ∀ cell, related cell.subscribers (change cell).subscribers) (container : Value) :
    related (store.noted container) ((store.modifyDict handle change).noted container) := by
  cases container with
  | dict other =>
    by_cases known : handle < store.dicts.size
    · simp only [noted, dict_modifyDict known]
      split
      · rename_i same
        exact same ▸ kept _
      · exact stay _
    · rw [modifyDict_of_unknown known]
      exact stay _
  | _ => exact stay _

end Change

/-- A list whose items are changed keeps its notes. -/
theorem sameNotes_modifyList (store : Store) (handle : Handle) {change : ListCell → ListCell}
    (kept : ∀ cell, (change cell).subscribers = cell.subscribers) :
    store.SameNotes (store.modifyList handle change) :=
  noted_modifyList (fun before after => after = before) (fun _ => rfl) store handle kept

/-- A dictionary whose entries are changed keeps its notes. -/
theorem sameNotes_modifyDict (store : Store) (handle : Handle) {change : DictCell → DictCell}
    (kept : ∀ cell, (change cell).subscribers = cell.subscribers) :
    store.SameNotes (store.modifyDict handle change) :=
  noted_modifyDict (fun before after => after = before) (fun _ => rfl) store handle kept

end Store

/-- The notes in the containers that were there are kept. -/
def Store.Growth.notes : Store.Growth where
  Leads := Store.Remembers
  refl := .refl
  trans := .trans
  pushList store element items := (store.sameNotes_pushList element items).remembers
  pushDict store key value entries := (store.sameNotes_pushDict key value entries).remembers

/-- Nothing is noted in any container. -/
def Store.Growth.sameNotes : Store.Growth where
  Leads := Store.SameNotes
  refl _ _ := rfl
  trans first second container := (second container).trans (first container)
  pushList := Store.sameNotes_pushList
  pushDict := Store.sameNotes_pushDict

/-! ## Operations -/

namespace Alloc

variable {α : Type} {growth : Store.Growth} {store : Store} {handle : Handle}

/-- An operation that keeps the notes of a store, if it leads anywhere. -/
abbrev Remembers (action : Alloc α) (store : Store) : Prop := action.Along .notes store

/-- An operation that notes nothing keeps the notes. -/
theorem Along.remembers {action : Alloc α} (h : action.Along .sameNotes store) :
    action.Remembers store :=
  fun result after ran => Store.SameNotes.remembers (h result after ran)

/-- An assignment to an item. -/
theorem listSet_sameNotes (position value : Value) :
    (listSet handle position value).Along .sameNotes store := by
  refine .get (.bind (Value.coerce_along _ _ store) fun stored after => .get ?_)
  refine .bind .outcome fun place later => .change ?_
  exact later.sameNotes_modifyList handle fun cell => rfl

/-- One more item. -/
theorem listPush_sameNotes (value : Value) : (listPush handle value).Along .sameNotes store := by
  refine .get (.bind (Value.coerce_along _ _ store) fun stored after => .change ?_)
  exact after.sameNotes_modifyList handle fun cell => rfl

/-- An assignment to a key. -/
theorem dictSet_sameNotes (key value : Value) :
    (dictSet handle key value).Along .sameNotes store := by
  refine .get (.bind (Value.coerce_along _ _ store) fun storedKey middle => .get ?_)
  refine .bind (Value.coerce_along _ _ middle) fun stored after => .get ?_
  exact .looked fun entries => .set (after.sameNotes_modifyDict handle fun cell => rfl)

/-- Taking something out of a container. -/
theorem remove_sameNotes (container value : Value) :
    (Alloc.remove container value).Along .sameNotes store := by
  cases container with
  | list handle =>
    refine .bind ?_ fun _ _ => .pure
    unfold listRemove
    refine .get (.looked fun found => ?_)
    cases found with
    | none => exact .pure
    | some items =>
      refine .bind (.set ?_) fun _ _ => .pure
      exact store.sameNotes_modifyList handle fun cell => rfl
  | dict handle =>
    refine .bind ?_ fun _ _ => .pure
    unfold dictRemove
    refine .get (.looked fun found => ?_)
    cases found with
    | none => exact .pure
    | some removed =>
      refine .bind (.set ?_) fun _ _ => .pure
      exact store.sameNotes_modifyDict handle fun cell => rfl
  | _ => exact .fail

end Alloc

/-- **Every operation keeps the notes.** -/
theorem Operation.remembers {memory : Memory} {α : Type} {action : Alloc α} {operands : List Value}
    {results : α → List Value} (op : Operation memory action operands results) (store : Store) :
    action.Remembers store := by
  cases op with
  | make making => exact making.along store
  | listSet handle position value => exact (Alloc.listSet_sameNotes position value).remembers
  | dictSet handle key value => exact (Alloc.dictSet_sameNotes key value).remembers
  | listPush handle value => exact (Alloc.listPush_sameNotes value).remembers
  | remove container value => exact (Alloc.remove_sameNotes container value).remembers
  | listSubscribe handle name =>
    refine .change (Store.noted_modifyList NotesKept .refl store handle ?_)
    exact fun cell => notesKept_addName _ _
  | dictSubscribe handle name =>
    refine .change (Store.noted_modifyDict NotesKept .refl store handle ?_)
    exact fun cell => notesKept_addName _ _

/-! ## Steps -/

namespace Memory

variable {memory after : Memory}

/-- **Every step keeps the notes.** -/
theorem Step.remembers (step : Step memory after) : memory.store.Remembers after.store := by
  have kept (type : Ty) (value : Value) : (value.coerce type).Remembers memory.store :=
    Value.coerce_along type value memory.store
  cases step with
  | push | pop => exact .refl _
  | declare held ran =>
    obtain ⟨converted, _⟩ := ScopeStack.declare_eq_ok ran
    exact kept _ _ _ _ converted
  | assign held ran =>
    obtain ⟨binding, _, _, ⟨_, _, rfl⟩ | ⟨_, converted⟩⟩ := ScopeStack.assign_eq_ok ran
    · exact .refl _
    · exact kept _ _ _ _ converted
  | operate op held ran => exact op.remembers _ _ _ ran

/-- **Any number of steps keeps the notes.** -/
theorem remembers_of_steps (steps : Relation.ReflTransGen Step memory after) :
    memory.store.Remembers after.store := by
  induction steps with
  | refl => exact .refl _
  | tail _ step ih => exact ih.trans step.remembers

/-- **In a reachable memory no name is noted twice in a container.** -/
theorem Reachable.nodup_noted (reachable : memory.Reachable) (container : Value) :
    (memory.store.noted container).Nodup := by
  refine (remembers_of_steps reachable container).nodup ?_
  cases container <;> exact List.nodup_nil

end Memory

end ReactiveScript
