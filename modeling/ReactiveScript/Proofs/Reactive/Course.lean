import ReactiveScript.Proofs.Reactive.Registry
import ReactiveScript.Proofs.Reactive.Subscription

/-! # The course of registrations and notes

Of all that happens to a machine three kinds of steps matter here: a registration is granted, a
container is noted under a watched name, and anything else, which leaves the tables and the notes
alone (`Machine.Does`). Each is done in one go, whichever line of evaluation does it, so the steps
of a program and its handlers make up one sequence, with the registrations in it in order
(`Machine.Course`). What one step preserves (`Machine.Recorded.does`) gives what holds wherever the
course of a fresh machine leads (`Machine.Course.recorded`). -/

namespace ReactiveScript

/-- **A subscription adds a name to the notes of one container**, and does nothing else. -/
theorem Eval.notes_of_subscribe {name : String} {value : Value} {machine after : Machine}
    (ran : Eval.subscribe name value machine = .ok () after) :
    ∃ store, after = { machine with store } ∧ ∀ container,
      store.noted container = machine.store.noted container ∨
        store.noted container = addName name (machine.store.noted container) := by
  let related (before after : List String) : Prop := after = before ∨ after = addName name before
  cases value with
  | list handle =>
    cases ran
    exact ⟨_, rfl, Store.noted_modifyList related (fun _ => .inl rfl) _ _ fun _ => .inr rfl⟩
  | dict handle =>
    cases ran
    exact ⟨_, rfl, Store.noted_modifyDict related (fun _ => .inl rfl) _ _ fun _ => .inr rfl⟩
  | _ =>
    cases ran
    exact ⟨_, rfl, fun _ => .inl rfl⟩

namespace Machine

/-- The tables of signals and watches of a machine. -/
def registry (machine : Machine) : Registry := ⟨machine.signals, machine.watches⟩

/-- The machine with other tables of signals and watches. -/
def withRegistry (machine : Machine) (registry : Registry) : Machine :=
  { machine with signals := registry.signals, watches := registry.watches }

/-- **Neither the tables nor the notes are touched**, and the built-in functions that are new are
those of the language. -/
structure Aside (before after : Machine) : Prop where
  /-- The tables are as before. -/
  registry : after.registry = before.registry
  /-- The notes in containers are as before. -/
  notes : before.store.SameNotes after.store
  /-- New built-in functions are functions of the language. -/
  natives : ∀ entry ∈ after.natives.entries,
    entry ∈ before.natives.entries ∨ entry.2.isOwn = true

/-- **A single step**, with the registration that it makes, if it makes one. -/
inductive Does (before : Machine) : List Registration → Machine → Prop
  /-- Anything that leaves the tables and the notes alone. -/
  | aside {after : Machine} (h : before.Aside after) : Does before [] after
  /-- A registration is granted. -/
  | enter {registration : Registration} {registry : Registry}
      (granted : before.registry.enter registration = .ok registry) :
    Does before [registration] (before.withRegistry registry)
  /-- A container is noted under a watched name. -/
  | note {name : String} {value : Value} {after : Machine}
      (watched : before.watches.isWatched name = true)
      (ran : Eval.subscribe name value before = .ok () after) : Does before [] after

/-- **A sequence of steps**, with the registrations that they make, in order. -/
inductive Course (start : Machine) : List Registration → Machine → Prop
  /-- Nothing has happened. -/
  | refl : Course start [] start
  /-- One more step. -/
  | tail {log added : List Registration} {machine after : Machine}
      (course : Course start log machine) (does : machine.Does added after) :
    Course start (log ++ added) after

variable {start before middle after : Machine} {log added : List Registration}

namespace Aside

/-- Doing nothing is aside. -/
theorem refl (machine : Machine) : Aside machine machine :=
  ⟨rfl, fun _ => rfl, fun _ mem => .inl mem⟩

/-- Two changes aside are one. -/
theorem trans (first : Aside before middle) (second : Aside middle after) :
    Aside before after where
  registry := second.registry.trans first.registry
  notes container := (second.notes container).trans (first.notes container)
  natives entry mem := by
    rcases second.natives entry mem with mem | own
    · exact first.natives entry mem
    · exact .inr own

end Aside

namespace Course

/-- A single step. -/
theorem single (does : start.Does added after) : start.Course added after :=
  .tail .refl does

/-- A change aside. -/
theorem aside (h : start.Aside after) : start.Course [] after := .single (.aside h)

/-- One sequence after the other. -/
theorem trans (first : start.Course log middle) (second : middle.Course added after) :
    start.Course (log ++ added) after := by
  induction second with
  | refl => rwa [List.append_nil]
  | tail _ does ih =>
    rw [← List.append_assoc]
    exact .tail ih does

/-- A sequence of steps after a change aside. -/
theorem after_aside (h : start.Aside middle) (rest : middle.Course log after) :
    start.Course log after := (aside h).trans rest

/-- A change aside after a sequence of steps. -/
theorem before_aside (course : start.Course log middle) (h : middle.Aside after) :
    start.Course log after := by
  rw [← List.append_nil log]
  exact course.trans (aside h)

end Course

/-! ## What the steps preserve -/

/-- **A machine has recorded some registrations**: its tables record them exactly, and every
container has its notes under different names, each of which a watch was registered for. -/
structure Recorded (machine : Machine) (log : List Registration) : Prop where
  /-- The tables record the registrations. -/
  registry : machine.registry.Records log
  /-- No name is noted twice in a container. -/
  nodup (container : Value) : (machine.store.noted container).Nodup
  /-- Only names are noted that a watch was registered for. -/
  watched (container : Value) : ∀ name ∈ machine.store.noted container,
    ∃ depth body, .watch name depth body ∈ log

/-- Before any program nothing is recorded. -/
theorem recorded_initial (config : Config) (world : World) :
    (Machine.initial config world).Recorded [] where
  registry := Registry.records_empty
  nodup container := by cases container <;> exact List.nodup_nil
  watched container name mem := by cases container <;> cases mem

namespace Recorded

/-- What is recorded stays recorded where the tables and the notes are left alone. -/
theorem aside (recorded : before.Recorded log) (h : before.Aside after) : after.Recorded log where
  registry := h.registry ▸ recorded.registry
  nodup container := by
    rw [h.notes container]
    exact recorded.nodup container
  watched container := by
    rw [h.notes container]
    exact recorded.watched container

/-- A registration that is granted is recorded behind the others, and the notes stay covered. -/
theorem enter (recorded : before.Recorded log) {registration : Registration} {registry : Registry}
    (granted : before.registry.enter registration = .ok registry) :
    (before.withRegistry registry).Recorded (log ++ [registration]) where
  registry := recorded.registry.enter granted
  nodup := recorded.nodup
  watched container name mem := by
    obtain ⟨depth, body, registered⟩ := recorded.watched container name mem
    exact ⟨depth, body, List.mem_append_left _ registered⟩

/-- A name that is watched may be noted anywhere. -/
theorem note (recorded : before.Recorded log) {name : String} {value : Value}
    (watched : before.watches.isWatched name = true)
    (ran : Eval.subscribe name value before = .ok () after) : after.Recorded log := by
  obtain ⟨store, rfl, notes⟩ := Eval.notes_of_subscribe ran
  refine ⟨recorded.registry, fun container => ?_, fun container other mem => ?_⟩
  · change (store.noted container).Nodup
    rcases notes container with same | added
    · rw [same]
      exact recorded.nodup container
    · rw [added]
      exact (notesKept_addName name _).nodup (recorded.nodup container)
  · change other ∈ store.noted container at mem
    rcases notes container with same | added
    · exact recorded.watched container other (same ▸ mem)
    · rcases mem_of_mem_addName (added ▸ mem) with rfl | old
      · exact recorded.registry.isWatched_iff.mp watched
      · exact recorded.watched container other old

/-- **Every single step records what it registers.** -/
theorem does (recorded : before.Recorded log) (h : before.Does added after) :
    after.Recorded (log ++ added) := by
  cases h with
  | aside h =>
    rw [List.append_nil]
    exact recorded.aside h
  | enter granted => exact recorded.enter granted
  | note watched ran =>
    rw [List.append_nil]
    exact recorded.note watched ran

/-- What was recorded before some steps is recorded in front of what they register. -/
theorem course (recorded : start.Recorded log) (course : start.Course added after) :
    after.Recorded (log ++ added) := by
  induction course with
  | refl => rwa [List.append_nil]
  | tail _ does ih =>
    rw [← List.append_assoc]
    exact ih.does does

end Recorded

/-- **Wherever the course of a fresh machine leads, it has recorded what was registered on the
way.** -/
theorem Course.recorded {config : Config} {world : World}
    (course : (Machine.initial config world).Course log after) : after.Recorded log :=
  (recorded_initial config world).course course

end Machine

end ReactiveScript
