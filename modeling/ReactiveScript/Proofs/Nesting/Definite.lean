import ReactiveScript.Proofs.Document.Ending
import ReactiveScript.Proofs.Nesting.Casting
import ReactiveScript.Proofs.Store.Reachable

/-! # Definite types and containers that hold themselves

Nothing that reads, compares, writes or casts a value looks out for cycles. On a container of a
definite type all of them come to an end: the container is no deeper than its type, so a budget of
as many containers as the type nests is enough. Only a container of a type that leaves something
open can be inside itself, and going through one never ends. This holds of every memory that a
program comes to (`memory_wellNested`). -/

namespace ReactiveScript

namespace Store

variable {store : Store}

/-- **A well-nested store.** Containers of definite types come to an end, whoever goes through them,
and a container that is inside itself is of a type that leaves something open. -/
structure WellNested (store : Store) : Prop where
  /-- A container of a definite type is not inside itself. -/
  apart : ∀ container : Container, store.Definite container.value →
    ¬ store.Within container container
  /-- It is no deeper than its type. -/
  shallow : ∀ container : Container, store.Definite container.value →
    (store.view container.value).isCyclic = false ∧
      (store.view container.value).nesting ≤ (container.value.typeIn store).nesting
  /-- It is read to its end, so that its texts are made. -/
  read : ∀ container : Container, store.Definite container.value → ∀ budget,
    (container.value.typeIn store).nesting ≤ budget →
      ∃ tree, store.readWithin budget container.value = some tree ∧
        store.render container.value = some tree.render ∧
        tree.inner = (store.view container.value).inner
  /-- It is written as a document, or refused. -/
  written : ∀ container : Container, store.Definite container.value → ∀ set budget,
    (container.value.typeIn store).nesting ≤ budget →
      store.documentWithin set budget container.value = store.document set container.value ∧
        store.document set container.value ≠ .error .exhausted
  /-- It is compared with anything, from either side. -/
  compared : ∀ container : Container, store.Definite container.value → ∀ other budget,
    (container.value.typeIn store).nesting ≤ budget →
      (∃ answer, store.sameWithin none budget container.value other = some answer ∧
        store.same container.value other = some answer) ∧
      ∃ answer, store.sameWithin none budget other container.value = some answer ∧
        store.same other container.value = some answer
  /-- The comparison tells whether it is the same as what has no container inside itself. -/
  answered : ∀ container : Container, store.Definite container.value → ∀ other,
    (store.view other).isCyclic = false →
      store.same container.value other =
          some ((store.view container.value).same (store.view other)) ∧
        store.same other container.value =
          some ((store.view other).same (store.view container.value))
  /-- Every cast of it comes to an end, and so does every conversion. -/
  cast : ∀ container : Container, store.Definite container.value → ∀ type,
    (Value.cast type container.value).run store ≠ .error .exhausted ∧
      (Value.coerce type container.value).run store ≠ .error .exhausted
  /-- A container inside itself is not of a definite type, and is never read to its end. -/
  cycles : ∀ container : Container, store.Within container container →
    ¬ store.Definite container.value ∧
      (∀ budget, store.readWithin budget container.value = none) ∧
      store.render container.value = none

/-- **A sound store is well nested.** -/
theorem Sound.wellNested (sound : store.Sound) : store.WellNested where
  apart container definite := sound.not_within_self definite
  shallow container definite :=
    ⟨(sound.whole_of_definite definite).acyclic, sound.nesting_view_le definite⟩
  read container definite budget deep := by
    have acyclic := (sound.whole_of_definite definite).acyclic
    have depth := sound.nesting_view_le definite
    exact ⟨_, readWithin_eq acyclic (Nat.le_trans depth deep), render_eq acyclic, rfl⟩
  written container definite set budget deep := by
    have acyclic := (sound.whole_of_definite definite).acyclic
    have depth := sound.nesting_view_le definite
    refine ⟨?_, document_ne_exhausted acyclic⟩
    rw [documentWithin_eq acyclic (Nat.le_trans depth deep), document_eq acyclic]
  compared container definite other budget deep := by
    have acyclic := (sound.whole_of_definite definite).acyclic
    have depth := sound.nesting_view_le definite
    have opened : (store.readWithin budget container.value).isSome = true :=
      Option.isSome_of_mem (readWithin_eq acyclic (Nat.le_trans depth deep))
    -- What is told within some budget is told in the end.
    have told {left right : Value}
        (ends : (store.sameWithin none budget left right).isSome = true) :
        ∃ answer, store.sameWithin none budget left right = some answer ∧
          store.same left right = some answer := by
      obtain ⟨answer, found⟩ := Option.isSome_iff_exists.mp ends
      exact ⟨answer, found, sameBeside_eq_some_iff.mpr ⟨budget, found⟩⟩
    exact ⟨told (isSome_sameWithin (.inl opened)), told (isSome_sameWithin (.inr opened))⟩
  answered container definite other acyclic' := by
    have acyclic := (sound.whole_of_definite definite).acyclic
    exact ⟨same_eq acyclic acyclic', same_eq acyclic' acyclic⟩
  cast container definite type := by
    have whole := sound.whole_of_definite definite
    exact ⟨(Value.cast_ends type whole).ne_exhausted, (Value.coerce_ends type whole).ne_exhausted⟩
  cycles container within := by
    refine ⟨fun definite => sound.not_within_self definite within, readWithin_eq_none within, ?_⟩
    rw [render, read_eq_none within, Option.map_none]

end Store

/-- **Containers of definite types never hold themselves**, and going through them comes to an end:
in every memory that some interleaving of single steps leads to, and so in the memory of every
machine that a fresh interpreter comes to. -/
theorem memory_wellNested :
    (∀ memory : Memory, memory.Reachable → memory.store.WellNested) ∧
      ∀ machine : Machine, machine.Reached →
        machine.memory.Reachable ∧ machine.memory.store.WellNested :=
  ⟨fun _ reachable => reachable.sound.store.wellNested,
    fun _ reached => ⟨reached.good.2.2, reached.good.2.1.store.wellNested⟩⟩

/-- A machine after a program that makes a list of lists of integers, and a list of anything that it
then puts into itself. -/
def selfHolding : Machine :=
  ((Machine.initial .standard .bare).perform
    (Eval.source 9 "list<list<int>> a = [[1]]; list b = [0]; b[0] = b;")).machine

/-- The first list is of a definite type and is read to its end; the other is inside itself, and is
not. -/
theorem selfHolding_wellNested :
    selfHolding.store.Definite (.list 3) ∧ selfHolding.store.Within (.list 4) (.list 4) ∧
      ¬ selfHolding.store.Within (.list 3) (.list 3) ∧
      (∃ tree, selfHolding.store.readWithin 2 (.list 3) = some tree) ∧
      ¬ selfHolding.store.Definite (.list 4) ∧
      ∀ budget, selfHolding.store.readWithin budget (.list 4) = none := by
  have nested := (memory_wellNested.2 selfHolding (.source 9 _ (.initial .standard .bare))).2
  have definite : selfHolding.store.Definite (.list 3) := by
    unfold Store.Definite
    decide +kernel
  have within : selfHolding.store.Within (.list 4) (.list 4) :=
    .single (Store.contains_list_iff.mpr (by decide +kernel))
  obtain ⟨tree, read, -⟩ := nested.read (.list 3) definite 2 (by decide +kernel)
  obtain ⟨indefinite, unread, -⟩ := nested.cycles (.list 4) within
  exact ⟨definite, within, nested.apart (.list 3) definite, ⟨tree, read⟩, indefinite, unread⟩

end ReactiveScript
