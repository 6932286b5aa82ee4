import ReactiveScript.Proofs.Regime.Statement

/-! # Programs that come to an end

Without loops that have a condition, what goes on is bounded by the calls inside each other, and
these are bounded by the settings. Functions are looked up in a table that changes while the program
runs, so nothing but the depth of calls gets less from call to call: the regime `Regime.shallow`
counts the calls that may still go on inside each other, and inside a call there is one fewer. Where
no element of a container is assigned and nothing is appended, no container comes to be inside
itself, so that whatever goes through a container comes to an end, too. That no function and no
module has more in it is kept by everything a program does, unless it writes a module that has: then
the machine is spoiled, and so it is if a built-in function has not returned. -/

namespace ReactiveScript

open Eval

/-- A name of a built-in function as a program knows it: any name for a mild one, and `append` for
any other of the language. -/
def Native.Usual (entry : String × Native) : Prop :=
  entry.2.isMild = true ∨ entry.1 = "append" ∧ entry.2.isOwn = true

/-- Before any program the built-in functions have usual names. -/
theorem Native.usual_initial (config : Config) (world : World) :
    ∀ entry ∈ (Machine.initial config world).natives.entries, Native.Usual entry := by
  have usual : ∀ entry ∈ Native.standard.entries,
      entry.2.isMild = true ∨ entry.1 = "append" ∧ entry.2.isOwn = true := by decide
  exact usual

/-- A function with a usual name does not wait for handlers. -/
theorem Native.Usual.ne_settle {entry : String × Native} (usual : Native.Usual entry) :
    entry.2 ≠ .settle := by
  rcases usual with mild | ⟨_, own⟩
  · exact Native.ne_settle_of_isOwn (Native.isOwn_of_isMild mild)
  · exact Native.ne_settle_of_isOwn own

namespace Machine

/-- A built-in function has not returned, or some file has been written so that a module is not
bounded. -/
def Spoiled (machine : Machine) : Prop :=
  machine.world.hung = true ∨ ∃ tree ∈ machine.world.revisions, ¬ tree.Bounded

/-- A machine in order whose declared functions and modules are bounded. -/
structure Confined (machine : Machine) : Prop where
  /-- The machine is in order. -/
  orderly : machine.Orderly
  /-- The declared functions are bounded. -/
  functions : ∀ entry ∈ machine.functions.entries, Stmt.areBounded entry.2.body = true
  /-- The modules are bounded. -/
  files : machine.world.files.Bounded

/-- **A machine with only so many calls left**: its built-in functions have usual names, at most so
many calls can go on inside those that do, and it is in order and its functions and modules are
bounded unless it is spoiled. -/
structure Shallow (machine : Machine) (calls : Nat) : Prop where
  /-- The built-in functions have usual names. -/
  natives : ∀ entry ∈ machine.natives.entries, Native.Usual entry
  /-- So many calls are left. -/
  depth : machine.config.maxCallDepth ≤ machine.context.callDepth + calls
  /-- The machine is in order, and its functions and modules are bounded, unless it is spoiled. -/
  confined : machine.Spoiled ∨ machine.Confined

variable {before after : Machine} {calls : Nat}

/-- A gentle change heals nothing. -/
theorem Spoiled.gentle (spoiled : before.Spoiled) (h : before.Gentle after) : after.Spoiled := by
  have same : after.world.revisions = before.world.revisions :=
    congrArg Footing.revisions h.footing
  unfold Spoiled
  rw [same]
  exact spoiled.imp_left h.hung

/-- A gentle change leaves as many calls if the machine stays in order. -/
theorem Shallow.gentle (shallow : before.Shallow calls) (h : before.Gentle after)
    (known : before.Spoiled ∨ after.Orderly) : after.Shallow calls where
  natives entry mem := (h.natives entry mem).elim (shallow.natives entry) .inl
  depth := by
    have config : after.config = before.config := congrArg Footing.config h.footing
    have deep : after.context.callDepth = before.context.callDepth :=
      congrArg Footing.callDepth h.footing
    rw [config, deep]
    exact shallow.depth
  confined := by
    rcases known with spoiled | orderly
    · exact .inl (spoiled.gentle h)
    · rcases shallow.confined with spoiled | confined
      · exact .inl (spoiled.gentle h)
      · have functions : after.functions = before.functions := congrArg Footing.functions h.footing
        have files : after.world.files = before.world.files := congrArg Footing.files h.footing
        exact .inr ⟨orderly, functions ▸ confined.functions, files ▸ confined.files⟩

/-- A bounded function joins others that are bounded. -/
theorem Confined.insert (confined : before.Confined) {name : String} {function : Function}
    (body : Stmt.areBounded function.body = true) :
    ∀ entry ∈ (before.functions.insert name function).entries,
      Stmt.areBounded entry.2.body = true := by
  intro entry mem
  rcases Table.mem_insert mem with rfl | mem
  · exact body
  · exact confined.functions entry mem

/-- What is known of a function that a call has found. -/
theorem Shallow.found (shallow : before.Shallow calls) {name : String} {function : Function}
    (h : before.functions.find? name = some function) :
    before.Spoiled ∨ Stmt.areBounded function.body = true :=
  shallow.confined.imp_right fun confined => confined.functions _ (Table.mem_of_find? h)

end Machine

open Machine

/-- **The regime of machines with only so many calls left.** Evaluations end unless the machine is
spoiled. -/
def Regime.shallow (calls : Nat) : Regime where
  Ready machine := machine.Shallow calls
  May before after := after.Shallow calls ∧ after.config = before.config ∧
    after.context.callDepth = before.context.callDepth ∧ (before.Spoiled → after.Spoiled)
  Cut _ after := after.Spoiled
  ready_of_may h := h.1
  trans first second := ⟨second.1, second.2.1.trans first.2.1, second.2.2.1.trans first.2.2.1,
    second.2.2.2 ∘ first.2.2.2⟩
  cut_trans _ spoiled := spoiled
  cut_of_may h := h.2.2.2
  orderly ready := ready.confined.imp_right Confined.orderly
  enlarge ready h known := ⟨ready.gentle h.gentle known, congrArg Footing.config h.gentle.footing,
    congrArg Footing.callDepth h.gentle.footing, fun spoiled => spoiled.gentle h.gentle⟩

namespace Regime

variable {calls : Nat} {machine : Machine}

/-- The regime is broad: writing a module that is not bounded spoils the machine, and defining a
function that is not is seen from the program. -/
theorem shallow_broad (calls : Nat) : (Regime.shallow calls).Broad where
  gentle ready h known := ⟨ready.gentle h known, congrArg Footing.config h.footing,
    congrArg Footing.callDepth h.footing, fun spoiled => spoiled.gentle h⟩
  cut_gentle spoiled h := spoiled.gentle h
  -- A built-in function that does not return spoils the machine.
  hang _ := .inl rfl
  write {machine} files ready := by
    have kept (spoiled : machine.Spoiled) : Machine.Spoiled { machine with
        world := { machine.world with
          files, revisions := machine.world.revisions ++ [files] } } :=
      spoiled.imp_right fun ⟨tree, mem, unbounded⟩ => ⟨tree, List.mem_append_left _ mem, unbounded⟩
    refine ⟨⟨ready.natives, ready.depth, ?_⟩, rfl, rfl, kept⟩
    rcases ready.confined with spoiled | confined
    · exact .inl (kept spoiled)
    · -- What is written decides whether the machine is spoiled.
      by_cases harmless : files.Bounded
      · have orderly : Machine.Orderly { machine with
            world := { machine.world with
              files, revisions := machine.world.revisions ++ [files] } } :=
          confined.orderly.of_memory rfl fun _ => .inl
        exact .inr ⟨orderly, confined.functions, harmless⟩
      · exact .inl (.inr ⟨files, List.mem_append_right _ (List.mem_singleton.mpr rfl), harmless⟩)
  define ready bears := by
    refine ⟨⟨ready.natives, ready.depth, ?_⟩, rfl, rfl, id⟩
    rcases bears with spoiled | body
    · exact .inl spoiled
    · exact ready.confined.imp_right fun confined =>
        ⟨confined.orderly.of_memory rfl fun _ => .inl, confined.insert body, confined.files⟩
  note ready _ := by
    refine ⟨⟨ready.natives, ready.depth, ready.confined.imp_right fun confined => ?_⟩, rfl, rfl, id⟩
    exact ⟨confined.orderly.of_memory rfl fun _ => .inl, confined.functions, confined.files⟩
  modules ready := ready.confined.imp_right Confined.files

/-- Where no calls are left, a call is refused. -/
theorem shallow_invoke_zero {run : Runner} {name : String} {function : Function}
    {arguments : List Value} (ready : machine.Shallow 0) :
    (Regime.shallow 0).Obeys (Eval.invoke run name function arguments) machine := by
  have refused : machine.config.maxCallDepth ≤ machine.context.callDepth := ready.depth
  refine Obeys.get ?_
  rw [if_pos refused]
  exact Obeys.fail ready

/-- The bodies within a budget take single steps on the memory. -/
theorem shallow_trusts (calls budget : Nat) : (Regime.shallow calls).Trusts (bodyWithin budget) :=
  .inr (Discipline.soundness.bodyWithin budget)

/-- **A call leaves one fewer call to its body.** -/
theorem shallow_invoke_succ (inside : (Regime.shallow calls).Calls (bodyWithin calls) calls)
    {name : String} {function : Function} {arguments : List Value}
    (ready : machine.Shallow (calls + 1)) (has : (Regime.shallow (calls + 1)).Has machine arguments)
    (body : machine.Spoiled ∨ Stmt.areBounded function.body = true) :
    (Regime.shallow (calls + 1)).Obeys
      (Eval.invoke (bodyWithin (calls + 1)) name function arguments) machine := by
  refine (shallow_broad calls).invoke (shallow_trusts _ _) ready has ?_ ?_ ?_ id
  · -- One deeper, one call fewer is left.
    intro _
    have depth : machine.config.maxCallDepth ≤ machine.context.callDepth + 1 + calls := by
      have := ready.depth
      omega
    refine ⟨⟨ready.natives, depth, ready.confined.imp_right fun confined => ?_⟩, has⟩
    exact ⟨confined.orderly.enter function, confined.functions, confined.files⟩
  · intro started inner entered
    exact (shallow_broad calls).block inside (shallow_trusts _ _) function.body inner
      (body.imp_left entered.2.2.2)
  · rintro final ⟨inner, config, deep, spoiled⟩
    have same : final.config = machine.config := config
    have inside : final.context.callDepth = machine.context.callDepth + 1 := deep
    have depth : final.config.maxCallDepth ≤
        final.context.callDepth - 1 + (calls + 1) := by
      have := ready.depth
      rw [same, inside]
      omega
    refine ⟨⟨inner.natives, depth, ?_⟩, config, ?_, spoiled⟩
    · -- The function stands under its name again, whatever the body did to the name.
      rcases body.imp_left spoiled with spoiled | body
      · exact .inl spoiled
      · refine inner.confined.imp_right fun confined => ⟨?_, confined.insert body, confined.files⟩
        exact confined.orderly.leave machine.context name function
    · change final.context.callDepth - 1 = machine.context.callDepth
      omega

/-- **Calls obey the regime of so many calls left, within a budget of as many.** -/
theorem shallow_calls (calls : Nat) :
    (Regime.shallow calls).Calls (bodyWithin calls) calls := by
  have native {calls : Nat} {machine after : Machine} {name : String} {native : Native}
      {values : List Value} {settle : Eval Unit} (ready : machine.Shallow calls)
      (found : machine.natives.find? name = some native)
      (reached : (Regime.shallow calls).May machine after)
      (has : (Regime.shallow calls).Has after values)
      (other : (Regime.shallow calls).Bears after (name ≠ "append")) :
      (Regime.shallow calls).Obeys (returning (Eval.native settle native ⟨name, values⟩))
        after := by
    have mem := Table.mem_of_find? found
    refine (shallow_broad calls).returning ?_
    refine (shallow_broad calls).native reached.1 has (other.imp_right fun other => ?_)
      fun waits => absurd waits (ready.natives _ mem).ne_settle
    exact (ready.natives _ mem).resolve_right fun unusual => other unusual.1
  induction calls with
  | zero => exact ⟨native, fun _ _ reached _ => shallow_invoke_zero reached.1⟩
  | succ calls ih =>
    refine ⟨native, fun ready found reached has => ?_⟩
    exact shallow_invoke_succ ih reached.1 has ((ready.found found).imp_left reached.2.2.2)

end Regime

/-- Without files there are no modules. -/
theorem FileTree.bounded_empty (root : String) : (FileTree.empty root).Bounded := by
  rintro program ⟨directory, path, found, text, _, located, _⟩
  obtain ⟨entry, mem, _⟩ := Machine.exists_entry_of_fullPath? located
  cases mem

/-- **The bound on the depth of calls makes bounded programs end.** Start from a machine in order,
whose built-in functions are those of the language. Let no declared function have a loop with a
condition, an assignment to an element or a call of `append` in it, nor the program, nor a module
among the files that it starts with or that it writes, and let every built-in function that it calls
return. Then within every budget that is not less than the number of calls that may go on inside
each other, the program ends with a value or a fault: whatever functions it calls, declares and
redeclares, whatever it imports and whatever containers it goes through. No container is inside
itself then. -/
theorem bounded_program_ends {budget : Nat} {statements : List Stmt} {machine : Machine}
    (orderly : machine.Orderly) (natives : ∀ entry ∈ machine.natives.entries, Native.Usual entry)
    (depth : machine.config.maxCallDepth ≤ machine.context.callDepth + budget)
    (functions : ∀ entry ∈ machine.functions.entries, Stmt.areBounded entry.2.body = true)
    (bounded : Stmt.areBounded statements = true)
    (modules : ∀ tree ∈ machine.world.files ::
      (machine.perform (program budget statements)).machine.world.revisions, tree.Bounded)
    (returns : (machine.perform (program budget statements)).machine.world.hung = false) :
    ((∃ value after, program budget statements machine = .ok value after) ∨
      ∃ fault after, program budget statements machine = .error (.fault fault) after) ∧
    (machine.perform (program budget statements)).machine.store.Acyclic := by
  have ready : machine.Shallow budget :=
    ⟨natives, depth, .inr ⟨orderly, functions, modules _ List.mem_cons_self⟩⟩
  have obeys : (Regime.shallow budget).Obeys (topLevel budget .void statements) machine :=
    (Regime.shallow_broad budget).topLevel (Regime.shallow_calls budget)
      (Regime.shallow_trusts _ _) statements ready (.inr bounded)
  -- Every built-in function has returned, and whatever was written holds bounded modules.
  have unspoiled : ¬ (machine.perform (program budget statements)).machine.Spoiled := by
    rintro (hung | ⟨tree, written, unbounded⟩)
    · rw [returns] at hung
      cases hung
    · exact unbounded (modules tree (List.mem_cons_of_mem _ written))
  clear modules returns
  unfold Regime.Obeys at obeys
  unfold Machine.perform program halting at unspoiled ⊢
  cases ended : topLevel budget .void statements machine with
  | ok value after =>
    rw [ended] at obeys unspoiled
    exact ⟨.inl ⟨value, after, rfl⟩, (obeys.1.confined.resolve_left unspoiled).orderly.acyclic⟩
  | error stop after =>
    rw [ended] at obeys unspoiled
    cases stop with
    | fault fault =>
      exact ⟨.inr ⟨fault, _, rfl⟩, (obeys.1.confined.resolve_left unspoiled).orderly.acyclic⟩
    | exhausted =>
      -- A program that is cut off has spoiled the machine, which is ruled out.
      exact absurd obeys unspoiled

/-- A function that goes through a list and calls itself for each item, and a call of it. -/
def recursiveProgram : List Stmt :=
  [.function (.at 1 1) .void "f" []
    [.forEach (.at 2 3) .any "x" (.list (.at 2 12) [.literal (.at 2 13) (.int 1)])
      [.expression (.at 2 20) (.call (.at 2 20) "f" [])]],
   .expression (.at 3 1) (.call (.at 3 1) "f" [])]

/-- A machine on which three calls may go on inside each other. -/
def recursiveMachine : Machine := .initial { Config.standard with maxCallDepth := 3 } .bare

/-- A recursion without an end is ended by the bound on the depth of calls. -/
theorem recursiveProgram_ends :
    ∃ fault after, program 3 recursiveProgram recursiveMachine = .error (.fault fault) after := by
  have unwritten : (recursiveMachine.perform
      (program 3 recursiveProgram)).machine.world.revisions.isEmpty = true := by decide +kernel
  have refused : (recursiveMachine.perform (program 3 recursiveProgram)).result.toBool = false := by
    decide +kernel
  have returns : (recursiveMachine.perform (program 3 recursiveProgram)).machine.world.hung =
      false := by decide +kernel
  have modules : ∀ tree ∈ recursiveMachine.world.files :: (recursiveMachine.perform
      (program 3 recursiveProgram)).machine.world.revisions, tree.Bounded := by
    rw [List.isEmpty_iff.mp unwritten]
    intro tree mem
    rw [List.mem_singleton.mp mem]
    exact FileTree.bounded_empty _
  have depth : recursiveMachine.config.maxCallDepth ≤ recursiveMachine.context.callDepth + 3 :=
    Nat.le_refl 3
  have undeclared : ∀ entry ∈ recursiveMachine.functions.entries,
      Stmt.areBounded entry.2.body = true := fun _ none => nomatch none
  have bounded : Stmt.areBounded recursiveProgram = true := by decide +kernel
  have orderly : recursiveMachine.Orderly := .initial _ _
  have usual : ∀ entry ∈ recursiveMachine.natives.entries, Native.Usual entry :=
    Native.usual_initial _ _
  have ends := bounded_program_ends orderly usual depth undeclared bounded modules returns
  rcases ends.1 with ⟨value, after, ran⟩ | failed
  · rw [Machine.perform, ran] at refused
    cases refused
  · exact failed

end ReactiveScript
