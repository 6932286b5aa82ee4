import ReactiveScript.Proofs.Evaluation.Effect
import ReactiveScript.Proofs.Evaluation.Operation
import ReactiveScript.Proofs.Evaluation.Program
import ReactiveScript.Proofs.Scope.Resolution

/-! # Scopes as maps inside each other

A declaration changes one binding of the innermost scope, an assignment the value of the binding
that its name means, and what fails changes nothing. So a scope that is opened and closed again
leaves the scopes outside it with the names and types that they had, and a variable out there has
another value only if it was assigned one while its name meant it (`Retains`). That holds whatever
happens in between, as long as what is opened inside is closed inside (`ScopeChange.Balanced`), and
wherever the containers change meanwhile. The main statement is `scopes_nest`. -/

namespace ReactiveScript

open Eval

/-! ## Single operations -/

namespace ScopeStack

variable {before after : ScopeStack} {name : String} {value : Value} {binding : Binding}

/-- **What a declaration does**: the innermost scope binds the name. -/
structure Declares (before after : ScopeStack) (name : String) (binding : Binding) : Prop where
  /-- No scope is opened or closed. -/
  depth : after.depth = before.depth
  /-- The innermost scope has the binding. -/
  bound : after.bindingAt before.depth name = some binding
  /-- All other bindings are as before. -/
  others : ∀ depth other, ¬(depth = before.depth ∧ other = name) →
    after.bindingAt depth other = before.bindingAt depth other
  /-- The name means the variable of the innermost scope. -/
  depthOf : after.depthOf name = .ok before.depth

/-- **What an assignment does**: the variable that the name means has another value. -/
structure Assigns (before after : ScopeStack) (name : String) (value : Value) : Prop where
  /-- No scope is opened or closed. -/
  depth : after.depth = before.depth
  /-- The variable has the value. -/
  lookup : after.lookup name = .ok value
  /-- Every name means a variable of the same scope as before. -/
  depthOf : ∀ other, after.depthOf other = before.depthOf other
  /-- All bindings but that which the name means are as before. -/
  others : ∃ depth binding, before.Resolves name depth binding ∧ ∀ inner other,
    ¬(inner = depth ∧ other = name) →
      after.bindingAt inner other = before.bindingAt inner other
  /-- All names have the types that they were declared with. -/
  declared : ∀ depth other, (after.bindingAt depth other).map (·.declared) =
    (before.bindingAt depth other).map (·.declared)

/-- Binding a name is what a declaration does. -/
theorem declares_bind (scopes : ScopeStack) (name : String) (binding : Binding) :
    scopes.Declares (scopes.bind name binding) name binding := by
  have bound : (scopes.bind name binding).bindingAt scopes.depth name = some binding := by
    rw [bindingAt_bind, if_pos ⟨rfl, rfl⟩]
  have deep : (scopes.bind name binding).depth = scopes.depth := by
    induction scopes using ScopeStack.induction <;> rfl
  have resolved : (scopes.bind name binding).Resolves name scopes.depth binding :=
    ⟨bound, fun inner deeper => bindingAt_eq_none (deep ▸ deeper)⟩
  refine ⟨deep, bound, fun depth other elsewhere => ?_, resolved.found.2⟩
  rw [bindingAt_bind, if_neg elsewhere]

/-- A name means a variable of the same scope as long as the same scopes bind it. -/
theorem depthOf_congr (same : ∀ depth,
      (after.bindingAt depth name).isSome = (before.bindingAt depth name).isSome) :
    after.depthOf name = before.depthOf name := by
  have missing {depth : Nat} (h : before.bindingAt depth name = none) :
      after.bindingAt depth name = none := by
    rw [← Option.not_isSome_iff_eq_none, same, h]
    exact nofun
  rcases before.resolves_or_unbound name with ⟨depth, binding, resolved⟩ | unbound
  · obtain ⟨there, bound⟩ : ∃ there, after.bindingAt depth name = some there := by
      rw [← Option.isSome_iff_exists, same, resolved.bound]
      rfl
    have resolved' : after.Resolves name depth there :=
      ⟨bound, fun inner deeper => missing (resolved.nearest inner deeper)⟩
    rw [resolved.found.2, resolved'.found.2]
  · rw [(not_found unbound).2, (not_found fun depth => missing (unbound depth)).2]

/-- Giving a variable a value is what an assignment does. -/
theorem Resolves.assigns {scopes : ScopeStack} {depth : Nat}
    (h : scopes.Resolves name depth binding) (value : Value) :
    scopes.Assigns (scopes.update name value) name value := by
  have declared (inner : Nat) (other : String) :
      ((scopes.update name value).bindingAt inner other).map (·.declared) =
        (scopes.bindingAt inner other).map (·.declared) := by
    rw [h.bindingAt_update]
    split
    · rename_i here
      rw [here.1, here.2, h.bound]
      rfl
    · rfl
  refine ⟨depth_update .., lookup_update value h.found.1, fun other => ?_, ⟨depth, binding, h, ?_⟩,
    declared⟩
  · refine depthOf_congr fun inner => ?_
    rw [← Option.isSome_map (f := (·.declared)), declared, Option.isSome_map]
  · intro inner other elsewhere
    rw [h.bindingAt_update, if_neg elsewhere]

end ScopeStack

/-! ## Operations of a machine -/

namespace Eval

variable {machine after : Machine} {name : String} {value stored : Value} {type : Ty}

/-- A declaration that succeeds. -/
theorem declares_of_declare (h : declare name value type machine = .ok stored after) :
    machine.scopes.Declares after.scopes name ⟨stored, type⟩ := by
  obtain ⟨scopes, store, done, rfl⟩ := scoping_eq_ok h
  obtain ⟨-, rfl⟩ := ScopeStack.declare_eq_ok done
  exact ScopeStack.declares_bind _ _ _

/-- An assignment that succeeds. -/
theorem update_of_assign (h : assign name value machine = .ok stored after) :
    ∃ depth binding, machine.scopes.Resolves name depth binding ∧
      after.scopes = machine.scopes.update name stored := by
  obtain ⟨scopes, store, done, rfl⟩ := scoping_eq_ok h
  obtain ⟨binding, bound, rfl, -⟩ := ScopeStack.assign_eq_ok done
  obtain ⟨depth, resolved⟩ := ScopeStack.resolves_of_binding? bound
  exact ⟨depth, binding, resolved, rfl⟩

/-- **A change of the variables that stops changes nothing.** -/
theorem scoping_eq_error {change : ScopeStack → Alloc (Value × ScopeStack)} {stop : Stop}
    (h : scoping change machine = .error stop after) : after = machine := by
  have opened : (alloc (change machine.scopes) >>= fun result =>
      modify ({ · with scopes := result.2 }) >>= fun _ => Pure.pure result.1) machine =
      .error stop after := h
  simp only [Bind.bind, EStateM.bind, alloc] at opened
  cases ran : (change machine.scopes).run machine.store with
  | error given =>
    rw [ran] at opened
    cases opened
    rfl
  | ok result =>
    rw [ran] at opened
    cases opened

/-- **What a machine answers about a name**, in all the ways that it can be asked: either the name
means one binding, or it is bound nowhere. -/
inductive Answers (machine : Machine) (name : String) : Prop
  /-- Everything finds the one binding, and an assignment that succeeds changes its value. -/
  | bound {depth : Nat} {binding : Binding} (resolves : machine.scopes.Resolves name depth binding)
      (binding? : machine.scopes.binding? name = some binding)
      (contains : machine.scopes.contains name = true)
      (lookup : machine.scopes.lookup name = .ok binding.value)
      (depthOf : machine.scopes.depthOf name = .ok depth)
      (assign : ∀ value stored after, Eval.assign name value machine = .ok stored after →
        after.scopes.bindingAt depth name = some { binding with value := stored })
  /-- Nothing is found, and an assignment fails. -/
  | unbound (nowhere : ∀ depth, machine.scopes.bindingAt depth name = none)
      (binding? : machine.scopes.binding? name = none)
      (contains : machine.scopes.contains name = false)
      (lookup : machine.scopes.lookup name = .error (Cause.undefinedVariable name).fault)
      (depthOf : machine.scopes.depthOf name = .error (Cause.undefinedVariable name).fault)
      (assign : ∀ value, Eval.assign name value machine =
        .error (.fault (Cause.undefinedVariable name).fault) machine)

/-- **All the ways to ask about a name agree.** -/
theorem answers (machine : Machine) (name : String) : Answers machine name := by
  rcases machine.scopes.resolves_or_unbound name with ⟨depth, binding, resolved⟩ | unbound
  · obtain ⟨found, deep⟩ := resolved.found
    refine .bound resolved found ?_ ?_ deep fun value stored after ran => ?_
    · rw [ScopeStack.contains, found]
      rfl
    · rw [ScopeStack.lookup, found]
    · obtain ⟨depth', binding', resolved', updated⟩ := update_of_assign ran
      obtain ⟨rfl, rfl⟩ := resolved.unique resolved'
      rw [updated, (resolved.update stored).bound]
  · obtain ⟨missing, nowhere⟩ := ScopeStack.not_found unbound
    refine .unbound unbound missing ?_ ?_ nowhere fun value => ?_
    · rw [ScopeStack.contains, missing]
      rfl
    · rw [ScopeStack.lookup, missing]
    · have failed : (machine.scopes.assign name value).run machine.store =
          .error (.fault (Cause.undefinedVariable name).fault) := by
        rw [ScopeStack.assign, missing]
        rfl
      change (alloc (machine.scopes.assign name value) >>= fun result =>
        modify ({ · with scopes := result.2 }) >>= fun _ => Pure.pure result.1) machine = _
      simp only [Bind.bind, EStateM.bind, alloc, failed]

end Eval

/-! ## Histories -/

/-- **A change of the scopes**, as evaluation makes them one after the other. -/
inductive ScopeChange
  /-- A scope is opened. -/
  | push
  /-- The innermost scope is closed. -/
  | pop
  /-- A variable is declared. -/
  | declare (name : String) (value : Value) (type : Ty)
  /-- A variable is given a value. -/
  | assign (name : String) (value : Value)
  /-- The containers change. -/
  | elsewhere (store : Store)

/-- The machine after a change, which need not succeed. -/
def Machine.afterChange (machine : Machine) : ScopeChange → Machine
  | .push => { machine with scopes := machine.scopes.push }
  | .pop => { machine with scopes := machine.scopes.pop }
  | .declare name value type => (machine.perform (Eval.declare name value type)).machine
  | .assign name value => (machine.perform (Eval.assign name value)).machine
  | .elsewhere store => { machine with store }

/-- The machine after some changes. -/
def Machine.afterChanges (machine : Machine) (changes : List ScopeChange) : Machine :=
  changes.foldl Machine.afterChange machine

theorem Machine.afterChanges_append (machine : Machine) (first second : List ScopeChange) :
    machine.afterChanges (first ++ second) = (machine.afterChanges first).afterChanges second :=
  List.foldl_append

/-- Changes that close just the scopes that they open. -/
inductive ScopeChange.Balanced : List ScopeChange → Prop
  /-- Nothing happens. -/
  | nil : Balanced []
  /-- A change that neither opens nor closes a scope. -/
  | plain {change : ScopeChange} {rest : List ScopeChange} (notPush : change ≠ .push)
      (notPop : change ≠ .pop) (balanced : Balanced rest) : Balanced (change :: rest)
  /-- A scope is opened and closed again. -/
  | nested {inner rest : List ScopeChange} (within : Balanced inner) (balanced : Balanced rest) :
      Balanced (.push :: (inner ++ .pop :: rest))

/-- **What some changes leave of a name at a depth**: all of it but the value, and that too if none
of them assigns it. -/
inductive Machine.Retains (machine : Machine) (changes : List ScopeChange) (depth : Nat)
    (name : String) : Prop
  /-- Its binding is what it was. -/
  | untouched (same : (machine.afterChanges changes).scopes.bindingAt depth name =
      machine.scopes.bindingAt depth name)
  /-- It has the value of the last assignment that was made while the name meant it, under the type
  that it was declared with. -/
  | assigned {before rest : List ScopeChange} {value stored : Value} {bound binding : Binding}
      {after : Machine} (split : changes = before ++ .assign name value :: rest)
      (meant : (machine.afterChanges before).scopes.Resolves name depth binding)
      (ran : Eval.assign name value (machine.afterChanges before) = .ok stored after)
      (was : machine.scopes.bindingAt depth name = some bound)
      (now : (machine.afterChanges changes).scopes.bindingAt depth name =
        some { bound with value := stored })

namespace Machine

variable {machine : Machine} {changes first second : List ScopeChange} {change : ScopeChange}
  {depth : Nat} {name : String}

/-- What is left of a name has the type that it was declared with. -/
theorem Retains.declared (h : machine.Retains changes depth name) :
    ((machine.afterChanges changes).scopes.bindingAt depth name).map (·.declared) =
      (machine.scopes.bindingAt depth name).map (·.declared) := by
  cases h with
  | untouched same => rw [same]
  | assigned _ _ _ was now =>
    rw [was, now]
    rfl

/-- What is left by some changes after others. -/
theorem Retains.append (h : machine.Retains first depth name)
    (h' : (machine.afterChanges first).Retains second depth name) :
    machine.Retains (first ++ second) depth name := by
  cases h' with
  | untouched same' =>
    cases h with
    | untouched same => exact .untouched (by rw [afterChanges_append, same', same])
    | @assigned before rest value stored bound binding after split meant ran was now =>
      have longer : first ++ second = before ++ .assign name value :: (rest ++ second) := by
        rw [split, List.append_assoc, List.cons_append]
      exact .assigned longer meant ran was (by rw [afterChanges_append, same', now])
  | @assigned before rest value stored bound binding after split meant ran was now =>
    have longer : first ++ second = (first ++ before) ++ .assign name value :: rest := by
      rw [split, List.append_assoc]
    have declared := h.declared
    rw [was] at declared
    obtain ⟨bound', was', type⟩ : ∃ bound', machine.scopes.bindingAt depth name = some bound' ∧
        bound.declared = bound'.declared := by
      cases start : machine.scopes.bindingAt depth name with
      | none =>
        rw [start] at declared
        cases declared
      | some bound' =>
        rw [start] at declared
        exact ⟨bound', rfl, Option.some.inj declared⟩
    rw [← afterChanges_append] at meant ran now
    exact .assigned longer meant ran was' (by rw [now, type])

/-- A change that neither opens nor closes a scope leaves their number. -/
theorem depth_afterChange (notPush : change ≠ .push) (notPop : change ≠ .pop) :
    (machine.afterChange change).scopes.depth = machine.scopes.depth := by
  cases change with
  | push => exact absurd rfl notPush
  | pop => exact absurd rfl notPop
  | elsewhere store => rfl
  | declare name value type =>
    change (machine.perform (Eval.declare name value type)).machine.scopes.depth = _
    unfold perform
    cases ran : Eval.declare name value type machine with
    | ok stored after => exact (Eval.declares_of_declare ran).depth
    | error stop after => rw [Eval.scoping_eq_error ran]
  | assign name value =>
    change (machine.perform (Eval.assign name value)).machine.scopes.depth = _
    unfold perform
    cases ran : Eval.assign name value machine with
    | ok stored after =>
      obtain ⟨depth, binding, resolved, updated⟩ := Eval.update_of_assign ran
      change after.scopes.depth = _
      rw [updated, ScopeStack.depth_update]
    | error stop after => rw [Eval.scoping_eq_error ran]

/-- **A single change leaves the names outside the innermost scope**, whether it opens a scope,
closes the innermost, declares there or assigns. -/
theorem retains_change (outside : depth < machine.scopes.depth) (change : ScopeChange)
    (name : String) : machine.Retains [change] depth name := by
  cases change with
  | push => exact .untouched (ScopeStack.bindingAt_push _ _ _)
  | pop => exact .untouched (ScopeStack.bindingAt_pop outside _)
  | elsewhere store => exact .untouched rfl
  | declare declared value type =>
    refine .untouched ?_
    change (machine.perform (Eval.declare declared value type)).machine.scopes.bindingAt _ _ = _
    unfold perform
    cases ran : Eval.declare declared value type machine with
    | ok stored after =>
      exact (Eval.declares_of_declare ran).others depth name fun same => Nat.ne_of_lt outside same.1
    | error stop after => rw [Eval.scoping_eq_error ran]
  | assign assigned value =>
    have performed : (machine.afterChanges [.assign assigned value]) =
        (machine.perform (Eval.assign assigned value)).machine := rfl
    unfold perform at performed
    cases ran : Eval.assign assigned value machine with
    | error stop after =>
      rw [ran] at performed
      refine .untouched ?_
      rw [performed, Eval.scoping_eq_error ran]
    | ok stored after =>
      rw [ran] at performed
      obtain ⟨meant, binding, resolved, updated⟩ := Eval.update_of_assign ran
      have now := resolved.bindingAt_update stored depth name
      rw [← updated] at now
      -- An assignment may reach an outer scope, but only the binding that it resolves to.
      by_cases same : depth = meant ∧ name = assigned
      · obtain ⟨rfl, rfl⟩ := same
        rw [if_pos ⟨rfl, rfl⟩] at now
        have split : [ScopeChange.assign name value] = [] ++ [.assign name value] := rfl
        exact .assigned split resolved ran resolved.bound (performed ▸ now)
      · rw [if_neg same] at now
        exact .untouched (performed ▸ now)

/-- **Balanced changes leave the names outside the innermost scope**, and they leave as many scopes
as there were. -/
theorem retains_balanced (balanced : ScopeChange.Balanced changes) (machine : Machine) :
    (machine.afterChanges changes).scopes.depth = machine.scopes.depth ∧
      ∀ depth name, depth < machine.scopes.depth → machine.Retains changes depth name := by
  induction balanced generalizing machine with
  | nil => exact ⟨rfl, fun depth name outside => .untouched rfl⟩
  | @plain change rest notPush notPop balanced ih =>
    have same : (machine.afterChange change).scopes.depth = machine.scopes.depth :=
      depth_afterChange notPush notPop
    obtain ⟨deep, retained⟩ := ih (machine.afterChange change)
    refine ⟨deep.trans same, fun depth name outside => ?_⟩
    exact (retains_change outside change name).append (retained depth name (same ▸ outside))
  | @nested inner rest within balanced ihWithin ih =>
    -- the machines before and after the closing; what is further out than the opened scope is
    -- outside at each of the four stages
    let opened := machine.afterChange .push
    let closing := opened.afterChanges inner
    obtain ⟨deepInside, retainedInside⟩ := ihWithin opened
    obtain ⟨deep, retained⟩ := ih (closing.afterChange .pop)
    have opening : opened.scopes.depth = machine.scopes.depth + 1 := rfl
    have closed : (closing.afterChange .pop).scopes.depth = machine.scopes.depth := by
      have one_less : (closing.afterChange .pop).scopes.depth = closing.scopes.depth - 1 :=
        List.length_drop
      rw [one_less, deepInside, opening, Nat.add_sub_cancel]
    have whole : machine.afterChanges (.push :: (inner ++ .pop :: rest)) =
        (closing.afterChange .pop).afterChanges rest := by
      change opened.afterChanges (inner ++ .pop :: rest) = _
      rw [afterChanges_append]
      rfl
    refine ⟨by rw [whole, deep, closed], fun depth name outside => ?_⟩
    have further : depth < opened.scopes.depth := Nat.lt_succ_of_lt outside
    have last : closing.Retains (.pop :: rest) depth name :=
      (retains_change (deepInside ▸ further) .pop name).append
        (retained depth name (closed ▸ outside))
    exact (retains_change outside .push name).append
      ((retainedInside depth name further).append last)

/-- **A scope that is opened and closed again leaves all the scopes outside it.** -/
theorem retains_bracket (balanced : ScopeChange.Balanced changes) (machine : Machine) :
    (machine.afterChanges (.push :: (changes ++ [.pop]))).scopes.depth = machine.scopes.depth ∧
      ∀ depth name, machine.Retains (.push :: (changes ++ [.pop])) depth name := by
  obtain ⟨deep, -⟩ := retains_balanced (.nested balanced .nil) machine
  refine ⟨deep, fun depth name => ?_⟩
  by_cases there : depth ≤ machine.scopes.depth
  · -- seen from inside, even the scope that was the innermost is outside
    let opened := machine.afterChange .push
    obtain ⟨deepInside, retainedInside⟩ := retains_balanced balanced opened
    have outside : depth < opened.scopes.depth := Nat.lt_succ_of_le there
    have opening : machine.Retains [.push] depth name :=
      .untouched (ScopeStack.bindingAt_push _ _ _)
    exact opening.append
      ((retainedInside depth name outside).append (retains_change (deepInside ▸ outside) .pop name))
  · refine .untouched ?_
    rw [ScopeStack.bindingAt_eq_none (deep ▸ Nat.lt_of_not_le there),
      ScopeStack.bindingAt_eq_none (Nat.lt_of_not_le there)]

end Machine

/-- **Scopes behave as maps inside each other.** On every machine, with whatever scopes it has come
to have: a declaration changes the binding of its name in the innermost scope, an assignment the
value of the binding that its name means, and if they fail they change nothing; everything that asks
about a name finds the same binding; opening a scope binds nothing, the scope of the whole program
cannot be closed, and when a scope has been opened and closed again, with anything in between
that closes what it opens, all the scopes outside have the names and types that they had,
and the values but for what was assigned while the name meant just that variable. -/
theorem scopes_nest (machine : Machine) :
    (∀ name value type stored after, Eval.declare name value type machine = .ok stored after →
      machine.scopes.Declares after.scopes name ⟨stored, type⟩) ∧
    (∀ name value stored after, Eval.assign name value machine = .ok stored after →
      machine.scopes.Assigns after.scopes name stored) ∧
    (∀ name value type stop after, Eval.declare name value type machine = .error stop after →
      after = machine) ∧
    (∀ name value stop after, Eval.assign name value machine = .error stop after →
      after = machine) ∧
    (∀ name, Eval.Answers machine name) ∧
    (∀ depth name, machine.scopes.push.bindingAt depth name =
      machine.scopes.bindingAt depth name) ∧
    (machine.scopes.depth = 0 → machine.scopes.pop = machine.scopes) ∧
    (∀ changes, ScopeChange.Balanced changes →
      (machine.afterChanges (.push :: (changes ++ [.pop]))).scopes.depth = machine.scopes.depth ∧
      ∀ depth name, machine.Retains (.push :: (changes ++ [.pop])) depth name ∧
        ((machine.afterChanges (.push :: (changes ++ [.pop]))).scopes.bindingAt depth name).map
            (·.declared) = (machine.scopes.bindingAt depth name).map (·.declared)) := by
  refine ⟨?declare, ?assign, ?declareFails, ?assignFails, ?answers, ?push, ?pop, ?bracket⟩
  case declare =>
    intro name value type stored after ran
    exact Eval.declares_of_declare ran
  case assign =>
    intro name value stored after ran
    obtain ⟨depth, binding, resolved, updated⟩ := Eval.update_of_assign ran
    rw [updated]
    exact resolved.assigns stored
  case declareFails =>
    intro name value type stop after ran
    exact Eval.scoping_eq_error ran
  case assignFails =>
    intro name value stop after ran
    exact Eval.scoping_eq_error ran
  case answers => exact Eval.answers machine
  case push => exact ScopeStack.bindingAt_push machine.scopes
  case pop =>
    intro outermost
    have none_inside : machine.scopes.locals = [] := List.length_eq_zero_iff.mp outermost
    unfold ScopeStack.pop
    rw [none_inside, List.drop_nil, ← none_inside]
  case bracket =>
    intro changes balanced
    obtain ⟨deep, retained⟩ := Machine.retains_bracket balanced machine
    exact ⟨deep, fun depth name => ⟨retained depth name, (retained depth name).declared⟩⟩

/-- A program that has declared `x` and `y`. -/
def twoVariables : Machine :=
  (Machine.initial .standard .bare).afterChanges
    [.declare "x" (.int 1) .int, .declare "y" (.int 2) .int]

/-- In a call `x` is declared anew, and then both variables are given values. -/
def shadowing : List ScopeChange :=
  [.declare "x" (.text "inner") .text, .assign "x" (.text "changed"), .assign "y" (.int 7)]

/-- After the call `x` is what it was, and `y` has the value that it was given there. -/
theorem shadowed_variable_untouched :
    ScopeChange.Balanced shadowing ∧
      (twoVariables.afterChanges (.push :: (shadowing ++ [.pop]))).scopes.depth = 0 ∧
      twoVariables.Retains (.push :: (shadowing ++ [.pop])) 0 "y" ∧
      (twoVariables.afterChanges (.push :: (shadowing ++ [.pop]))).scopes.lookup "x" =
        .ok (.int 1) ∧
      (twoVariables.afterChanges (.push :: (shadowing ++ [.pop]))).scopes.lookup "y" =
        .ok (.int 7) := by
  have balanced : ScopeChange.Balanced shadowing :=
    .plain nofun nofun (.plain nofun nofun (.plain nofun nofun .nil))
  obtain ⟨-, -, -, -, -, -, -, bracket⟩ := scopes_nest twoVariables
  obtain ⟨deep, retained⟩ := bracket shadowing balanced
  exact ⟨balanced, deep, (retained 0 "y").1, by rfl, by rfl⟩

end ReactiveScript
