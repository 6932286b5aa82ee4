import ReactiveScript.Proofs.Evaluation.Program

/-! # Balanced calls

A call opens a scope, counts itself and moves to the module of its function; however it ends, all of
this is undone. As long as no handlers run in between, an expression leaves every scope with the
names and declared types that it had (`Machine.Framed`), and a statement can only add to the
innermost scope (`Machine.Balanced`). The functions are the exception: a call restores the one that
it went to, whatever its body made of the name. -/

namespace ReactiveScript

/-! ## What the scopes declare -/

/-- The names of a scope with the types that they were declared with. -/
def Scope.signature (scope : Scope) : List (String × Ty) :=
  scope.entries.map fun entry => (entry.1, entry.2.declared)

/-- Giving a name of a scope another value declares nothing. -/
theorem Scope.signature_insert {scope : Scope} {name : String} {binding : Binding} (value : Value)
    (h : scope.find? name = some binding) :
    Scope.signature (scope.insert name { binding with value }) = scope.signature := by
  obtain ⟨entries⟩ := scope
  simp only [Scope.signature, Table.find?, Table.insert] at h ⊢
  -- The entry is replaced where it is found, with the type that it was declared with.
  induction entries with
  | nil => cases h
  | cons entry rest ih =>
    obtain ⟨other, old⟩ := entry
    unfold Table.findEntry at h
    unfold Table.insertEntry
    by_cases same : name = other
    · rw [if_pos same] at h ⊢
      cases h
      subst same
      rfl
    · rw [if_neg same] at h ⊢
      rw [List.map_cons, List.map_cons, ih h]

namespace ScopeStack

/-- What every scope declares, innermost first; the last one is that of the whole program. -/
def signatures (scopes : ScopeStack) : List (List (String × Ty)) :=
  (scopes.locals ++ [scopes.globals]).map Scope.signature

/-- There is one more scope than stand over the globals. -/
theorem length_signatures (scopes : ScopeStack) : scopes.signatures.length = scopes.depth + 1 := by
  rw [signatures, List.length_map, List.length_append]
  rfl

/-- Opening a scope leaves those below it alone. -/
theorem tail_signatures_push (scopes : ScopeStack) :
    scopes.push.signatures.tail = scopes.signatures := rfl

/-- Closing a scope leaves those below it alone. -/
theorem signatures_pop {scopes : ScopeStack} (h : 0 < scopes.depth) :
    scopes.pop.signatures = scopes.signatures.tail := by
  obtain ⟨locals, globals⟩ := scopes
  cases locals with
  | nil => exact absurd h (Nat.lt_irrefl 0)
  | cons innermost outer => rfl

/-- A declaration opens no scope. -/
theorem depth_bind (scopes : ScopeStack) (name : String) (binding : Binding) :
    (scopes.bind name binding).depth = scopes.depth := by
  obtain ⟨locals, globals⟩ := scopes
  cases locals <;> rfl

/-- A declaration leaves the scopes below the innermost alone. -/
theorem tail_signatures_bind (scopes : ScopeStack) (name : String) (binding : Binding) :
    (scopes.bind name binding).signatures.tail = scopes.signatures.tail := by
  obtain ⟨locals, globals⟩ := scopes
  cases locals <;> rfl

/-- Giving a variable a value declares nothing in any of some scopes. -/
theorem signature_updateIn (name : String) (value : Value) (locals : List Scope) :
    (updateIn name value locals).map Scope.signature = locals.map Scope.signature := by
  induction locals with
  | nil => rfl
  | cons scope outer ih =>
    unfold updateIn
    split
    · rename_i binding found
      rw [List.map_cons, List.map_cons, Scope.signature_insert value found]
    · rw [List.map_cons, List.map_cons, ih]

/-- **Giving a variable a value declares nothing.** -/
theorem signatures_update (scopes : ScopeStack) (name : String) (value : Value) :
    (scopes.update name value).signatures = scopes.signatures := by
  unfold update
  split
  · simp only [signatures, List.map_append, signature_updateIn]
  · split
    · rename_i binding found
      simp only [signatures, List.map_append, List.map_cons, Scope.signature_insert value found]
    · rfl

end ScopeStack

/-! ## What evaluations leave as it was -/

namespace Machine

/-- As many scopes and calls, the same module, and the same directory. -/
structure Balanced (before after : Machine) : Prop where
  /-- As many scopes are open. -/
  depth : after.scopes.depth = before.scopes.depth
  /-- As many calls are going on. -/
  callDepth : after.context.callDepth = before.context.callDepth
  /-- The same module is running. -/
  label : after.context.label = before.context.label
  /-- Imports are resolved against the same directory. -/
  directory : after.context.directory = before.context.directory

/-- Balanced, and every scope has the names and declared types that it had. -/
structure Framed (before after : Machine) : Prop extends Balanced before after where
  /-- Every scope declares what it declared. -/
  signatures : after.scopes.signatures = before.scopes.signatures

/-- Balanced, and every scope but the innermost has the names and declared types that it had. -/
structure Bounded (before after : Machine) : Prop extends Balanced before after where
  /-- Every scope below the innermost declares what it declared. -/
  outer : after.scopes.signatures.tail = before.scopes.signatures.tail

/-- No built-in function of the machine waits for handlers, so that none runs during an
evaluation. -/
def Alone (machine : Machine) : Prop :=
  ∀ entry ∈ machine.natives.entries, entry.2 ≠ .settle

variable {before middle after : Machine}

/-- Balanced evaluations may follow each other. -/
theorem Balanced.trans (first : Balanced before middle) (second : Balanced middle after) :
    Balanced before after where
  depth := second.depth.trans first.depth
  callDepth := second.callDepth.trans first.callDepth
  label := second.label.trans first.label
  directory := second.directory.trans first.directory

/-- What is quiet is framed. -/
theorem Quiet.framed (h : Quiet before after) : Framed before after where
  depth := by rw [h.scopes]
  callDepth := h.callDepth
  label := h.label
  directory := h.directory
  signatures := by rw [h.scopes]

/-- Where only functions of the language are new, none of them waits for handlers. -/
theorem Alone.of_natives (alone : before.Alone)
    (natives : ∀ entry ∈ after.natives.entries,
      entry ∈ before.natives.entries ∨ entry.2.isOwn = true) : after.Alone := by
  intro entry mem
  rcases natives entry mem with mem | own
  · exact alone entry mem
  · exact Native.ne_settle_of_isOwn own

/-- What is quiet starts no handlers. -/
theorem Alone.quiet (alone : before.Alone) (h : Quiet before after) : after.Alone :=
  alone.of_natives h.natives

/-- What is framed is bounded. -/
theorem Framed.bounded (h : Framed before after) : Bounded before after :=
  { h with outer := by rw [h.signatures] }

/-- A change of the store is framed. -/
theorem framed_store (machine : Machine) (store : Store) :
    Framed machine { machine with store } := ⟨⟨rfl, rfl, rfl, rfl⟩, rfl⟩

/-- Leaving a call takes away the scope that entering it opened, and nothing else. -/
theorem framed_leave {machine : Machine} {name : String} {function : Function}
    (h : Bounded (machine.enter function) after) :
    Framed machine (after.leave machine.context name function) := by
  have opened : after.scopes.depth = machine.scopes.depth + 1 := h.depth
  have outer : after.scopes.signatures.tail = machine.scopes.signatures :=
    h.outer.trans (ScopeStack.tail_signatures_push machine.scopes)
  have same : after.scopes.pop.signatures = machine.scopes.signatures :=
    (ScopeStack.signatures_pop (by omega)).trans outer
  -- One scope fewer is open, because as many scopes declare something as are open.
  have depth : after.scopes.pop.depth = machine.scopes.depth := by
    have lengths := congrArg List.length same
    rw [ScopeStack.length_signatures, ScopeStack.length_signatures] at lengths
    exact Nat.succ.inj lengths
  -- Entering the call counted it, and what is done in it leaves the count as it is.
  have entered : after.context.callDepth = machine.context.callDepth + 1 := h.callDepth
  have left : after.context.callDepth - 1 = machine.context.callDepth := by omega
  exact ⟨⟨depth, left, rfl, h.directory⟩, same⟩

end Machine

open Machine Eval

/-- The discipline of balanced calls: expressions are framed and statements are bounded. -/
def Discipline.balance : Discipline where
  Good := Alone
  Calm before after := after.Alone ∧ Framed before after
  Busy before after := after.Alone ∧ Bounded before after
  Fair _ _ := True
  good_of_busy h := h.1
  busy_of_calm h := ⟨h.1, h.2.bounded⟩
  calm_trans first second :=
    ⟨second.1, first.2.trans second.2.toBalanced, second.2.signatures.trans first.2.signatures⟩
  busy_trans first second :=
    ⟨second.1, first.2.trans second.2.toBalanced, second.2.outer.trans first.2.outer⟩
  calm_of_quiet alone h := ⟨alone.quiet h, h.framed⟩
  fair_of_busy _ _ := trivial
  fair_of_isPlain _ := trivial
  fair_of_lookup _ _ := trivial
  fair_of_mem_itemsIn _ _ _ := trivial
  operate {machine} {_ _ _ _} alone _ _ :=
    Keeps.alloc ⟨alone, (Quiet.refl machine).framed⟩ fun _ store _ =>
      ⟨⟨alone, machine.framed_store store⟩, fun _ _ => trivial⟩
  declare {machine name value type} alone _ := by
    refine Keeps.scoping ⟨alone, (Quiet.refl machine).framed.bounded⟩
      fun stored scopes store h => ?_
    obtain ⟨_, rfl⟩ := ScopeStack.declare_eq_ok h
    refine ⟨⟨alone, ⟨?_, rfl, rfl, rfl⟩, ?_⟩, trivial⟩
    · exact ScopeStack.depth_bind ..
    · exact ScopeStack.tail_signatures_bind ..
  assign {machine name value} alone _ := by
    refine Keeps.scoping ⟨alone, (Quiet.refl machine).framed.bounded⟩
      fun stored scopes store h => ?_
    obtain ⟨binding, _, rfl, _⟩ := ScopeStack.assign_eq_ok h
    have same := machine.scopes.signatures_update name stored
    refine ⟨⟨alone, ⟨?_, rfl, rfl, rfl⟩, congrArg List.tail same⟩, trivial⟩
    have lengths := congrArg List.length same
    rw [ScopeStack.length_signatures, ScopeStack.length_signatures] at lengths
    exact Nat.succ.inj lengths
  calm_of_settle alone found _ := absurd rfl (alone _ (Table.mem_of_find? found))
  host {_ _ _ before _} _ _ alone _ :=
    Keeps.alloc ⟨alone, (Quiet.refl before).framed⟩ fun _ store _ =>
      ⟨⟨alone, before.framed_store store⟩, trivial⟩
  good_enter _ alone := alone
  calm_leave _ h := ⟨h.1, framed_leave h.2⟩
  good_handler _ alone := alone
  busy_handler _ h := ⟨h.1, ⟨h.2.depth, rfl, rfl, rfl⟩, h.2.outer⟩

/-! ## Every evaluation is balanced -/

/-- A call that is not refused for its depth ends with its function under the name it was called by,
however it ends and whatever its body did to the name. -/
theorem invoke_restores (run : Runner) (name : String) (function : Function)
    (arguments : List Value) {machine : Machine}
    (h : machine.context.callDepth < machine.config.maxCallDepth) :
    (invoke run name function arguments).Keeps
      (fun _ after => after.functions.find? name = some function) machine fun _ _ => True := by
  refine Keeps.get ?_
  rw [if_neg (Nat.not_le.mpr h)]
  have restored {final : Machine} :
      (final.leave machine.context name function).functions.find? name = some function := by
    rw [Machine.leave, Table.find?_insert, if_pos rfl]
  have called : (bracket (·.enter function) (·.leave machine.context name function) (do
      bindParams function.params arguments
      run function.body)).Keeps (fun _ after => after.functions.find? name = some function) machine
        fun _ _ => True :=
    Keeps.bracket Keeps.any (fun _ => restored) fun _ _ => trivial
  -- What follows the body converts the result, which leaves the functions alone.
  refine Keeps.bind (fun _ later => later) called fun after flow known _ => ?_
  cases flow with
  | leave value => exact Keeps.alloc known fun _ _ _ => ⟨known, trivial⟩
  | next value => exact Keeps.pure known trivial

/-- **The call protocol is balanced on every way out.** On a machine where no handlers run during an
evaluation, whatever is evaluated and however it ends: expressions and calls are framed, statements
and bodies are balanced, and a call that is not refused for its depth leaves the name it was called
by to the function that it went to. -/
theorem evaluation_balanced (budget : Nat) (machine : Machine) (alone : machine.Alone) :
    (∀ expression, (exprWithin budget expression).Keeps Framed machine fun _ _ => True) ∧
    (∀ statement, (stmtWithin budget statement).Keeps Balanced machine fun _ _ => True) ∧
    (∀ body, (bodyWithin budget body).Keeps Balanced machine fun _ _ => True) ∧
    ∀ name function arguments,
      (invoke (bodyWithin budget) name function arguments).Keeps Framed machine
        (fun _ _ => True) ∧
      (machine.context.callDepth < machine.config.maxCallDepth →
        (invoke (bodyWithin budget) name function arguments).Keeps
          (fun _ after => after.functions.find? name = some function) machine
          fun _ _ => True) := by
  have balanced {action : Eval Flow} (h : Discipline.balance.Executes action machine) :
      action.Keeps Balanced machine fun _ _ => True :=
    h.mono (fun reached => reached.2.toBalanced) fun _ _ => trivial
  have framed {action : Eval Value} (h : Discipline.balance.Evaluates action machine) :
      action.Keeps Framed machine fun _ _ => True :=
    h.mono (fun reached => reached.2) fun _ _ => trivial
  refine ⟨?_, ?_, ?_, ?_⟩
  · intro expression
    exact framed (Discipline.balance.exprWithin budget expression alone)
  · intro statement
    exact balanced (Discipline.balance.stmtWithin budget statement alone)
  · intro body
    exact balanced (Discipline.balance.bodyWithin budget body machine alone)
  · intro name function arguments
    refine ⟨framed ?_, invoke_restores _ name function arguments⟩
    exact Discipline.balance.invoke (Discipline.balance.bodyWithin budget) name function alone
      fun _ _ => trivial

/-- No function that is always there waits for handlers. -/
theorem alone_initial (config : Config) (world : World) :
    (Machine.initial config world).Alone := fun _ mem =>
  Native.ne_settle_of_isOwn (Native.isOwn_of_mem_standard mem)

/-- A function that declares another one under its own name. -/
def selfReplacing : Function :=
  ⟨"f", .int, [], [.function .unknown .int "f" [] [], .leave .unknown none], .unknown, none⟩

/-- On a machine before any program, a call of a function that replaces itself is framed, and the
name means the function again afterwards. -/
theorem selfReplacing_balanced :
    (invoke (bodyWithin 2) "f" selfReplacing []).Keeps Framed (.initial .standard .bare)
        (fun _ _ => True) ∧
      (invoke (bodyWithin 2) "f" selfReplacing []).Keeps
        (fun _ after => after.functions.find? "f" = some selfReplacing) (.initial .standard .bare)
        fun _ _ => True := by
  obtain ⟨_, _, _, calls⟩ := evaluation_balanced 2 _ (alone_initial .standard .bare)
  exact ⟨(calls "f" selfReplacing []).1, (calls "f" selfReplacing []).2 (by decide)⟩

end ReactiveScript
