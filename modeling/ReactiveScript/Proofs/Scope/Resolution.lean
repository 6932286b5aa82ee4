import ReactiveScript.Scope

/-! # Which binding a name means

Scopes are counted by their depth, the one of the whole program at depth zero, and what the scopes
hold is read off depth by depth (`ScopeStack.bindingAt`). A name means its binding at the greatest
depth that has one (`ScopeStack.Resolves`), and everything that looks a name up finds just that,
each by a search of its own. The operations on scopes are described by what they do to the bindings
at all depths, so that a stack of scopes reads as maps inside each other. -/

namespace ReactiveScript

namespace ScopeStack

variable {scopes : ScopeStack} {name other : String} {depth inner : Nat} {binding : Binding}

/-! ## Bindings by depth -/

/-- The scope at a depth: that of the whole program at depth zero, then those of the calls,
outermost first. -/
def scopeAt (scopes : ScopeStack) : Nat → Option Scope
  | 0 => some scopes.globals
  | depth + 1 => scopes.locals.reverse[depth]?

/-- The binding of a name in the scope at a depth. -/
def bindingAt (scopes : ScopeStack) (depth : Nat) (name : String) : Option Binding :=
  (scopes.scopeAt depth).bind (·.find? name)

/-- The scopes with one more inside them. -/
def inside (scopes : ScopeStack) (scope : Scope) : ScopeStack :=
  { scopes with locals := scope :: scopes.locals }

/-- Scopes are that of the whole program with others inside it. -/
theorem induction {holds : ScopeStack → Prop} (globals : ∀ scope, holds ⟨[], scope⟩)
    (inside : ∀ scopes scope, holds scopes → holds (scopes.inside scope)) (scopes : ScopeStack) :
    holds scopes := by
  obtain ⟨locals, outermost⟩ := scopes
  induction locals with
  | nil => exact globals outermost
  | cons scope outer ih => exact inside ⟨outer, outermost⟩ scope ih

@[simp] theorem depth_inside (scopes : ScopeStack) (scope : Scope) :
    (scopes.inside scope).depth = scopes.depth + 1 := rfl

/-- The scope of the whole program alone has its bindings at depth zero. -/
theorem bindingAt_globals (scope : Scope) (depth : Nat) (name : String) :
    bindingAt ⟨[], scope⟩ depth name = if depth = 0 then scope.find? name else none := by
  cases depth <;> rfl

/-- One more scope has its bindings one depth further in, and those outside it are where they
were. -/
theorem bindingAt_inside (scopes : ScopeStack) (scope : Scope) (depth : Nat) (name : String) :
    (scopes.inside scope).bindingAt depth name =
      if depth = scopes.depth + 1 then scope.find? name else scopes.bindingAt depth name := by
  cases depth with
  | zero => rfl
  | succ depth =>
    have turned : (scope :: scopes.locals).reverse[depth]? =
        if depth = scopes.depth then some scope else scopes.locals.reverse[depth]? := by
      rw [List.reverse_cons, List.getElem?_append, List.length_reverse]
      unfold ScopeStack.depth
      split
      · rename_i outside
        rw [if_neg (by omega)]
      · by_cases innermost : depth = scopes.locals.length
        · simp [innermost]
        · rw [if_neg innermost, List.getElem?_eq_none (by simp; omega),
            List.getElem?_eq_none (by simp; omega)]
    unfold bindingAt scopeAt inside
    dsimp only
    rw [turned]
    by_cases innermost : depth = scopes.depth <;> simp [innermost]

/-- No scope stands deeper than the depth. -/
theorem bindingAt_eq_none (h : scopes.depth < depth) : scopes.bindingAt depth name = none := by
  cases depth with
  | zero => cases h
  | succ depth =>
    unfold bindingAt scopeAt
    dsimp only
    rw [List.getElem?_eq_none]
    · rfl
    · rw [List.length_reverse]
      exact Nat.le_of_lt_succ h

/-! ## The binding that a name means -/

/-- **What a name means**: its binding at some depth, where no scope further in has one. -/
structure Resolves (scopes : ScopeStack) (name : String) (depth : Nat) (binding : Binding) :
    Prop where
  /-- The binding stands there. -/
  bound : scopes.bindingAt depth name = some binding
  /-- No scope further in binds the name. -/
  nearest : ∀ inner, depth < inner → scopes.bindingAt inner name = none

/-- What a name means stands at no greater depth than there is. -/
theorem Resolves.le_depth (h : scopes.Resolves name depth binding) : depth ≤ scopes.depth := by
  refine Nat.le_of_not_lt fun far => ?_
  cases (bindingAt_eq_none far).symm.trans h.bound

/-- A name means one binding at most. -/
theorem Resolves.unique {depth' : Nat} {binding' : Binding}
    (h : scopes.Resolves name depth binding) (h' : scopes.Resolves name depth' binding') :
    depth = depth' ∧ binding = binding' := by
  rcases Nat.lt_trichotomy depth depth' with less | same | greater
  · cases (h.nearest depth' less).symm.trans h'.bound
  · subst same
    exact ⟨rfl, Option.some.inj (h.bound.symm.trans h'.bound)⟩
  · cases (h'.nearest depth greater).symm.trans h.bound

/-- What a name means where there is only the scope of the whole program. -/
theorem Resolves.globals {scope : Scope} (h : Resolves ⟨[], scope⟩ name depth binding) :
    depth = 0 ∧ scope.find? name = some binding := by
  have bound := h.bound
  rw [bindingAt_globals] at bound
  split at bound
  · rename_i zero
    exact ⟨zero, bound⟩
  · cases bound

/-- A name means the binding of one more scope inside, if that has one. -/
theorem resolves_inside {scope : Scope} (found : scope.find? name = some binding) :
    (scopes.inside scope).Resolves name (scopes.depth + 1) binding where
  bound := by rw [bindingAt_inside, if_pos rfl, found]
  nearest inner deeper := bindingAt_eq_none deeper

/-- A name means what it does outside one more scope, if that has no binding for it. -/
theorem Resolves.inside {scope : Scope} (h : scopes.Resolves name depth binding)
    (missing : scope.find? name = none) : (scopes.inside scope).Resolves name depth binding := by
  constructor
  · rw [bindingAt_inside, if_neg (Nat.ne_of_lt (Nat.lt_succ_of_le h.le_depth)), h.bound]
  · intro inner deeper
    rw [bindingAt_inside, missing, h.nearest inner deeper, ite_self]

/-- Where one more scope has no binding for a name, the name means what it does outside. -/
theorem Resolves.outside {scope : Scope} (h : (scopes.inside scope).Resolves name depth binding)
    (missing : scope.find? name = none) : scopes.Resolves name depth binding := by
  have same (depth : Nat) (within : depth ≠ scopes.depth + 1) :
      (scopes.inside scope).bindingAt depth name = scopes.bindingAt depth name := by
    rw [bindingAt_inside, if_neg within]
  have within : depth ≠ scopes.depth + 1 := by
    rintro rfl
    have bound := h.bound
    rw [bindingAt_inside, if_pos rfl, missing] at bound
    cases bound
  constructor
  · rw [← same depth within, h.bound]
  · intro inner deeper
    by_cases innermost : inner = scopes.depth + 1
    · exact bindingAt_eq_none (by omega)
    · rw [← same inner innermost, h.nearest inner deeper]

/-- **A name that is bound somewhere means a binding.** -/
theorem exists_resolves (bound : scopes.bindingAt inner name ≠ none) :
    ∃ depth binding, scopes.Resolves name depth binding := by
  induction scopes using ScopeStack.induction with
  | globals scope =>
    rw [bindingAt_globals] at bound
    have found : scope.find? name ≠ none := by
      intro missing
      rw [missing, ite_self] at bound
      exact bound rfl
    obtain ⟨binding, found⟩ := Option.ne_none_iff_exists'.mp found
    exact ⟨0, binding, found, fun inner deeper => bindingAt_eq_none deeper⟩
  | inside scopes scope ih =>
    cases found : scope.find? name with
    | some binding => exact ⟨_, binding, resolves_inside found⟩
    | none =>
      rw [bindingAt_inside, found] at bound
      have outside : scopes.bindingAt inner name ≠ none := by
        intro missing
        rw [missing, ite_self] at bound
        exact bound rfl
      obtain ⟨depth, binding, resolved⟩ := ih outside
      exact ⟨depth, binding, resolved.inside found⟩

/-- A name means a binding, or no scope binds it. -/
theorem resolves_or_unbound (scopes : ScopeStack) (name : String) :
    (∃ depth binding, scopes.Resolves name depth binding) ∨
      ∀ depth, scopes.bindingAt depth name = none := by
  by_cases bound : ∃ depth, scopes.bindingAt depth name ≠ none
  · obtain ⟨inner, bound⟩ := bound
    exact .inl (exists_resolves bound)
  · exact .inr fun depth => by simpa using not_exists.mp bound depth

/-! ## Looking names up -/

/-- The binding of a name is looked for in the innermost scope first. -/
theorem binding?_inside (scopes : ScopeStack) (scope : Scope) (name : String) :
    (scopes.inside scope).binding? name = (scope.find? name).or (scopes.binding? name) := by
  unfold binding? inside
  dsimp only
  rw [List.findSome?_cons]
  cases scope.find? name <;> rfl

/-- The depth of a name is looked for in the innermost scope first. -/
theorem depthOf_inside (scopes : ScopeStack) (scope : Scope) (name : String) :
    (scopes.inside scope).depthOf name =
      if (scope.find? name).isSome then .ok (scopes.depth + 1) else scopes.depthOf name := by
  unfold depthOf inside
  dsimp only
  rw [List.findIdx?_cons]
  by_cases here : scope.contains name = true
  · rw [if_pos here, if_pos (show (scope.find? name).isSome = true from here)]
    rfl
  · rw [if_neg here, if_neg (show ¬ (scope.find? name).isSome = true from here)]
    cases scopes.locals.findIdx? (·.contains name) with
    | none => rfl
    | some place => exact congrArg Except.ok (Nat.add_sub_add_right ..)

/-- **The binding that a name means is found**, and so is its depth. -/
theorem Resolves.found (h : scopes.Resolves name depth binding) :
    scopes.binding? name = some binding ∧ scopes.depthOf name = .ok depth := by
  induction scopes using ScopeStack.induction with
  | globals scope =>
    obtain ⟨rfl, bound⟩ := h.globals
    refine ⟨bound, ?_⟩
    have contains : scope.contains name = true := by rw [Table.contains, bound]; rfl
    exact if_pos contains
  | inside scopes scope ih =>
    rw [binding?_inside, depthOf_inside]
    cases found : scope.find? name with
    | some inner =>
      obtain ⟨rfl, rfl⟩ := (resolves_inside found).unique h
      exact ⟨rfl, rfl⟩
    | none => exact ih (h.outside found)

/-- **A name that is bound nowhere is not found.** -/
theorem not_found (unbound : ∀ depth, scopes.bindingAt depth name = none) :
    scopes.binding? name = none ∧
      scopes.depthOf name = .error (Cause.undefinedVariable name).fault := by
  induction scopes using ScopeStack.induction with
  | globals scope =>
    have missing : scope.find? name = none := unbound 0
    refine ⟨missing, ?_⟩
    have absent : ¬ scope.contains name = true := by rw [Table.contains, missing]; exact nofun
    exact if_neg absent
  | inside scopes scope ih =>
    have missing : scope.find? name = none := by
      have here := unbound (scopes.depth + 1)
      rwa [bindingAt_inside, if_pos rfl] at here
    rw [binding?_inside, depthOf_inside, missing]
    refine ih fun depth => ?_
    by_cases innermost : depth = scopes.depth + 1
    · exact bindingAt_eq_none (by omega)
    · have outside := unbound depth
      rwa [bindingAt_inside, if_neg innermost] at outside

/-- A name means its binding at the depth that is found for it. -/
theorem resolves_of_depthOf (h : scopes.depthOf name = .ok depth) :
    ∃ binding, scopes.Resolves name depth binding := by
  rcases scopes.resolves_or_unbound name with ⟨depth', binding, resolved⟩ | unbound
  · obtain rfl : depth' = depth := Except.ok.inj (resolved.found.2.symm.trans h)
    exact ⟨binding, resolved⟩
  · cases (not_found unbound).2.symm.trans h

/-- A name means the binding that is found for it. -/
theorem resolves_of_binding? (h : scopes.binding? name = some binding) :
    ∃ depth, scopes.Resolves name depth binding := by
  rcases scopes.resolves_or_unbound name with ⟨depth, binding', resolved⟩ | unbound
  · obtain rfl : binding' = binding := Option.some.inj (resolved.found.1.symm.trans h)
    exact ⟨depth, resolved⟩
  · cases (not_found unbound).1.symm.trans h

/-- The binding at the depth that is found for a name is the one that is found for it. -/
theorem bindingAt_of_depthOf (h : scopes.depthOf name = .ok depth) :
    scopes.bindingAt depth name = scopes.binding? name := by
  obtain ⟨binding, resolved⟩ := resolves_of_depthOf h
  rw [resolved.bound, resolved.found.1]

/-! ## Changes -/

/-- Opening a scope binds nothing. -/
theorem bindingAt_push (scopes : ScopeStack) (depth : Nat) (name : String) :
    scopes.push.bindingAt depth name = scopes.bindingAt depth name := by
  change (scopes.inside .empty).bindingAt depth name = _
  rw [bindingAt_inside]
  split
  · rename_i innermost
    rw [Table.find?_empty, bindingAt_eq_none (by omega)]
  · rfl

/-- Closing the innermost scope leaves the depths outside it. -/
theorem bindingAt_pop (h : depth < scopes.depth) (name : String) :
    scopes.pop.bindingAt depth name = scopes.bindingAt depth name := by
  induction scopes using ScopeStack.induction with
  | globals scope => cases h
  | inside scopes scope =>
    change scopes.bindingAt depth name = _
    have within : depth ≠ scopes.depth + 1 := Nat.ne_of_lt h
    rw [bindingAt_inside, if_neg within]

/-- **Binding a name changes its binding in the innermost scope**, and no other. -/
theorem bindingAt_bind (scopes : ScopeStack) (name : String) (binding : Binding) (depth : Nat)
    (other : String) :
    (scopes.bind name binding).bindingAt depth other =
      if depth = scopes.depth ∧ other = name then some binding
      else scopes.bindingAt depth other := by
  induction scopes using ScopeStack.induction with
  | globals scope =>
    change bindingAt ⟨[], scope.insert name binding⟩ depth other = _
    rw [bindingAt_globals, bindingAt_globals, Table.find?_insert]
    by_cases zero : depth = 0 <;> simp [zero, ScopeStack.depth]
  | inside scopes scope =>
    change (scopes.inside (scope.insert name binding)).bindingAt depth other = _
    rw [bindingAt_inside, bindingAt_inside, Table.find?_insert]
    by_cases innermost : depth = scopes.depth + 1 <;> simp [innermost]

/-- A value is put into the innermost scope that has a binding for the name. -/
theorem update_inside (scopes : ScopeStack) (scope : Scope) (name : String) (value : Value) :
    (scopes.inside scope).update name value =
      match scope.find? name with
      | some binding => scopes.inside (scope.insert name { binding with value })
      | none => (scopes.update name value).inside scope := by
  unfold update inside
  dsimp only
  rw [List.any_cons, updateIn, Table.contains]
  cases scope.find? name with
  | some binding => rfl
  | none =>
    rw [Option.isSome_none, Bool.false_or]
    by_cases here : scopes.locals.any (·.contains name) = true
    · rw [if_pos here, if_pos here]
    · rw [if_neg here, if_neg here]
      cases scopes.globals.find? name <;> rfl

@[simp] theorem depth_update (scopes : ScopeStack) (name : String) (value : Value) :
    (scopes.update name value).depth = scopes.depth := by
  induction scopes using ScopeStack.induction with
  | globals scope =>
    change (match scope.find? name with | some _ => _ | none => _ : ScopeStack).depth = _
    cases scope.find? name <;> rfl
  | inside scopes scope ih =>
    rw [update_inside]
    cases scope.find? name with
    | some binding => rfl
    | none => rw [depth_inside, depth_inside, ih]

/-- **Giving a variable a value changes the value of the binding that its name means**, and no other
binding. -/
theorem Resolves.bindingAt_update (h : scopes.Resolves name depth binding) (value : Value)
    (inner : Nat) (other : String) :
    (scopes.update name value).bindingAt inner other =
      if inner = depth ∧ other = name then some { binding with value }
      else scopes.bindingAt inner other := by
  induction scopes using ScopeStack.induction with
  | globals scope =>
    obtain ⟨rfl, bound⟩ := h.globals
    have updated : update ⟨[], scope⟩ name value =
        ⟨[], scope.insert name { binding with value }⟩ := by
      change (match scope.find? name with | some _ => _ | none => _) = _
      rw [bound]
    rw [updated, bindingAt_globals, bindingAt_globals, Table.find?_insert]
    by_cases zero : inner = 0 <;> simp [zero]
  | inside scopes scope ih =>
    rw [update_inside]
    cases found : scope.find? name with
    | some bound =>
      obtain ⟨rfl, rfl⟩ := (resolves_inside found).unique h
      rw [bindingAt_inside, bindingAt_inside, Table.find?_insert]
      by_cases innermost : inner = scopes.depth + 1 <;> simp [innermost]
    | none =>
      have outside := h.outside found
      rw [bindingAt_inside, bindingAt_inside, ih outside, depth_update]
      have within : depth ≠ scopes.depth + 1 := Nat.ne_of_lt (Nat.lt_succ_of_le outside.le_depth)
      by_cases innermost : inner = scopes.depth + 1
      · have elsewhere : ¬(inner = depth ∧ other = name) := fun same => within (same.1 ▸ innermost)
        rw [if_pos innermost, if_pos innermost, if_neg elsewhere]
      · rw [if_neg innermost, if_neg innermost]

/-- A name means the same binding with the value that it is given. -/
theorem Resolves.update (h : scopes.Resolves name depth binding) (value : Value) :
    (scopes.update name value).Resolves name depth { binding with value } where
  bound := by rw [h.bindingAt_update, if_pos ⟨rfl, rfl⟩]
  nearest inner deeper := by
    rw [h.bindingAt_update, if_neg fun same => Nat.ne_of_gt deeper same.1, h.nearest inner deeper]

/-- **A variable has the value that it is given.** -/
theorem lookup_update (value : Value) (bound : scopes.binding? name = some binding) :
    (scopes.update name value).lookup name = .ok value := by
  obtain ⟨depth, resolved⟩ := resolves_of_binding? bound
  rw [lookup, (resolved.update value).found.1]

end ScopeStack

end ReactiveScript
