import ReactiveScript.Proofs.Reactive.Logging

/-! # Every evaluation logs what it registers

By recursion on the trees, every expression and every statement logs what it registers, where bodies
do (`Logs.expression`, `Logs.statement`). Bodies are run inside each other
to a depth that the budget bounds, so by induction on the budget whatever an interpreter is made to
evaluate logs what it registers. -/

namespace ReactiveScript

open Eval

variable {budget : Nat}

namespace Logs

/-! ## Assignments -/

/-- **What a watched variable is given is noted under its name.** -/
theorem afterAssignment (name : String) (value : Value) :
    Logs budget (liftM (Eval.afterAssignment name value)) := by
  intro machine free
  have opened : Eval.afterAssignment name value machine =
      (if machine.watches.isWatched name = true then subscribe name value >>= fun _ =>
        modify fun machine : Machine => machine.notifyVariable name
      else Pure.pure ()) machine := rfl
  by_cases watched : machine.watches.isWatched name = true
  · obtain ⟨after, subscribed⟩ := exists_of_subscribe name value machine
    have ended : Eval.afterAssignment name value machine = .ok () (after.notifyVariable name) := by
      rw [opened, if_pos watched, bind_of_ok subscribed]
      rfl
    have reached : (⟨budget, liftM (Eval.afterAssignment name value), machine⟩ :
        Stage Unit).after = after.notifyVariable name :=
      congrArg Outcome.machine (perform_of_ok ended)
    have told := after.notifyVariable_aside name
    obtain ⟨store, rfl, _⟩ := notes_of_subscribe subscribed
    refine ⟨reached ▸ told.hostFree free, [], reached ▸ ?_, List.forall_mem_nil _⟩
    exact (Machine.Course.single (.note watched subscribed)).before_aside told
  · refine .of_aside free ?_
    unfold IsAside Keeps
    rw [opened, if_neg watched]
    exact ⟨.refl machine, trivial⟩

/-- An assignment of a value, with what the watches are told. -/
theorem put (name : String) (value : Value) : Logs budget (.put name value) :=
  aside_bind (.assign name value) fun stored =>
    (afterAssignment name stored).bind fun _ => pure

/-! ## Calls and handlers -/

section Calls

variable (runs : ∀ body, Logs budget (.body body))

include runs

/-- **A call of a function.** -/
theorem invoke (name : String) (function : Function) (arguments : List Value) :
    Logs budget (.invoke name function arguments) := by
  refine get fun seen _ => ?_
  split
  · exact throw
  · refine bind (enclosed ?_ (fun machine => ?_) fun _ machine => ?_) fun flow => ?_
    · exact aside_bind (.bindParams function.params arguments) fun _ => runs function.body
    · exact Machine.aside_of_eq rfl rfl rfl
    · exact Machine.aside_of_eq rfl rfl rfl
    · cases flow with
      | leave value => exact of_aside (.alloc (Value.coerce_along function.returns value _))
      | next value => exact pure

/-- **The handlers in line**, and those that they start. -/
theorem settle (rounds : Nat) : Logs budget (.settle rounds) := by
  induction rounds with
  | zero =>
    refine get fun seen _ => ?_
    cases seen.pending.isEmpty
    · exact throw
    · exact pure
  | succ rounds ih =>
    refine get fun seen _ => ?_
    cases seen.pending with
    | nil => exact pure
    | cons handler rest =>
      refine aside_bind (.change (Machine.aside_of_eq rfl rfl rfl)) fun _ => ?_
      exact (Logs.handler handler (runs handler.body)).bind fun _ => ih

/-- **A call of a built-in function** of the language. -/
theorem native (rounds : Nat) {native : Native} (own : ∀ run, native ≠ .host run) (call : Call) :
    Logs budget (.native rounds native call) := by
  refine returning ?_
  cases native with
  | settle => exact (settle runs rounds).bind fun _ => pure
  | _ => exact of_aside (.native nofun own)

end Calls

/-! ## Expressions -/

/-- An operator on two operands. -/
theorem operands {β : Type} {left right : Plan Value} {next : Value → Value → Plan β}
    (first : Logs budget left) (second : Logs budget right) (h : ∀ x y, Logs budget (next x y)) :
    Logs budget (do let x ← left; let y ← right; next x y) :=
  bind first fun x => bind second fun y => h x y

/-- The bound or step of a range. -/
theorem rangePart {β : Type} {role : String} {operand : Plan Value} {next : Int64 → Plan β}
    (h : Logs budget operand) (rest : ∀ n, Logs budget (next n)) :
    Logs budget (do let n ← rangeBound role (← operand); next n) :=
  bind h fun value => aside_bind (.rangeBound role value) rest

mutual

/-- **Every expression logs what it registers.** -/
theorem expression (runs : ∀ body, Logs budget (.body body)) :
    ∀ expression : Expr, Logs budget (.expr expression)
  | .literal span value => expr pure
  | .var span name => by
    refine expr ?_
    exact of_aside .reading
  | .binary span op left right => by
    refine expr ?_
    refine operands (expression runs left) (expression runs right) fun x y => ?_
    exact of_aside (.alloc (Value.binary_along op x y))
  | .logical span op left right => by
    refine expr ?_
    exact operands (expression runs left) (expression runs right) fun x y => of_aside .ofExcept
  | .comparison span op left right => by
    refine expr ?_
    refine operands (expression runs left) (expression runs right) fun x y => ?_
    exact aside_bind .looking fun _ => pure
  | .unary span op operand => by
    refine expr ?_
    exact bind (expression runs operand) fun value => of_aside .reading
  | .cast span target operand => by
    refine expr ?_
    refine bind (expression runs operand) fun value => ?_
    exact of_aside (.alloc (Value.cast_along target value _))
  | .call span name arguments => by
    refine expr (get fun seen free => ?_)
    dsimp only
    -- what the name means is looked up before the arguments are evaluated
    split
    · rename_i function found
      refine bind (expressions runs arguments) fun values => ?_
      exact native runs budget (free _ (Table.mem_of_find? found)) _
    · split
      · exact bind (expressions runs arguments) fun values => invoke runs _ _ values
      · exact throw
  | .range span first last none inclusive => by
    refine expr ?_
    refine rangePart (expression runs first) fun start => ?_
    refine rangePart (expression runs last) fun bound => ?_
    exact of_aside (.alloc (Alloc.range_along start bound 1 inclusive))
  | .range span first last (some step) inclusive => by
    refine expr ?_
    refine rangePart (expression runs first) fun start => ?_
    refine rangePart (expression runs last) fun bound => ?_
    refine rangePart (expression runs step) fun size => ?_
    exact of_aside (.alloc (Alloc.range_along start bound size inclusive))
  | .list span items => by
    refine expr ?_
    exact bind (expressions runs items) fun values => of_aside (.alloc .newList)
  | .dict span entries => by
    refine expr ?_
    exact bind (entryExpressions runs entries []) fun values => of_aside (.alloc .newDict)
  | .index span target position => by
    refine expr ?_
    refine operands (expression runs target) (expression runs position) fun x y => ?_
    exact of_aside (.alloc (Alloc.index_along x y))

/-- Expressions in order log what they register. -/
theorem expressions (runs : ∀ body, Logs budget (.body body)) :
    ∀ expressions : List Expr, Logs budget (.exprs expressions)
  | [] => pure
  | first :: rest => by
    exact bind (expression runs first) fun value => bind (expressions runs rest) fun _ => pure

/-- The entries of a dictionary log what they register. -/
theorem entryExpressions (runs : ∀ body, Logs budget (.body body)) :
    ∀ (entries : List (Expr × Expr)) (before : List (Value × Value)),
      Logs budget (.entryExprs before entries)
  | [], before => pure
  | (key, value) :: rest, before => by
    refine operands (expression runs key) (expression runs value) fun x y => ?_
    exact aside_bind .looking fun set => entryExpressions runs rest set

end

/-! ## Loops -/

/-- A statement that leaves ends what it stands in; any other is followed by the rest. -/
theorem unlessLeaves {first : Plan Flow} {next : Flow → Plan Flow} (h : Logs budget first)
    (leaves : ∀ value, next (.leave value) = Pure.pure (.leave value))
    (rest : ∀ value, Logs budget (next (.next value))) : Logs budget (first >>= next) := by
  refine bind h fun flow => ?_
  cases flow with
  | leave value =>
    rw [leaves]
    exact pure
  | next value => exact rest value

/-- What was chosen is the end of a choice; if there is nothing, what stands for it follows. -/
theorem unlessChosen {first : Plan (Option Flow)} {next : Option Flow → Plan Flow}
    (h : Logs budget first) (chosen : ∀ flow, next (some flow) = Pure.pure flow)
    (otherwise : Logs budget (next none)) : Logs budget (first >>= next) := by
  refine bind h fun found => ?_
  cases found with
  | some flow =>
    rw [chosen]
    exact pure
  | none => exact otherwise

/-- An evaluation that is followed by the next statement. -/
theorem goOn {α : Type} {first : Plan α} (h : Logs budget first) :
    Logs budget (do let _ ← first; return Flow.next .void) := bind h fun _ => pure

section Loops

variable {body : Plan Flow} (logs : Logs budget body)

include logs

/-- A loop with a condition. -/
theorem loopWhile {test : Plan Bool} (tests : Logs budget test) (rounds : Nat) :
    Logs budget (.loopWhile test body rounds) := by
  induction rounds with
  | zero => exact throw
  | succ rounds ih =>
    refine bind tests fun holds => ?_
    split
    · exact unlessLeaves logs (fun _ => rfl) fun _ => ih
    · exact pure

/-- A loop that runs its body a number of times. -/
theorem repeatBody (count : Nat) : Logs budget (.repeatBody body count) := by
  induction count with
  | zero => exact pure
  | succ count ih => exact unlessLeaves logs (fun _ => rfl) fun _ => ih

/-- A loop over values. -/
theorem forEach (name : String) (type : Ty) (items : List Value) :
    Logs budget (.forEach (fun item => discard <| declare name item type) body items) := by
  induction items with
  | nil => exact pure
  | cons item items ih =>
    have declared {machine : Machine} :
        IsAside (discard <| declare name item type) machine :=
      (IsAside.declare name item type).bind fun _ _ => .pure
    refine aside_bind declared fun _ => ?_
    exact unlessLeaves logs (fun _ => rfl) fun _ => ih

end Loops

/-! ## Statements -/

/-- The test of a loop or branch. -/
theorem test {β : Type} {next : Bool → Plan β} {condition : Expr}
    (runs : ∀ body, Logs budget (.body body)) (h : ∀ holds, Logs budget (next holds)) :
    Logs budget (do
      let holds ← truthy (← Plan.expr condition)
      next holds) :=
  bind (expression runs condition) fun _ => aside_bind (.get .pure) h

mutual

/-- **Every statement logs what it registers.** -/
theorem statement (runs : ∀ body, Logs budget (.body body)) :
    ∀ statement : Stmt, Logs budget (.stmt statement)
  | .expression span value => by
    refine stmt ?_
    exact bind (expression runs value) fun _ => pure
  | .declaration span type name none => by
    refine stmt ?_
    refine aside_bind (.alloc (Value.zeroOf_along type)) fun value => ?_
    exact goOn (aside_bind (.declare name value type) fun _ => pure)
  | .declaration span type name (some value) => by
    refine stmt ?_
    refine bind (expression runs value) fun initial => ?_
    exact goOn (aside_bind (.declare name initial type) fun _ => pure)
  | .assignment span name value => by
    refine stmt ?_
    exact bind (expression runs value) fun assigned => put name assigned
  | .compound span name op value => by
    refine stmt ?_
    refine aside_bind .reading fun old => bind (expression runs value) fun operand => ?_
    refine aside_bind (.alloc (Value.binary_along op old operand)) fun updated => ?_
    exact put name updated
  | .element span target position value => by
    refine stmt ?_
    refine bind (expression runs target) fun container => ?_
    refine bind (expression runs position) fun index => ?_
    refine bind (expression runs value) fun assigned => ?_
    exact goOn (of_aside (.setElement container index assigned))
  | .function span returns name params body => by
    refine stmt (goOn ?_)
    exact of_aside (.define _)
  | .leave span none => stmt pure
  | .leave span (some value) => by
    refine stmt ?_
    exact bind (expression runs value) fun _ => pure
  | .raise span value => by
    refine stmt ?_
    exact bind (expression runs value) fun thrown => aside_bind (.render thrown) fun _ => throw
  | .load span path label => by
    refine stmt (goOn ?_)
    exact of_aside (.load path label)
  | .branch span condition thenBody none => by
    refine stmt (test runs fun holds => ?_)
    split
    · exact block runs thenBody
    · exact pure
  | .branch span condition thenBody (some elseBody) => by
    refine stmt (test runs fun holds => ?_)
    split
    · exact block runs thenBody
    · exact block runs elseBody
  | .whileLoop span condition preroll body => by
    refine stmt ?_
    refine unlessLeaves (repeatBody (block runs body) preroll) (fun _ => rfl) fun _ => ?_
    exact loopWhile (block runs body) (test runs fun holds => get fun _ _ => pure) budget
  | .untilLoop span condition preroll body => by
    refine stmt ?_
    refine unlessLeaves (repeatBody (block runs body) preroll) (fun _ => rfl) fun _ => ?_
    exact loopWhile (block runs body) (test runs fun holds => get fun _ _ => pure) budget
  | .forLoop span first condition step body => by
    refine stmt ?_
    refine bind ((statement runs first).bind fun _ => pure) fun _ => ?_
    refine loopWhile ?_ ?_ budget
    · refine unlessLeaves (block runs body) (fun _ => rfl) fun _ => goOn ?_
      exact (statement runs step).bind fun _ => pure
    · exact bind (expression runs condition) fun _ => of_aside (.get .pure)
  | .forEach span type name iterable body => by
    refine stmt ?_
    refine bind (expression runs iterable) fun value => ?_
    refine aside_bind (.itemsOf value) fun items => ?_
    exact forEach (block runs body) name type items
  | .choice span subject cases none => by
    refine stmt ?_
    refine bind (expression runs subject) fun value => ?_
    exact unlessChosen (choose runs value cases) (fun _ => rfl) pure
  | .choice span subject cases (some body) => by
    refine stmt ?_
    refine bind (expression runs subject) fun value => ?_
    exact unlessChosen (choose runs value cases) (fun _ => rfl) (block runs body)
  | .signal span name => asking (.signal span name)
  | .emit span name => by
    refine stmt (goOn ?_)
    exact of_aside (.emit name)
  | .when span name body => asking (.when span name body)
  | .watch span name body => asking (.watch span name body)

/-- Statements in order log what they register. -/
theorem block (runs : ∀ body, Logs budget (.body body)) :
    ∀ statements : List Stmt, Logs budget (.block statements)
  | [] => pure
  | first :: rest => by
    exact unlessLeaves (statement runs first) (fun _ => rfl) fun _ => block runs rest

/-- The cases of a choice log what they register. -/
theorem choose (runs : ∀ body, Logs budget (.body body)) (subject : Value) :
    ∀ cases : List (Case Stmt), Logs budget (.choose subject cases)
  | [] => pure
  | ⟨span, tested, body⟩ :: rest => by
    refine aside_bind (.change (Machine.aside_of_eq rfl rfl rfl)) fun _ => ?_
    refine bind (label ⟨span, tested, body⟩ (expression runs tested)) fun candidate => ?_
    refine aside_bind .looking fun same => ?_
    split
    · exact bind (block runs body) fun _ => pure
    · exact choose runs subject rest

end

/-! ## Whatever is evaluated -/

/-- **Bodies that are run within a budget log what they register.** -/
theorem bodyWithin (budget : Nat) (statements : List Stmt) : Logs budget (.body statements) := by
  induction budget generalizing statements with
  | zero => exact fun machine free => ⟨free, [], .refl, List.forall_mem_nil _⟩
  | succ budget ih => exact body (block ih statements)

/-- The statements of a program log what they register. -/
theorem topLevel (budget : Nat) (last : Value) (statements : List Stmt) :
    Logs budget (.topLevel last statements) := by
  induction statements generalizing last with
  | nil => exact pure
  | cons first rest ih =>
    refine bind (statement (bodyWithin budget) first) fun flow => ?_
    cases flow with
    | leave value => exact pure
    | next value => exact ih value

/-- A source text logs what it registers. -/
theorem source (budget : Nat) (text : String) : Logs budget (.source text) := by
  refine halting ?_
  cases readProgram text with
  | ok statements => exact topLevel budget .void statements
  | error fault => exact throw

end Logs

end ReactiveScript
