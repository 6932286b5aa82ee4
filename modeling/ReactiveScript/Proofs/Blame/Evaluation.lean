import ReactiveScript.Proofs.Blame.Call

/-! # Every expression and statement accounts for its faults

By recursion on the trees, every expression and every statement of a program accounts for what goes
wrong in it, where bodies do (`Accounts.expression`, `Accounts.statement`).
No imports are followed, since modules would bring in bodies from other texts. -/

namespace ReactiveScript

open Eval

variable {program : List Stmt} {machine : Machine} {budget : Nat}

/-- A part of an expression of a program stands in the program. -/
theorem Node.StandsIn.operand {whole part : Expr} (h : (Node.expr whole).StandsIn program)
    (mem : part ∈ whole.parts) : (Node.expr part).StandsIn program :=
  h.part (List.mem_map_of_mem mem)

/-- The nodes of a program have places, and none of them is an import. -/
structure Node.Plain (program : List Stmt) : Prop where
  /-- The places are known. -/
  places : ∀ node : Node, node.StandsIn program → node.span.isKnown = true
  /-- There are no imports. -/
  closed : ∀ span path label, ¬ (Node.stmt (.load span path label)).StandsIn program

namespace Accounts

/-! ## Expressions -/

/-- An operator on two operands. -/
theorem operands {β : Type} {left right : Plan Value} {next : Value → Value → Plan β}
    (first : Accounts program ⟨budget, left, machine⟩)
    (second : ∀ {between : Machine}, between.Stems program →
      Accounts program ⟨budget, right, between⟩)
    (h : ∀ x y {after : Machine}, after.Stems program →
      Accounts program ⟨budget, next x y, after⟩) :
    Accounts program ⟨budget, do let x ← left; let y ← right; next x y, machine⟩ := by
  refine bind first fun x _ stems _ => ?_
  exact bind (second stems) fun y _ stems _ => h x y stems

/-- The bound or step of a range. -/
theorem rangePart {β : Type} {role : String} {operand : Plan Value} {next : Int64 → Plan β}
    (h : Accounts program ⟨budget, operand, machine⟩)
    (rest : ∀ n {after : Machine}, after.Stems program →
      Accounts program ⟨budget, next n, after⟩) :
    Accounts program ⟨budget, do let n ← rangeBound role (← operand); next n, machine⟩ := by
  refine bind h fun value _ stems _ => ?_
  exact tame_bind stems (.rangeBound role value) fun n _ stems _ => rest n stems

mutual

/-- **Every expression of a program accounts for its faults.** -/
theorem expression (plain : Node.Plain program) (runs : Runs program budget) :
    ∀ (expression : Expr) {machine : Machine}, (Node.expr expression).StandsIn program →
      machine.Stems program → Accounts program ⟨budget, .expr expression, machine⟩
  | .literal span value, machine, inside, stems => by
    refine expr inside stems fun stems => ?_
    exact pure stems
  | .var span name, machine, inside, stems => by
    refine expr inside stems fun {moved} stems => ?_
    exact of_tame stems (.reading (moved.scopes.unplaced_lookup name))
  | .binary span op left right, machine, inside, stems => by
    refine expr inside stems fun stems => ?_
    have first := inside.operand List.mem_cons_self
    have second := inside.operand (List.mem_cons_of_mem _ List.mem_cons_self)
    refine operands (expression plain runs left first stems)
      (fun stems => expression plain runs right second stems) fun x y after stems => ?_
    exact of_tame stems (.alloc (Value.binary_unplaced op x y))
  | .logical span op left right, machine, inside, stems => by
    refine expr inside stems fun stems => ?_
    have first := inside.operand List.mem_cons_self
    have second := inside.operand (List.mem_cons_of_mem _ List.mem_cons_self)
    refine operands (expression plain runs left first stems)
      (fun stems => expression plain runs right second stems) fun x y after stems => ?_
    exact of_tame stems (.ofExcept (Value.unplaced_logical op x y))
  | .comparison span op left right, machine, inside, stems => by
    refine expr inside stems fun stems => ?_
    have first := inside.operand List.mem_cons_self
    have second := inside.operand (List.mem_cons_of_mem _ List.mem_cons_self)
    refine operands (expression plain runs left first stems)
      (fun stems => expression plain runs right second stems) fun x y after stems => ?_
    have compares := Value.unplaced_compareValues after.store op x y
    exact tame_bind stems (.looking compares) fun _ _ stems _ => pure stems
  | .unary span op operand, machine, inside, stems => by
    refine expr inside stems fun stems => ?_
    refine bind (expression plain runs operand (inside.operand List.mem_cons_self) stems)
      fun value after stems _ => ?_
    exact of_tame stems (.reading (Value.unplaced_unary after.store op value))
  | .cast span target operand, machine, inside, stems => by
    refine expr inside stems fun stems => ?_
    refine bind (expression plain runs operand (inside.operand List.mem_cons_self) stems)
      fun value after stems _ => ?_
    exact of_tame stems (.alloc (Value.cast_unplaced target value))
  | .call span name arguments, machine, inside, stems => by
    refine expr inside stems fun {moved} stems => get stems ?_
    have values := expressions plain runs arguments (fun _ mem => inside.operand mem) stems
    dsimp only
    -- what the name means is looked up before the arguments are evaluated
    split
    · rename_i function found
      refine bind values fun values _ later _ => ?_
      have host := stems.hosts _ (Table.mem_of_find? found)
      exact native runs plain.places budget host _ later
    · split
      · rename_i function found
        refine bind values fun values _ later _ => ?_
        exact invoke runs _ (stems.functions _ (Table.mem_of_find? found)) values later
      · exact fail stems
  | .range span first last none inclusive, machine, inside, stems => by
    refine expr inside stems fun stems => ?_
    have lower := inside.operand List.mem_cons_self
    have upper := inside.operand (List.mem_cons_of_mem _ List.mem_cons_self)
    refine rangePart (expression plain runs first lower stems) fun start _ stems => ?_
    refine rangePart (expression plain runs last upper stems) fun bound _ stems => ?_
    exact of_tame stems (.alloc (Alloc.range_unplaced start bound 1 inclusive))
  | .range span first last (some step) inclusive, machine, inside, stems => by
    refine expr inside stems fun stems => ?_
    have lower := inside.operand List.mem_cons_self
    have upper := inside.operand (List.mem_cons_of_mem _ List.mem_cons_self)
    have between := inside.operand
      (List.mem_cons_of_mem _ (List.mem_cons_of_mem _ List.mem_cons_self))
    refine rangePart (expression plain runs first lower stems) fun start _ stems => ?_
    refine rangePart (expression plain runs last upper stems) fun bound _ stems => ?_
    refine rangePart (expression plain runs step between stems) fun size _ stems => ?_
    exact of_tame stems (.alloc (Alloc.range_unplaced start bound size inclusive))
  | .list span items, machine, inside, stems => by
    refine expr inside stems fun stems => ?_
    refine bind (expressions plain runs items (fun _ mem => inside.operand mem) stems)
      fun values _ stems _ => ?_
    exact of_tame stems (.alloc .newList)
  | .dict span entries, machine, inside, stems => by
    refine expr inside stems fun stems => ?_
    refine bind (entryExpressions plain runs entries (fun entry mem => ?_) stems)
      fun values _ stems _ => of_tame stems (.alloc .newDict)
    have parts : ∀ part ∈ [entry.1, entry.2], (Node.expr part).StandsIn program :=
      fun part found => inside.operand (List.mem_flatMap.mpr ⟨entry, mem, found⟩)
    exact ⟨parts _ List.mem_cons_self, parts _ (List.mem_cons_of_mem _ List.mem_cons_self)⟩
  | .index span target position, machine, inside, stems => by
    refine expr inside stems fun stems => ?_
    have first := inside.operand List.mem_cons_self
    have second := inside.operand (List.mem_cons_of_mem _ List.mem_cons_self)
    refine operands (expression plain runs target first stems)
      (fun stems => expression plain runs position second stems) fun x y after stems => ?_
    exact of_tame stems (.alloc (Alloc.index_unplaced x y))

/-- Expressions in order account for their faults. -/
theorem expressions (plain : Node.Plain program) (runs : Runs program budget) :
    ∀ (expressions : List Expr) {machine : Machine},
      (∀ expression ∈ expressions, (Node.expr expression).StandsIn program) →
      machine.Stems program → Accounts program ⟨budget, .exprs expressions, machine⟩
  | [], machine, inside, stems => pure stems
  | first :: rest, machine, inside, stems => by
    obtain ⟨here, later⟩ := List.forall_mem_cons.mp inside
    refine bind (expression plain runs first here stems) fun value _ stems _ => ?_
    exact bind (expressions plain runs rest later stems) fun values _ stems _ => pure stems

/-- The entries of a dictionary account for their faults. -/
theorem entryExpressions (plain : Node.Plain program) (runs : Runs program budget) :
    ∀ (entries : List (Expr × Expr)) {before : List (Value × Value)} {machine : Machine},
      (∀ entry ∈ entries, (Node.expr entry.1).StandsIn program ∧
        (Node.expr entry.2).StandsIn program) →
      machine.Stems program → Accounts program ⟨budget, .entryExprs before entries, machine⟩
  | [], before, machine, inside, stems => pure stems
  | (key, value) :: rest, before, machine, inside, stems => by
    obtain ⟨here, later⟩ := List.forall_mem_cons.mp inside
    refine bind (expression plain runs key here.1 stems) fun x _ stems _ => ?_
    refine bind (expression plain runs value here.2 stems) fun y _ stems _ => ?_
    refine tame_bind stems (.looking (.ended _)) fun set _ stems _ => ?_
    exact entryExpressions plain runs rest later stems

end

/-! ## Loops -/

/-- A statement that leaves ends what it stands in; any other is followed by the rest. -/
theorem unlessLeaves {first : Plan Flow} {next : Flow → Plan Flow}
    (h : Accounts program ⟨budget, first, machine⟩)
    (leaves : ∀ value, next (.leave value) = Pure.pure (.leave value))
    (rest : ∀ value {after : Machine}, after.Stems program →
      Accounts program ⟨budget, next (.next value), after⟩) :
    Accounts program ⟨budget, first >>= next, machine⟩ := by
  refine bind h fun flow _ stems _ => ?_
  cases flow with
  | leave value =>
    rw [leaves]
    exact pure stems
  | next value => exact rest value stems

/-- What was chosen is the end of a choice; if there is nothing, what stands for it follows. -/
theorem unlessChosen {first : Plan (Option Flow)} {next : Option Flow → Plan Flow}
    (h : Accounts program ⟨budget, first, machine⟩)
    (chosen : ∀ flow, next (some flow) = Pure.pure flow)
    (otherwise : ∀ {after : Machine}, after.Stems program →
      Accounts program ⟨budget, next none, after⟩) :
    Accounts program ⟨budget, first >>= next, machine⟩ := by
  refine bind h fun found _ stems _ => ?_
  cases found with
  | some flow =>
    rw [chosen]
    exact pure stems
  | none => exact otherwise stems

/-- An evaluation that is followed by the next statement. -/
theorem goOn {α : Type} {first : Plan α} (h : Accounts program ⟨budget, first, machine⟩) :
    Accounts program ⟨budget, do let _ ← first; return Flow.next .void, machine⟩ :=
  bind h fun _ _ stems _ => pure stems

section Loops

variable {body : Plan Flow} (bodies : ∀ {machine : Machine}, machine.Stems program →
  Accounts program ⟨budget, body, machine⟩)

include bodies

/-- A loop with a condition. -/
theorem loopWhile {test : Plan Bool} (tests : ∀ {machine : Machine}, machine.Stems program →
      Accounts program ⟨budget, test, machine⟩)
    (rounds : Nat) (stems : machine.Stems program) :
    Accounts program ⟨budget, .loopWhile test body rounds, machine⟩ := by
  induction rounds generalizing machine with
  | zero => exact exhausted stems
  | succ rounds ih =>
    refine bind (tests stems) fun holds _ stems _ => ?_
    split
    · exact unlessLeaves (bodies stems) (fun _ => rfl) fun _ _ stems => ih stems
    · exact pure stems

/-- A loop that runs its body a number of times. -/
theorem repeatBody (count : Nat) (stems : machine.Stems program) :
    Accounts program ⟨budget, .repeatBody body count, machine⟩ := by
  induction count generalizing machine with
  | zero => exact pure stems
  | succ count ih => exact unlessLeaves (bodies stems) (fun _ => rfl) fun _ _ stems => ih stems

/-- A loop whose body runs a number of times before the first test. -/
theorem prerolled {test : Plan Bool} {next : Flow → Plan Flow}
    (tests : ∀ {machine : Machine}, machine.Stems program →
      Accounts program ⟨budget, test, machine⟩)
    (count : Nat) (leaves : ∀ value, next (.leave value) = Pure.pure (.leave value))
    (loops : ∀ value, next (.next value) = .loopWhile test body budget)
    (stems : machine.Stems program) :
    Accounts program ⟨budget, .repeatBody body count >>= next, machine⟩ := by
  refine unlessLeaves (repeatBody bodies count stems) leaves fun value _ stems => ?_
  rw [loops value]
  exact loopWhile bodies tests budget stems

/-- A loop over values. -/
theorem forEach (name : String) (type : Ty) (items : List Value) (stems : machine.Stems program) :
    Accounts program ⟨budget,
      .forEach (fun item => discard <| declare name item type) body items, machine⟩ := by
  induction items generalizing machine with
  | nil => exact pure stems
  | cons item items ih =>
    have declared : IsTame (discard <| declare name item type) machine :=
      (IsTame.declare name item type).bind fun _ _ _ => .pure
    refine tame_bind stems declared fun _ _ stems _ => ?_
    exact unlessLeaves (bodies stems) (fun _ => rfl) fun _ _ stems => ih stems

end Loops

/-! ## Statements -/

/-- The test of a loop or branch. -/
theorem test {β : Type} {next : Bool → Plan β} {condition : Expr} (plain : Node.Plain program)
    (runs : Runs program budget) (inside : (Node.expr condition).StandsIn program)
    (h : ∀ holds {after : Machine}, after.Stems program →
      Accounts program ⟨budget, next holds, after⟩)
    (stems : machine.Stems program) :
    Accounts program ⟨budget, do
      let holds ← truthy (← Plan.expr condition)
      next holds, machine⟩ := by
  refine bind (expression plain runs condition inside stems) fun value _ stems _ => ?_
  exact tame_bind stems (.get .pure) fun holds _ stems _ => h holds stems

/-- An assignment of a value, with what the watches are told. -/
theorem put (name : String) (value : Value) (stems : machine.Stems program) :
    Accounts program ⟨budget, .put name value, machine⟩ := by
  refine tame_bind stems (.assign name value) fun stored _ stems _ => ?_
  exact tame_bind stems (.afterAssignment name stored) fun _ _ stems _ => pure stems

/-- Making a function of the program known. -/
theorem define {function : Function} (body : Node.AllStandIn program function.body)
    (stems : machine.Stems program) :
    Accounts program ⟨budget, liftM (Eval.define function), machine⟩ :=
  change (stems.insert function.name body) rfl

/-- Letting a body of the program wait for a signal. -/
theorem attachHandler (name : String) {body : HandlerBody}
    (stands : Node.HandlerIn program body) (stems : machine.Stems program) :
    Accounts program ⟨budget, liftM (Eval.attachHandler name body), machine⟩ := by
  refine of_keepsTo ?_
  refine .reading_bind stems (machine.signals.unplaced_attach name body) fun _ attached => ?_
  -- the body joins those that the signal has already
  obtain ⟨found, listed, given⟩ := exists_of_bind_eq_ok attached
  cases given
  refine .change ⟨stems.functions, fun entry mem other waits => ?_, stems.watches, stems.pending,
    stems.hosts⟩ rfl
  rcases Table.mem_insert mem with rfl | mem
  · rcases List.mem_append.mp waits with waits | waits
    · exact stems.signal_of_mem listed waits
    · rw [List.mem_singleton.mp waits]
      exact stands
  · exact stems.signals entry mem other waits

/-- Declaring a signal, for which nothing waits yet. -/
theorem declareSignal (name : String) (stems : machine.Stems program) :
    Accounts program ⟨budget, liftM (Eval.declareSignal name), machine⟩ := by
  refine of_keepsTo ?_
  refine .reading_bind stems (machine.signals.unplaced_declare name) fun _ declared => ?_
  unfold SignalTable.declare at declared
  split at declared
  · cases declared
  · cases declared
    refine .change ⟨stems.functions, fun entry mem body waits => ?_, stems.watches, stems.pending,
      stems.hosts⟩ rfl
    rcases Table.mem_insert mem with rfl | mem
    · cases waits
    · exact stems.signals entry mem body waits

/-- Starting what waits for a signal. -/
theorem emit (name : String) (stems : machine.Stems program) :
    Accounts program ⟨budget, liftM (Eval.emit name), machine⟩ := by
  refine of_keepsTo ?_
  refine .reading_bind stems (machine.signals.unplaced_bodies name) fun bodies listed => ?_
  refine .change ?_ ?_ <;> rw [Machine.startAll_eq]
  · refine ⟨stems.functions, stems.signals, stems.watches, fun handler mem => ?_, stems.hosts⟩
    rcases List.mem_append.mp mem with mem | mem
    · exact stems.pending handler mem
    · obtain ⟨⟨body, place⟩, started, rfl⟩ := List.mem_map.mp mem
      exact stems.signal_of_mem listed (List.fst_mem_of_mem_zipIdx started)
  · rfl

/-- Letting a body of the program wait for changes of a variable. -/
theorem registerWatch (name : String) {body : HandlerBody} (stands : Node.HandlerIn program body)
    (stems : machine.Stems program) :
    Accounts program ⟨budget, liftM (Eval.registerWatch name body), machine⟩ := by
  refine of_keepsTo ?_
  refine .reading_bind stems (machine.scopes.unplaced_depthOf name) fun depth _ => ?_
  refine .reading_bind stems (machine.scopes.unplaced_lookup name) fun value _ => ?_
  refine .change_bind ⟨stems.functions, stems.signals, fun entry mem watch waits => ?_,
    stems.pending, stems.hosts⟩ rfl (.subscribe name value)
  rcases Table.mem_insert mem with rfl | mem
  · rcases List.mem_append.mp waits with waits | waits
    · exact stems.watch_of_mem waits
    · rw [List.mem_singleton.mp waits]
      exact stands
  · exact stems.watches entry mem watch waits

mutual

/-- **Every statement of a program accounts for its faults.** -/
theorem statement (plain : Node.Plain program) (runs : Runs program budget) :
    ∀ (statement : Stmt) {machine : Machine}, (Node.stmt statement).StandsIn program →
      machine.Stems program → Accounts program ⟨budget, .stmt statement, machine⟩
  | .expression span value, machine, inside, stems => by
    refine stmt inside stems fun stems => ?_
    refine bind (expression plain runs value (inside.part List.mem_cons_self) stems)
      fun _ _ stems _ => pure stems
  | .declaration span type name none, machine, inside, stems => by
    refine stmt inside stems fun stems => ?_
    refine tame_bind stems (.alloc (Value.zeroOf_unplaced type)) fun value _ stems _ => ?_
    exact goOn (tame_bind stems (.declare name value type) fun _ _ stems _ => pure stems)
  | .declaration span type name (some value), machine, inside, stems => by
    refine stmt inside stems fun stems => ?_
    refine bind (expression plain runs value (inside.part List.mem_cons_self) stems) ?_
    intro initial _ stems _
    exact goOn (tame_bind stems (.declare name initial type) fun _ _ stems _ => pure stems)
  | .assignment span name value, machine, inside, stems => by
    refine stmt inside stems fun stems => ?_
    refine bind (expression plain runs value (inside.part List.mem_cons_self) stems) ?_
    exact fun assigned _ stems _ => put name assigned stems
  | .compound span name op value, machine, inside, stems => by
    refine stmt inside stems fun {moved} stems => ?_
    -- The old value is looked up in the scopes that the statement starts with.
    refine reading_bind stems (moved.scopes.unplaced_lookup name) fun old _ => ?_
    refine bind (expression plain runs value (inside.part List.mem_cons_self) stems) ?_
    intro operand _ stems _
    refine tame_bind stems (.alloc (Value.binary_unplaced op old operand)) ?_
    exact fun updated _ stems _ => put name updated stems
  | .element span target position value, machine, inside, stems => by
    refine stmt inside stems fun stems => ?_
    have first := inside.part List.mem_cons_self
    have second := inside.part (List.mem_cons_of_mem _ List.mem_cons_self)
    have third := inside.part (List.mem_cons_of_mem _ (List.mem_cons_of_mem _ List.mem_cons_self))
    refine bind (expression plain runs target first stems) fun container _ stems _ => ?_
    refine bind (expression plain runs position second stems) fun index _ stems _ => ?_
    refine bind (expression plain runs value third stems) fun assigned _ stems _ => ?_
    exact goOn (of_tame stems (.setElement container index assigned))
  | .function span returns name params body, machine, inside, stems => by
    refine stmt inside stems fun stems => goOn ?_
    exact define (fun _ mem => inside.part (List.mem_map_of_mem mem)) stems
  | .leave span none, machine, inside, stems => by
    exact stmt inside stems fun stems => pure stems
  | .leave span (some value), machine, inside, stems => by
    refine stmt inside stems fun stems => ?_
    refine bind (expression plain runs value (inside.part List.mem_cons_self) stems) ?_
    exact fun _ _ stems _ => pure stems
  | .raise span value, machine, inside, stems => by
    refine stmt inside stems fun stems => ?_
    refine bind (expression plain runs value (inside.part List.mem_cons_self) stems) ?_
    intro thrown _ stems _
    exact tame_bind stems (.render thrown) fun _ _ stems _ => fail stems
  | .load span path label, machine, inside, stems => absurd inside (plain.closed span path label)
  | .branch span condition thenBody none, machine, inside, stems => by
    refine stmt inside stems fun stems => ?_
    refine test plain runs (inside.part List.mem_cons_self) (fun holds _ stems => ?_) stems
    split
    · refine block plain runs thenBody (fun _ mem => inside.part ?_) stems
      exact List.mem_cons_of_mem _ (List.mem_map_of_mem (List.mem_append_left _ mem))
    · exact pure stems
  | .branch span condition thenBody (some elseBody), machine, inside, stems => by
    refine stmt inside stems fun stems => ?_
    refine test plain runs (inside.part List.mem_cons_self) (fun holds _ stems => ?_) stems
    split
    · refine block plain runs thenBody (fun _ mem => inside.part ?_) stems
      exact List.mem_cons_of_mem _ (List.mem_map_of_mem (List.mem_append_left _ mem))
    · refine block plain runs elseBody (fun _ mem => inside.part ?_) stems
      exact List.mem_cons_of_mem _ (List.mem_map_of_mem (List.mem_append_right _ mem))
  | .whileLoop span condition preroll body, machine, inside, stems => by
    refine stmt inside stems fun stems => ?_
    have standing : Node.AllStandIn program body :=
      fun _ mem => inside.part (List.mem_cons_of_mem _ (List.mem_map_of_mem mem))
    refine prerolled (block plain runs body standing) (fun stems => ?_) preroll (fun _ => rfl)
      (fun _ => rfl) stems
    refine test plain runs (inside.part List.mem_cons_self) (fun holds _ stems => ?_) stems
    exact get stems (pure stems)
  | .untilLoop span condition preroll body, machine, inside, stems => by
    refine stmt inside stems fun stems => ?_
    have standing : Node.AllStandIn program body :=
      fun _ mem => inside.part (List.mem_cons_of_mem _ (List.mem_map_of_mem mem))
    refine prerolled (block plain runs body standing) (fun stems => ?_) preroll (fun _ => rfl)
      (fun _ => rfl) stems
    refine test plain runs (inside.part List.mem_cons_self) (fun holds _ stems => ?_) stems
    exact get stems (pure stems)
  | .forLoop span first condition step body, machine, inside, stems => by
    refine stmt inside stems fun stems => ?_
    have before := inside.part List.mem_cons_self
    have tested := inside.part (List.mem_cons_of_mem _ List.mem_cons_self)
    have between := inside.part (List.mem_cons_of_mem _ (List.mem_cons_of_mem _ List.mem_cons_self))
    have standing : Node.AllStandIn program body := fun _ mem =>
      inside.part (List.mem_cons_of_mem _ (List.mem_cons_of_mem _ (List.mem_cons_of_mem _
        (List.mem_map_of_mem mem))))
    -- A round is the body and then the step, unless the body leaves.
    refine bind ?_ fun _ _ stems _ => ?_
    · exact bind (statement plain runs first before stems) fun _ _ stems _ => pure stems
    · refine loopWhile (fun stems => ?_) (fun stems => ?_) budget stems
      · have within := block plain runs body standing stems
        refine unlessLeaves within (fun _ => rfl) fun _ _ stems => goOn ?_
        exact bind (statement plain runs step between stems) fun _ _ stems _ => pure stems
      · refine bind (expression plain runs condition tested stems) fun value _ stems _ => ?_
        exact of_tame stems (.get .pure)
  | .forEach span type name iterable body, machine, inside, stems => by
    refine stmt inside stems fun stems => ?_
    have standing : Node.AllStandIn program body :=
      fun _ mem => inside.part (List.mem_cons_of_mem _ (List.mem_map_of_mem mem))
    refine bind (expression plain runs iterable (inside.part List.mem_cons_self) stems) ?_
    intro value _ stems _
    refine tame_bind stems (.itemsOf value) fun items _ stems _ => ?_
    exact forEach (fun stems => block plain runs body standing stems) name type items stems
  | .choice span subject cases none, machine, inside, stems => by
    refine stmt inside stems fun stems => ?_
    have options : ∀ chosen ∈ cases, (Node.case chosen).StandsIn program := fun _ mem =>
      inside.part (List.mem_cons_of_mem _ (List.mem_append_left _ (List.mem_map_of_mem mem)))
    refine bind (expression plain runs subject (inside.part List.mem_cons_self) stems) ?_
    intro value _ stems _
    have chosen := choose plain runs value cases options stems
    exact unlessChosen chosen (fun _ => rfl) fun stems => pure stems
  | .choice span subject cases (some body), machine, inside, stems => by
    refine stmt inside stems fun stems => ?_
    have options : ∀ chosen ∈ cases, (Node.case chosen).StandsIn program := fun _ mem =>
      inside.part (List.mem_cons_of_mem _ (List.mem_append_left _ (List.mem_map_of_mem mem)))
    refine bind (expression plain runs subject (inside.part List.mem_cons_self) stems) ?_
    intro value _ stems _
    have chosen := choose plain runs value cases options stems
    refine unlessChosen chosen (fun _ => rfl) fun stems => ?_
    refine block plain runs body (fun _ mem => inside.part ?_) stems
    exact List.mem_cons_of_mem _ (List.mem_append_right _ (List.mem_map_of_mem mem))
  | .signal span name, machine, inside, stems => by
    refine stmt inside stems fun stems => ?_
    exact goOn (declareSignal name stems)
  | .emit span name, machine, inside, stems => by
    refine stmt inside stems fun stems => ?_
    exact goOn (emit name stems)
  | .when span name body, machine, inside, stems => by
    refine stmt inside stems fun stems => ?_
    exact goOn (attachHandler name ⟨span, name, .inl inside⟩ stems)
  | .watch span name body, machine, inside, stems => by
    refine stmt inside stems fun stems => ?_
    exact goOn (registerWatch name ⟨span, name, .inr inside⟩ stems)

/-- Statements in order account for their faults. -/
theorem block (plain : Node.Plain program) (runs : Runs program budget) :
    ∀ (statements : List Stmt) {machine : Machine}, Node.AllStandIn program statements →
      machine.Stems program → Accounts program ⟨budget, .block statements, machine⟩
  | [], machine, inside, stems => pure stems
  | first :: rest, machine, inside, stems => by
    obtain ⟨here, later⟩ := List.forall_mem_cons.mp inside
    refine unlessLeaves (statement plain runs first here stems) (fun _ => rfl) fun _ _ stems => ?_
    exact block plain runs rest later stems

/-- The cases of a choice account for their faults. -/
theorem choose (plain : Node.Plain program) (runs : Runs program budget) (subject : Value) :
    ∀ (cases : List (Case Stmt)) {machine : Machine},
      (∀ chosen ∈ cases, (Node.case chosen).StandsIn program) → machine.Stems program →
      Accounts program ⟨budget, .choose subject cases, machine⟩
  | [], machine, inside, stems => pure stems
  | ⟨span, tested, body⟩ :: rest, machine, inside, stems => by
    obtain ⟨here, later⟩ := List.forall_mem_cons.mp inside
    -- the case is to blame for its label only; what its body raises has a place
    refine tame_bind stems (.change (.context machine _)) fun _ moved stems _ => ?_
    have tested := expression plain runs tested here.label stems
    refine bind (label here tested) fun candidate _ stems _ => ?_
    refine tame_bind stems (.looking (.ended _)) fun same _ stems _ => ?_
    split
    · refine bind (block plain runs body here.caseBody stems) fun _ _ stems _ => pure stems
    · exact choose plain runs subject rest later stems

end

end Accounts

end ReactiveScript
