import ReactiveScript.Proofs.Place.Source

/-! # Nodes of a program

The nodes of a program are its statements, the expressions in them, and the cases that they choose
from: what a fault can be blamed on. A node has parts, and what stands in a program is what is
reached from its statements through parts (`Node.StandsIn`). Every node of a program that was read
from a text has a place in the text (`Node.StandsIn.within`). -/

namespace ReactiveScript

/-- A node of a program. -/
inductive Node where
  | expr (expression : Expr)
  | stmt (statement : Stmt)
  | case (chosen : Case Stmt)

/-- The expressions that an expression is put together from. -/
def Expr.parts : Expr → List Expr
  | .literal .. => []
  | .var .. => []
  | .binary _ _ left right => [left, right]
  | .logical _ _ left right => [left, right]
  | .comparison _ _ left right => [left, right]
  | .unary _ _ operand => [operand]
  | .cast _ _ operand => [operand]
  | .call _ _ arguments => arguments
  | .range _ first last step _ => first :: last :: step.toList
  | .list _ items => items
  | .dict _ entries => entries.flatMap fun entry => [entry.1, entry.2]
  | .index _ target position => [target, position]

/-- The nodes that a statement is put together from. -/
def Stmt.parts : Stmt → List Node
  | .expression _ value => [.expr value]
  | .declaration _ _ _ value => value.toList.map .expr
  | .assignment _ _ value => [.expr value]
  | .compound _ _ _ value => [.expr value]
  | .element _ target position value => [.expr target, .expr position, .expr value]
  | .function _ _ _ _ body => body.map .stmt
  | .leave _ value => value.toList.map .expr
  | .raise _ value => [.expr value]
  | .load .. => []
  | .branch _ condition thenBody elseBody =>
    .expr condition :: (thenBody ++ elseBody.getD []).map .stmt
  | .whileLoop _ condition _ body => .expr condition :: body.map .stmt
  | .untilLoop _ condition _ body => .expr condition :: body.map .stmt
  | .forLoop _ first condition step body =>
    .stmt first :: .expr condition :: .stmt step :: body.map .stmt
  | .forEach _ _ _ iterable body => .expr iterable :: body.map .stmt
  | .choice _ subject cases fallback =>
    .expr subject :: (cases.map .case ++ (fallback.getD []).map .stmt)
  | .signal .. => []
  | .emit .. => []
  | .when _ _ body => body.map .stmt
  | .watch _ _ body => body.map .stmt

namespace Node

/-- The place of a node. -/
def span : Node → Span
  | .expr expression => expression.span
  | .stmt statement => statement.span
  | .case chosen => chosen.span

/-- The nodes that a node is put together from. -/
def parts : Node → List Node
  | .expr expression => expression.parts.map .expr
  | .stmt statement => statement.parts
  | .case chosen => .expr chosen.label :: chosen.body.map .stmt

/-- **A node stands in a program**: it is a statement of it, or part of a node of the program. -/
inductive StandsIn (program : List Stmt) : Node → Prop
  /-- A statement of the program. -/
  | top {statement : Stmt} (mem : statement ∈ program) : StandsIn program (.stmt statement)
  /-- A part of a node. -/
  | part {whole part : Node} (inside : StandsIn program whole) (mem : part ∈ whole.parts) :
    StandsIn program part

variable {program body : List Stmt} {node inner : Node} {places : Span → Prop}

/-! ## What stands in a program -/

/-- Some statements stand in a program. -/
def AllStandIn (program body : List Stmt) : Prop :=
  ∀ statement ∈ body, StandsIn program (.stmt statement)

/-- A body that waits for a signal or for changes of a variable somewhere in a program. -/
def HandlerIn (program body : List Stmt) : Prop :=
  ∃ span name, StandsIn program (.stmt (.when span name body)) ∨
    StandsIn program (.stmt (.watch span name body))

/-- The statements of a program stand in it. -/
theorem allStandIn_self (program : List Stmt) : AllStandIn program program := fun _ => .top

/-- The body of a handler stands in the program. -/
theorem HandlerIn.allStandIn (h : HandlerIn program body) : AllStandIn program body := by
  intro statement mem
  have part : Node.stmt statement ∈ body.map .stmt := List.mem_map_of_mem mem
  obtain ⟨span, name, inside | inside⟩ := h <;> exact inside.part part

/-- The label of a case stands where the case does. -/
theorem StandsIn.label {chosen : Case Stmt} (h : StandsIn program (.case chosen)) :
    StandsIn program (.expr chosen.label) := h.part List.mem_cons_self

/-- The body of a case stands where the case does. -/
theorem StandsIn.caseBody {chosen : Case Stmt} (h : StandsIn program (.case chosen)) :
    AllStandIn program chosen.body :=
  fun _ mem => h.part (List.mem_cons_of_mem _ (List.mem_map_of_mem mem))

/-! ## Places -/

/-- Every place in a node is one of some places. -/
def Placed (places : Span → Prop) : Node → Prop
  | .expr expression => expression.Placed places
  | .stmt statement => statement.Placed places
  | .case chosen => places chosen.span ∧ chosen.label.Placed places ∧
    ∀ statement ∈ chosen.body, statement.Placed places

/-- The place of a node is one of its places. -/
theorem Placed.span (h : node.Placed places) : places node.span := by
  cases node with
  | expr expression => cases (show expression.Placed places from h) <;> assumption
  | stmt statement => cases (show statement.Placed places from h) <;> assumption
  | case chosen => exact h.1

/-- The places in the parts of an expression are places in it. -/
theorem placed_of_mem_exprParts {expression part : Expr} (h : expression.Placed places)
    (mem : part ∈ expression.parts) : part.Placed places := by
  cases h with
  | literal | var => cases mem
  | binary _ _ first second | logical _ _ first second | comparison _ _ first second
  | index _ first second =>
    rcases List.mem_cons.mp mem with rfl | mem
    · exact first
    · cases List.mem_singleton.mp mem
      exact second
  | unary _ _ inner | cast _ _ inner =>
    cases List.mem_singleton.mp mem
    exact inner
  | call _ _ inner | list _ inner => exact inner part mem
  | range _ lower upper inner _ =>
    rcases List.mem_cons.mp mem with rfl | mem
    · exact lower
    · rcases List.mem_cons.mp mem with rfl | mem
      · exact upper
      · exact inner part (Option.mem_toList.mp mem)
  | dict _ keys values =>
    obtain ⟨entry, found, mem⟩ := List.mem_flatMap.mp mem
    rcases List.mem_cons.mp mem with rfl | mem
    · exact keys entry found
    · cases List.mem_singleton.mp mem
      exact values entry found

/-- The nodes of some statements have the places of the statements. -/
theorem placed_of_mem_map (h : ∀ statement ∈ body, statement.Placed places)
    (mem : inner ∈ body.map Node.stmt) : inner.Placed places := by
  obtain ⟨statement, found, rfl⟩ := List.mem_map.mp mem
  exact h statement found

/-- The nodes of statements that may be missing have the places of the statements. -/
theorem placed_of_mem_map_getD {body : Option (List Stmt)}
    (h : ∀ statements ∈ body, ∀ statement ∈ statements, statement.Placed places)
    (mem : inner ∈ (body.getD []).map Node.stmt) : inner.Placed places := by
  cases body with
  | none => cases mem
  | some statements => exact placed_of_mem_map (h statements rfl) mem

/-- The node of an expression that may be missing has the places of the expression. -/
theorem placed_of_mem_map_toList {value : Option Expr}
    (h : ∀ expression ∈ value, expression.Placed places)
    (mem : inner ∈ value.toList.map Node.expr) : inner.Placed places := by
  obtain ⟨expression, found, rfl⟩ := List.mem_map.mp mem
  exact h expression (Option.mem_toList.mp found)

/-- The places in the parts of a statement are places in it. -/
theorem placed_of_mem_stmtParts {statement : Stmt} (h : statement.Placed places)
    (mem : inner ∈ statement.parts) : inner.Placed places := by
  cases h with
  | load | signal | emit => cases mem
  | expression _ inner | assignment _ _ inner | compound _ _ _ inner | raise _ inner =>
    cases List.mem_singleton.mp mem
    exact inner
  | declaration _ _ _ inner | leave _ inner => exact placed_of_mem_map_toList inner mem
  | element _ container index inner =>
    rcases List.mem_cons.mp mem with rfl | mem
    · exact container
    · rcases List.mem_cons.mp mem with rfl | mem
      · exact index
      · cases List.mem_singleton.mp mem
        exact inner
  | function _ _ _ _ inner | when _ _ inner | watch _ _ inner => exact placed_of_mem_map inner mem
  | branch _ test positive negative =>
    rcases List.mem_cons.mp mem with rfl | mem
    · exact test
    · rw [List.map_append] at mem
      rcases List.mem_append.mp mem with mem | mem
      · exact placed_of_mem_map positive mem
      · exact placed_of_mem_map_getD negative mem
  | whileLoop _ test _ inner | untilLoop _ test _ inner =>
    rcases List.mem_cons.mp mem with rfl | mem
    · exact test
    · exact placed_of_mem_map inner mem
  | forEach _ _ _ container inner =>
    rcases List.mem_cons.mp mem with rfl | mem
    · exact container
    · exact placed_of_mem_map inner mem
  | forLoop _ before test between inner =>
    rcases List.mem_cons.mp mem with rfl | mem
    · exact before
    · rcases List.mem_cons.mp mem with rfl | mem
      · exact test
      · rcases List.mem_cons.mp mem with rfl | mem
        · exact between
        · exact placed_of_mem_map inner mem
  | choice _ value starts labels bodies otherwise =>
    rcases List.mem_cons.mp mem with rfl | mem
    · exact value
    · rcases List.mem_append.mp mem with mem | mem
      · obtain ⟨chosen, found, rfl⟩ := List.mem_map.mp mem
        exact ⟨starts chosen found, labels chosen found, bodies chosen found⟩
      · exact placed_of_mem_map_getD otherwise mem

/-- The places in the parts of a node are places in it. -/
theorem Placed.part (h : node.Placed places) (mem : inner ∈ node.parts) : inner.Placed places := by
  cases node with
  | expr expression =>
    obtain ⟨inner, found, rfl⟩ := List.mem_map.mp mem
    exact placed_of_mem_exprParts h found
  | stmt statement => exact placed_of_mem_stmtParts h mem
  | case chosen =>
    rcases List.mem_cons.mp mem with rfl | mem
    · exact h.2.1
    · exact placed_of_mem_map h.2.2 mem

/-- **The places of a program hold the place of every node in it.** -/
theorem StandsIn.span (h : node.StandsIn program)
    (placed : ∀ statement ∈ program, statement.Placed places) : places node.span := by
  have inside : node.Placed places := by
    induction h with
    | top mem => exact placed _ mem
    | part _ mem ih => exact ih.part mem
  exact inside.span

/-- **Every node of a program that was read has a place in the text**, with a line and a column. -/
theorem StandsIn.within (h : node.StandsIn program) {source : String}
    (read : readProgram source = .ok program) : node.span.Within source.toList := by
  refine h.span ?_
  rw [readProgram] at read
  obtain ⟨stream, lexed, placed⟩ | ⟨fault, refused, -, -⟩ := ofSource_within source
  · rw [lexed] at read
    obtain ⟨other, parsed, inside⟩ | ⟨fault, refused, -, -⟩ := placed.program
    · cases parsed.symm.trans read
      exact inside
    · cases refused.symm.trans read
  · rw [refused] at read
    cases read

end Node

/-! ## Imports -/

namespace Stmt

mutual

/-- Whether there is no import in a statement, nor in a body inside it. -/
def isImportFree : Stmt → Bool
  | .load .. => false
  | .function _ _ _ _ body => areImportFree body
  | .branch _ _ thenBody none => areImportFree thenBody
  | .branch _ _ thenBody (some elseBody) => areImportFree thenBody && areImportFree elseBody
  | .whileLoop _ _ _ body => areImportFree body
  | .untilLoop _ _ _ body => areImportFree body
  | .forLoop _ first _ step body =>
    first.isImportFree && (step.isImportFree && areImportFree body)
  | .forEach _ _ _ _ body => areImportFree body
  | .choice _ _ cases none => casesImportFree cases
  | .choice _ _ cases (some body) => casesImportFree cases && areImportFree body
  | .when _ _ body => areImportFree body
  | .watch _ _ body => areImportFree body
  | _ => true

/-- Whether there is no import in some statements. -/
def areImportFree : List Stmt → Bool
  | [] => true
  | first :: rest => first.isImportFree && areImportFree rest

/-- Whether there is no import in the cases of a choice. -/
def casesImportFree : List (Case Stmt) → Bool
  | [] => true
  | ⟨_, _, body⟩ :: rest => areImportFree body && casesImportFree rest

end

variable {body : List Stmt} {cases : List (Case Stmt)}

/-- Without an import in some statements there is none in any of them. -/
theorem isImportFree_of_mem (free : areImportFree body = true) {statement : Stmt}
    (mem : statement ∈ body) : statement.isImportFree = true := by
  induction body with
  | nil => cases mem
  | cons first rest ih =>
    rw [areImportFree, Bool.and_eq_true] at free
    rcases List.mem_cons.mp mem with rfl | mem
    · exact free.1
    · exact ih free.2 mem

/-- Without an import in some cases there is none in the body of any of them. -/
theorem areImportFree_of_mem (free : casesImportFree cases = true) {chosen : Case Stmt}
    (mem : chosen ∈ cases) : areImportFree chosen.body = true := by
  induction cases with
  | nil => cases mem
  | cons first rest ih =>
    rw [casesImportFree, Bool.and_eq_true] at free
    rcases List.mem_cons.mp mem with rfl | mem
    · exact free.1
    · exact ih free.2 mem

end Stmt

namespace Node

variable {program body : List Stmt} {node inner : Node}

/-- Whether there is no import in a node. -/
def isImportFree : Node → Bool
  | .expr _ => true
  | .stmt statement => statement.isImportFree
  | .case chosen => Stmt.areImportFree chosen.body

/-- Expressions hold no imports. -/
theorem isImportFree_of_mem_map_expr {expressions : List Expr}
    (mem : inner ∈ expressions.map Node.expr) : inner.isImportFree = true := by
  obtain ⟨expression, -, rfl⟩ := List.mem_map.mp mem
  rfl

/-- Without an import in some statements there is none in their nodes. -/
theorem isImportFree_of_mem_map_stmt (free : Stmt.areImportFree body = true)
    (mem : inner ∈ body.map Node.stmt) : inner.isImportFree = true := by
  obtain ⟨statement, found, rfl⟩ := List.mem_map.mp mem
  exact Stmt.isImportFree_of_mem free found

/-- Without an import in some cases there is none in their nodes. -/
theorem isImportFree_of_mem_map_case {cases : List (Case Stmt)}
    (free : Stmt.casesImportFree cases = true) (mem : inner ∈ cases.map Node.case) :
    inner.isImportFree = true := by
  obtain ⟨chosen, found, rfl⟩ := List.mem_map.mp mem
  exact Stmt.areImportFree_of_mem free found

/-- Without an import in a statement there is none in its parts. -/
theorem isImportFree_of_mem_stmtParts {statement : Stmt} (free : statement.isImportFree = true)
    (mem : inner ∈ statement.parts) : inner.isImportFree = true := by
  cases statement with
  | load | signal | emit => cases mem
  | expression | assignment | compound | raise =>
    cases List.mem_singleton.mp mem
    rfl
  | element span target position value =>
    have listed : inner ∈ [target, position, value].map Node.expr := mem
    exact isImportFree_of_mem_map_expr listed
  | declaration | leave => exact isImportFree_of_mem_map_expr mem
  | function | when | watch => exact isImportFree_of_mem_map_stmt free mem
  | branch span condition thenBody elseBody =>
    rcases List.mem_cons.mp mem with rfl | mem
    · rfl
    · cases elseBody with
      | none => exact isImportFree_of_mem_map_stmt free (List.append_nil thenBody ▸ mem)
      | some elseBody =>
        rw [Stmt.isImportFree, Bool.and_eq_true] at free
        rw [List.map_append] at mem
        rcases List.mem_append.mp mem with mem | mem
        · exact isImportFree_of_mem_map_stmt free.1 mem
        · exact isImportFree_of_mem_map_stmt free.2 mem
  | whileLoop | untilLoop | forEach =>
    rcases List.mem_cons.mp mem with rfl | mem
    · rfl
    · exact isImportFree_of_mem_map_stmt free mem
  | forLoop span first condition step body =>
    rw [Stmt.isImportFree, Bool.and_eq_true, Bool.and_eq_true] at free
    rcases List.mem_cons.mp mem with rfl | mem
    · exact free.1
    · rcases List.mem_cons.mp mem with rfl | mem
      · rfl
      · rcases List.mem_cons.mp mem with rfl | mem
        · exact free.2.1
        · exact isImportFree_of_mem_map_stmt free.2.2 mem
  | choice span subject cases fallback =>
    rcases List.mem_cons.mp mem with rfl | mem
    · rfl
    · cases fallback with
      | none =>
        rcases List.mem_append.mp mem with mem | mem
        · exact isImportFree_of_mem_map_case free mem
        · cases mem
      | some body =>
        rw [Stmt.isImportFree, Bool.and_eq_true] at free
        rcases List.mem_append.mp mem with mem | mem
        · exact isImportFree_of_mem_map_case free.1 mem
        · exact isImportFree_of_mem_map_stmt free.2 mem

/-- **Without an import in a program there is none at any node of it.** -/
theorem StandsIn.isImportFree (h : node.StandsIn program)
    (free : Stmt.areImportFree program = true) : node.isImportFree = true := by
  induction h with
  | top mem => exact Stmt.isImportFree_of_mem free mem
  | @part whole _ _ mem ih =>
    cases whole with
    | expr expression => exact isImportFree_of_mem_map_expr mem
    | stmt statement => exact isImportFree_of_mem_stmtParts ih mem
    | case chosen =>
      rcases List.mem_cons.mp mem with rfl | mem
      · rfl
      · exact isImportFree_of_mem_map_stmt ih mem

end Node

end ReactiveScript
