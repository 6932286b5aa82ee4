import ReactiveScript.Syntax.Operator
import ReactiveScript.Ty

/-! # Programs as trees

Expressions and statements, each with the place that a message about it names. -/

namespace ReactiveScript

/-- A value that is written out in a program. -/
inductive Literal where
  | int (value : Int64)
  | float (value : Float)
  | imaginary (value : Float)
  | boolean (value : Bool)
  | text (value : String)

/-- An expression. -/
inductive Expr where
  | literal (span : Span) (value : Literal)
  | var (span : Span) (name : String)
  | binary (span : Span) (op : BinaryOp) (left right : Expr)
  | logical (span : Span) (op : LogicalOp) (left right : Expr)
  | comparison (span : Span) (op : CompareOp) (left right : Expr)
  | unary (span : Span) (op : UnaryOp) (operand : Expr)
  | cast (span : Span) (target : Ty) (operand : Expr)
  | call (span : Span) (function : String) (arguments : List Expr)
  /-- The integers from one bound to the other, the second included if so said. -/
  | range (span : Span) (first last : Expr) (step : Option Expr) (inclusive : Bool)
  | list (span : Span) (items : List Expr)
  | dict (span : Span) (entries : List (Expr × Expr))
  | index (span : Span) (target position : Expr)

/-- The place of an expression. -/
def Expr.span : Expr → Span
  | .literal span _ => span
  | .var span _ => span
  | .binary span .. => span
  | .logical span .. => span
  | .comparison span .. => span
  | .unary span .. => span
  | .cast span .. => span
  | .call span .. => span
  | .range span .. => span
  | .list span _ => span
  | .dict span _ => span
  | .index span .. => span

/-- A parameter of a function. -/
structure Param where
  /-- The type that an argument is converted to. -/
  type : Ty
  /-- The name under which the body sees the argument. -/
  name : String
deriving DecidableEq, Repr, Inhabited

/-- A case of a choice: its label and the statements that run when it is chosen. -/
structure Case (Statement : Type) where
  /-- Where the case starts. -/
  span : Span
  /-- The value that the subject is compared with. -/
  label : Expr
  /-- What runs when they are the same. -/
  body : List Statement

/-- A statement. -/
inductive Stmt where
  | expression (span : Span) (value : Expr)
  | declaration (span : Span) (type : Ty) (name : String) (value : Option Expr)
  | assignment (span : Span) (name : String) (value : Expr)
  /-- An assignment that combines the old value with a new one. -/
  | compound (span : Span) (name : String) (op : BinaryOp) (value : Expr)
  /-- An assignment to one element of a container. -/
  | element (span : Span) (target position value : Expr)
  | function (span : Span) (returns : Ty) (name : String) (params : List Param) (body : List Stmt)
  /-- The end of a function body, with its result. -/
  | leave (span : Span) (value : Option Expr)
  /-- A fault made by the program. -/
  | raise (span : Span) (value : Expr)
  /-- The functions of a module or library become available. -/
  | load (span : Span) (path : String) (label : Option String)
  | branch (span : Span) (condition : Expr) (thenBody : List Stmt) (elseBody : Option (List Stmt))
  /-- A loop that runs its body `preroll` times before it looks at the condition. -/
  | whileLoop (span : Span) (condition : Expr) (preroll : Nat) (body : List Stmt)
  /-- As `whileLoop`, with the opposite condition. -/
  | untilLoop (span : Span) (condition : Expr) (preroll : Nat) (body : List Stmt)
  | forLoop (span : Span) (first : Stmt) (condition : Expr) (step : Stmt) (body : List Stmt)
  | forEach (span : Span) (type : Ty) (name : String) (iterable : Expr) (body : List Stmt)
  | choice (span : Span) (subject : Expr) (cases : List (Case Stmt)) (fallback : Option (List Stmt))
  | signal (span : Span) (name : String)
  | emit (span : Span) (name : String)
  /-- A body that runs whenever a signal is emitted. -/
  | when (span : Span) (signal : String) (body : List Stmt)
  /-- A body that runs whenever a variable changes. -/
  | watch (span : Span) (name : String) (body : List Stmt)

/-- The place of a statement. -/
def Stmt.span : Stmt → Span
  | .expression span _ => span
  | .declaration span .. => span
  | .assignment span .. => span
  | .compound span .. => span
  | .element span .. => span
  | .function span .. => span
  | .leave span _ => span
  | .raise span _ => span
  | .load span .. => span
  | .branch span .. => span
  | .whileLoop span .. => span
  | .untilLoop span .. => span
  | .forLoop span .. => span
  | .forEach span .. => span
  | .choice span .. => span
  | .signal span _ => span
  | .emit span _ => span
  | .when span .. => span
  | .watch span .. => span

/-- A function as the running program knows it. -/
structure Function where
  /-- The name under which it was declared. -/
  name : String
  /-- The type that its result is converted to. -/
  returns : Ty
  /-- Its parameters in order. -/
  params : List Param
  /-- The statements that a call runs. -/
  body : List Stmt
  /-- Where it was declared. -/
  span : Span
  /-- The label of the module that it came from, if it was imported under one. -/
  label : Option String

/-- The name that a function of a labelled module goes by. -/
def labelled (label name : String) : String := label ++ "_" ++ name

/-- A function as it is known after an import under a label. -/
def Function.under (function : Function) (label : String) : Function :=
  { function with name := labelled label function.name, label := some label }

end ReactiveScript
