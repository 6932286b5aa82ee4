import ReactiveScript.Machine.Evaluate

/-! # Running programs

A program is run statement by statement; its value is that of the last statement, or the one it
leaves with. A fault that reaches the top ends the program and stops the machine for good. A budget
bounds how deep bodies are run inside each other and how often a loop goes round. -/

namespace ReactiveScript

namespace Eval

/-- Runs a body within a budget. -/
def bodyWithin : Nat → Runner
  | 0, _ => exhausted
  | budget + 1, statements => block (bodyWithin budget) budget statements

/-- Evaluates an expression within a budget. -/
def exprWithin (budget : Nat) (expression : Expr) : Eval Value :=
  expr (bodyWithin budget) budget expression

/-- Executes a statement within a budget. -/
def stmtWithin (budget : Nat) (statement : Stmt) : Eval Flow :=
  stmt (bodyWithin budget) budget statement

/-- Executes the statements of a program; gives the value of the last one, or that which the program
leaves with, or the value of what came before if there is none. -/
def topLevel (budget : Nat) (last : Value) : List Stmt → Eval Value
  | [] => return last
  | first :: rest => do
    match ← stmtWithin budget first with
    | .next value => topLevel budget value rest
    | .leave value => return value

/-- An evaluation whose fault stops the machine. -/
def halting {α : Type} (action : Eval α) : Eval α := fun machine =>
  match action machine with
  | .ok value machine => .ok value machine
  | .error (.fault fault) machine => .error (.fault fault) { machine with running := false }
  | .error .exhausted machine => .error .exhausted machine

/-- Runs a program. -/
def program (budget : Nat) (statements : List Stmt) : Eval Value :=
  halting (topLevel budget .void statements)

/-- Reads and runs a source text. -/
def source (budget : Nat) (text : String) : Eval Value :=
  match readProgram text with
  | .ok statements => program budget statements
  | .error fault => halting (throw (.fault fault))

/-- Waits until every handler has run. -/
def waitForHandlers (budget : Nat) : Eval Unit := settle (bodyWithin budget) budget

end Eval

/-- The expression that a text spells, nothing if it spells another statement first. -/
def readExpression (text : String) : Except Fault (Option Expr) := do
  match ← readProgram (text ++ ";") with
  | .expression _ value :: _ => return some value
  | _ => return none

/-- How an evaluation ends, and the machine after it. -/
structure Outcome (α : Type) where
  /-- The value, or why there is none. -/
  result : Except Stop α
  /-- The machine afterwards. -/
  machine : Machine

/-- The outcome of an evaluation on a machine. -/
def Machine.perform {α : Type} (machine : Machine) (action : Eval α) : Outcome α :=
  match action machine with
  | .ok value after => ⟨.ok value, after⟩
  | .error stop after => ⟨.error stop, after⟩

/-- Evaluates and then waits until every handler has run. -/
def Machine.performAndWait (machine : Machine) (budget : Nat) (action : Eval Value) :
    Outcome Value :=
  let outcome := machine.perform action
  let waited := outcome.machine.perform (Eval.waitForHandlers budget)
  match waited.result with
  | .ok () => ⟨outcome.result, waited.machine⟩
  | .error stop => ⟨.error stop, waited.machine⟩

end ReactiveScript
