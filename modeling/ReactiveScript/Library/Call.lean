import ReactiveScript.Value.Basic

/-! # Calls of built-in functions

A built-in function sees the name it was called by and the values of its arguments. It asks for its
arguments by place and kind, and the first demand that is not met is the fault of the call. -/

namespace ReactiveScript

/-- A call of a built-in function. -/
structure Call where
  /-- The name that the function was called by, which messages repeat. -/
  name : String
  /-- The values of the arguments in order. -/
  arguments : List Value

namespace Call

/-- Demands a number of arguments. -/
def expect (call : Call) (count : Nat) : Except Fault Unit :=
  if call.arguments.length = count then .ok ()
  else .error (Cause.argumentCount call.name count call.arguments.length).fault

/-- Demands the argument at a place, counted from zero. -/
def argument (call : Call) (place : Nat) : Except Fault Value :=
  match call.arguments[place]? with
  | some value => .ok value
  | none => .error (Cause.argumentMissing call.name (place + 1)).fault

/-- The fault of an argument that is not of the kind demanded. -/
def wrongKind (call : Call) (place : Nat) (kind : String) (found : Value) : Fault :=
  (Cause.argumentKind call.name (place + 1) kind found.kindName).fault

/-- Demands an argument that a reading of values accepts. -/
def demand {α : Type} (call : Call) (kind : String) (read : Value → Option α) (place : Nat) :
    Except Fault α := do
  let value ← call.argument place
  match read value with
  | some result => return result
  | none => throw (call.wrongKind place kind value)

/-- Demands an integer. -/
def int (call : Call) : Nat → Except Fault Int64 := call.demand "int" Value.asInt?

/-- Demands a real number. -/
def number (call : Call) : Nat → Except Fault Float := call.demand "number" Value.asFloat?

/-- Demands a text. -/
def text (call : Call) : Nat → Except Fault String := call.demand "string" Value.asText?

/-- Demands a list. -/
def list (call : Call) : Nat → Except Fault Handle :=
  call.demand "list" fun
    | .list handle => some handle
    | _ => none

/-- Demands a dictionary. -/
def dict (call : Call) : Nat → Except Fault Handle :=
  call.demand "dict" fun
    | .dict handle => some handle
    | _ => none

end Call

end ReactiveScript
