import ReactiveScript.Library.Dispatch
import ReactiveScript.Machine.Import
import ReactiveScript.Value.Cast
import ReactiveScript.Value.Operate
import ReactiveScript.Value.Range

/-! # Evaluation

Expressions and statements are evaluated by recursion on their trees. Two things go beyond the tree:
the bodies of functions and handlers, which are run by a runner that is given, and loops, which go
round a limited number of times. Both limits come from one budget; a run that is cut off says so
rather than giving an answer. Operands are evaluated from left to right, always all of them. -/

namespace ReactiveScript

/-- A way to run the body of a function or handler. -/
abbrev Runner := List Stmt → Eval Flow

/-- The value of a literal. -/
def Literal.value : Literal → Value
  | .int n => .int n
  | .float x => .float x
  | .imaginary x => .complex 0 x
  | .boolean b => .boolean b
  | .text s => .text s

namespace Machine

/-- The name that a call by a name means: in a function of a labelled module, that of the function
of the module, if there is one. -/
def resolve (machine : Machine) (name : String) : String :=
  match machine.context.label with
  | some label =>
    if machine.hasFunction (labelled label name) then labelled label name else name
  | none => name

/-- The machine inside a call of a function. -/
def enter (machine : Machine) (function : Function) : Machine :=
  { machine with
    scopes := machine.scopes.push
    context := { machine.context with
      callDepth := machine.context.callDepth + 1
      label := function.label } }

/-- The machine after a call of a function by a name: one call fewer is going on, the caller's label
holds again, and the name means the function again whatever happened to it in the call. -/
def leave (machine : Machine) (caller : Context) (name : String) (function : Function) : Machine :=
  { machine with
    scopes := machine.scopes.pop
    functions := machine.functions.insert name function
    context := { machine.context with
      callDepth := machine.context.callDepth - 1
      label := caller.label } }

end Machine

namespace Eval

/-- Binds parameters to arguments, as far as there are both. -/
def bindParams : List Param → List Value → Eval Unit
  | param :: params, argument :: arguments => do
    discard <| declare param.name argument param.type
    bindParams params arguments
  | _, _ => pure ()

/-- Calls a function by a name on the values of its arguments. -/
def invoke (run : Runner) (name : String) (function : Function) (arguments : List Value) :
    Eval Value := do
  let machine ← get
  if machine.config.maxCallDepth ≤ machine.context.callDepth then
    fail (.callDepth machine.config.maxCallDepth name)
  else
    let flow ← bracket (·.enter function) (·.leave machine.context name function) do
      bindParams function.params arguments
      run function.body
    match flow with
    | .leave value => alloc (value.coerce function.returns)
    | .next _ => return .void

/-- Runs a handler in its own context. A fault ends the handler and is kept; it does not reach the
evaluation that waits. -/
def runHandler (run : Runner) (handler : Pending) : Eval Unit := fun machine =>
  match run handler.body { machine with context := handler.context } with
  | .ok _ after => .ok () { after with context := machine.context }
  | .error (.fault fault) after =>
    .ok () { after with
      context := machine.context
      failures := after.failures ++ [⟨handler.label, fault⟩] }
  | .error .exhausted after => .error .exhausted { after with context := machine.context }

/-- Runs the handlers in line, and those that they start, until none is left. -/
def settle (run : Runner) : Nat → Eval Unit
  | 0 => do
    unless (← get).pending.isEmpty do exhausted
  | rounds + 1 => do
    match (← get).pending with
    | [] => pure ()
    | handler :: rest =>
      modify ({ · with pending := rest })
      runHandler run handler
      settle run rounds

/-- Runs a body as long as a test holds. -/
def loopWhile (test : Eval Bool) (body : Eval Flow) : Nat → Eval Flow
  | 0 => exhausted
  | rounds + 1 => do
    if ← test then
      match ← body with
      | .leave value => return .leave value
      | .next _ => loopWhile test body rounds
    else return .next .void

/-- Runs a body a number of times, unless it leaves. -/
def repeatBody (body : Eval Flow) : Nat → Eval Flow
  | 0 => return .next .void
  | count + 1 => do
    match ← body with
    | .leave value => return .leave value
    | .next _ => repeatBody body count

/-- Runs a body once for each of some values, which a variable is declared with. -/
def forEach (declare : Value → Eval Unit) (body : Eval Flow) : List Value → Eval Flow
  | [] => return .next .void
  | item :: items => do
    declare item
    match ← body with
    | .leave value => return .leave value
    | .next _ => forEach declare body items

/-- What a loop over a value goes through. -/
def itemsOf (value : Value) : Eval (List Value) := do
  match value with
  | .list handle => return ((← get).store.list handle).items
  | .dict handle => return ((← get).store.dict handle).entries.map Prod.fst
  | .text s => return Value.characters s
  | other => fail (.notIterable other.kindName)

/-- The bound or step of a range. -/
def rangeBound (role : String) (value : Value) : Eval Int64 :=
  match value.asInt? with
  | some n => pure n
  | none => fail (.rangeKind role value.kindName)

/-- Gives an element of a container a value, and tells the watches. -/
def setElement (container position value : Value) : Eval Unit := do
  match container with
  | .list handle => alloc (Alloc.listSet handle position value)
  | .dict handle => alloc (Alloc.dictSet handle position value)
  | other => fail (.notAssignable other.kindName)
  modify (·.notifyContainer container)

mutual

/-- The value of an expression. -/
def expr (run : Runner) (rounds : Nat) : Expr → Eval Value
  | .literal span value => located span .void (return value.value)
  | .var span name => located span .void (lookup name)
  | .binary span op left right => located span .void do
    let leftValue ← expr run rounds left
    let rightValue ← expr run rounds right
    alloc (Value.binary op leftValue rightValue)
  | .logical span op left right => located span .void do
    let leftValue ← expr run rounds left
    let rightValue ← expr run rounds right
    ofExcept (Value.logical op leftValue rightValue)
  | .comparison span op left right => located span .void do
    let leftValue ← expr run rounds left
    let rightValue ← expr run rounds right
    return .boolean (← looking (Value.compareValues · op leftValue rightValue))
  | .unary span op operand => located span .void do
    let value ← expr run rounds operand
    reading (Value.unary ·.store op value)
  | .cast span target operand => located span .void do
    let value ← expr run rounds operand
    alloc (Value.cast target value)
  | .call span name arguments => located span .void do
    let machine ← get
    let resolved := machine.resolve name
    match machine.natives.find? resolved with
    | some function =>
      let values ← exprs run rounds arguments
      returning (native (settle run rounds) function ⟨resolved, values⟩)
    | none =>
      match machine.functions.find? resolved with
      | some function =>
        let values ← exprs run rounds arguments
        invoke run resolved function values
      | none => fail (.undefinedFunction resolved)
  | .range span first last none inclusive => located span .void do
    let start ← rangeBound "start" (← expr run rounds first)
    let bound ← rangeBound "end" (← expr run rounds last)
    alloc (Alloc.range start bound 1 inclusive)
  | .range span first last (some step) inclusive => located span .void do
    let start ← rangeBound "start" (← expr run rounds first)
    let bound ← rangeBound "end" (← expr run rounds last)
    let size ← rangeBound "step" (← expr run rounds step)
    alloc (Alloc.range start bound size inclusive)
  | .list span items => located span .void do
    let values ← exprs run rounds items
    alloc (Alloc.newList .any values)
  | .dict span entries => located span .void do
    let values ← entryExprs run rounds [] entries
    alloc (Alloc.newDict .any .any values)
  | .index span target position => located span .void do
    let container ← expr run rounds target
    let index ← expr run rounds position
    alloc (Alloc.index container index)

/-- The values of expressions in order. -/
def exprs (run : Runner) (rounds : Nat) : List Expr → Eval (List Value)
  | [] => return []
  | first :: rest => do
    let value ← expr run rounds first
    let values ← exprs run rounds rest
    return value :: values

/-- The entries of a dictionary after some more are evaluated and set in order. -/
def entryExprs (run : Runner) (rounds : Nat) (before : List (Value × Value)) :
    List (Expr × Expr) → Eval (List (Value × Value))
  | [] => return before
  | (key, value) :: rest => do
    let keyValue ← expr run rounds key
    let entryValue ← expr run rounds value
    let set ← looking fun store => ended (store.setEntry none keyValue entryValue before)
    entryExprs run rounds set rest

end

mutual

/-- Executes a statement. -/
def stmt (run : Runner) (rounds : Nat) : Stmt → Eval Flow
  | .expression span value => located span (.next .void) do
    return .next (← expr run rounds value)
  | .declaration span type name none => located span (.next .void) do
    let value ← alloc (Value.zeroOf type)
    discard <| declare name value type
    return .next .void
  | .declaration span type name (some value) => located span (.next .void) do
    let initial ← expr run rounds value
    discard <| declare name initial type
    return .next .void
  | .assignment span name value => located span (.next .void) do
    let assigned ← expr run rounds value
    let stored ← assign name assigned
    afterAssignment name stored
    return .next .void
  | .compound span name op value => located span (.next .void) do
    let old ← lookup name
    let operand ← expr run rounds value
    let updated ← alloc (Value.binary op old operand)
    let stored ← assign name updated
    afterAssignment name stored
    return .next .void
  | .element span target position value => located span (.next .void) do
    let container ← expr run rounds target
    let index ← expr run rounds position
    let assigned ← expr run rounds value
    setElement container index assigned
    return .next .void
  | .function span returns name params body => located span (.next .void) do
    define ⟨name, returns, params, body, span, none⟩
    return .next .void
  | .leave span none => located span (.next .void) (return .leave .void)
  | .leave span (some value) => located span (.next .void) do
    return .leave (← expr run rounds value)
  | .raise span value => located span (.next .void) do
    let thrown ← expr run rounds value
    fail (.thrown (← render thrown))
  | .load span path label => located span (.next .void) do
    load path label
    return .next .void
  | .branch span condition thenBody none => located span (.next .void) do
    if ← truthy (← expr run rounds condition) then block run rounds thenBody
    else return .next .void
  | .branch span condition thenBody (some elseBody) => located span (.next .void) do
    if ← truthy (← expr run rounds condition) then block run rounds thenBody
    else block run rounds elseBody
  | .whileLoop span condition preroll body => located span (.next .void) do
    match ← repeatBody (block run rounds body) preroll with
    | .leave value => return .leave value
    | .next _ =>
      let test := do
        let holds ← truthy (← expr run rounds condition)
        return holds && (← get).running
      loopWhile test (block run rounds body) rounds
  | .untilLoop span condition preroll body => located span (.next .void) do
    match ← repeatBody (block run rounds body) preroll with
    | .leave value => return .leave value
    | .next _ =>
      let test := do
        let holds ← truthy (← expr run rounds condition)
        return !holds && (← get).running
      loopWhile test (block run rounds body) rounds
  | .forLoop span first condition step body => located span (.next .void) do
    discard <| stmt run rounds first
    let test := do truthy (← expr run rounds condition)
    let round := do
      match ← block run rounds body with
      | .leave value => return .leave value
      | .next _ =>
        discard <| stmt run rounds step
        return .next .void
    loopWhile test round rounds
  | .forEach span type name iterable body => located span (.next .void) do
    let items ← itemsOf (← expr run rounds iterable)
    forEach (fun item => discard <| declare name item type) (block run rounds body) items
  | .choice span subject cases fallback => located span (.next .void) do
    let value ← expr run rounds subject
    match ← choose run rounds value cases with
    | some flow => return flow
    | none =>
      match fallback with
      | some body => block run rounds body
      | none => return .next .void
  | .signal span name => located span (.next .void) do
    declareSignal name
    return .next .void
  | .emit span name => located span (.next .void) do
    emit name
    return .next .void
  | .when span name body => located span (.next .void) do
    attachHandler name body
    return .next .void
  | .watch span name body => located span (.next .void) do
    registerWatch name body
    return .next .void

/-- Executes statements in order until one leaves. -/
def block (run : Runner) (rounds : Nat) : List Stmt → Eval Flow
  | [] => return .next .void
  | first :: rest => do
    match ← stmt run rounds first with
    | .leave value => return .leave value
    | .next _ => block run rounds rest

/-- Executes the first case whose label is the same as a value, if there is one. -/
def choose (run : Runner) (rounds : Nat) (subject : Value) : List (Case Stmt) → Eval (Option Flow)
  | [] => return none
  | ⟨span, label, body⟩ :: rest => do
    moveTo span
    let candidate ← blaming span (expr run rounds label)
    if ← looking (fun store => ended (store.same subject candidate)) then
      return some (← block run rounds body)
    else choose run rounds subject rest

end

end Eval

end ReactiveScript
