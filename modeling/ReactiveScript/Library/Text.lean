import ReactiveScript.Machine.Basic
import ReactiveScript.Pattern.Reader
import ReactiveScript.Pattern.Replacement
import ReactiveScript.Text.Search
import ReactiveScript.Value.Text

/-! # Texts

Patterns, splitting and joining, and letter case. -/

namespace ReactiveScript

/-- The bytes that the machine of a pattern may take. -/
def patternLimit : Nat := 10 * Nat.pow 2 20

/-- The bytes that a state of the machine of a pattern takes. -/
def stateBytes : Nat := 32

/-- The pattern that a text spells; one that repeats too much is refused. -/
def readPattern (text : String) : Except Fault NamedPattern :=
  match NamedPattern.read text with
  | .error fault => .error (Cause.patternInvalid text (fault.render text)).fault
  | .ok named =>
    if patternLimit < stateBytes * named.pattern.states then
      .error (Cause.patternInvalid text
        s!"Compiled regex exceeds size limit of {patternLimit} bytes.").fault
    else .ok named

/-- A new list of texts. -/
def Alloc.texts (texts : List (List Char)) : Alloc Value :=
  Alloc.newList .text (texts.map fun chars => .text (String.ofList chars))

namespace Call

/-- Demands a text at a place that is a pattern. -/
def pattern (call : Call) (place : Nat) : Except Fault NamedPattern := do
  readPattern (← call.text place)

/-- The pieces of the first argument between the separators or blanks. -/
def split (call : Call) : Except Fault (List (List Char)) := do
  let whole ← call.text 0
  if call.arguments.length ≤ 1 then return Text.words whole.toList
  else
    let separator ← call.text 1
    if separator.isEmpty then throw Cause.separatorEmpty.fault
    else return Text.pieces separator.toList whole.toList

/-- The only argument, changed. -/
def changed (call : Call) (change : String → String) : Except Fault Value := do
  call.expect 1
  return .text (change (← call.text 0))

end Call

namespace Eval

/-- A function on texts. -/
def text (function : TextFunction) (call : Call) : Eval Value := do
  match function with
  | .matches =>
    ofExcept (call.expect 2)
    let pattern ← ofExcept (call.pattern 1)
    let whole ← ofExcept (call.text 0)
    return .boolean (pattern.machine.occursIn whole.toList)
  | .findAll =>
    ofExcept (call.expect 2)
    let pattern ← ofExcept (call.pattern 1)
    let whole ← ofExcept (call.text 0)
    alloc (Alloc.texts (pattern.findAll whole.toList))
  | .replace =>
    ofExcept (call.expect 3)
    let pattern ← ofExcept (call.pattern 1)
    let whole ← ofExcept (call.text 0)
    let replacement ← ofExcept (call.text 2)
    return .text (String.ofList (pattern.replaceAll whole.toList replacement.toList))
  | .split =>
    let pieces ← ofExcept call.split
    alloc (Alloc.texts pieces)
  | .join =>
    ofExcept (call.expect 2)
    let handle ← ofExcept (call.list 0)
    let separator ← ofExcept (call.text 1)
    let texts ← looking fun store => ended ((store.list handle).items.mapM store.render)
    return .text (separator.intercalate texts)
  | .upper => ofExcept (call.changed Text.upper)
  | .lower => ofExcept (call.changed Text.lower)
  | .trim => ofExcept (call.changed Text.trimmed)

end Eval

end ReactiveScript
