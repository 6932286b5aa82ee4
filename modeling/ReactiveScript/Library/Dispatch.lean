import ReactiveScript.Library.Clock
import ReactiveScript.Library.Collection
import ReactiveScript.Library.Exchange
import ReactiveScript.Library.Math
import ReactiveScript.Library.Text

/-! # Calling built-in functions -/

namespace ReactiveScript

/-- A call of a built-in function, where waiting for handlers is left to `settle`. -/
def Eval.native (settle : Eval Unit) (native : Native) (call : Call) : Eval Value :=
  match native with
  | .console function => console function call
  | .collection function => collection function call
  | .math function => math function call
  | .document function => document function call
  | .text function => text function call
  | .clock function => clock function call
  | .settle => do
    settle
    return .void
  | .host run => alloc (run call)

end ReactiveScript
