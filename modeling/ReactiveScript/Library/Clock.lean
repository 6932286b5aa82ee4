import ReactiveScript.Calendar
import ReactiveScript.Machine.Basic

/-! # The clock -/

namespace ReactiveScript

/-- The seconds since the beginning of 1970. -/
def World.seconds (world : World) : Float := Float.ofNat world.clock / 1000

/-- A function that reads the clock. -/
def Eval.clock (function : ClockFunction) (call : Call) : Eval Value := do
  let world := (← get).world
  match function with
  | .now => return .text (timeText world.clock)
  | .timestamp => return .float world.seconds
  | .elapsed =>
    ofExcept (call.expect 1)
    let since ← ofExcept (call.number 0)
    return .float (world.seconds - since)

end ReactiveScript
