import ReactiveScript.Machine.Basic
import ReactiveScript.Value.Text

/-! # The outside

Printing, reading lines, files, the arguments of the program, and pauses. -/

namespace ReactiveScript

namespace Machine

/-- The machine after a text is printed. -/
def print (machine : Machine) (text : String) : Machine :=
  { machine with world := { machine.world with output := machine.world.output ++ text } }

end Machine

/-- The first line of a text with its end, and the rest. -/
def splitLine : List Char → List Char × List Char
  | [] => ([], [])
  | c :: rest =>
    if c = '\n' then ([c], rest)
    else
      let (line, after) := splitLine rest
      (c :: line, after)

/-- A line without the characters that end lines. -/
def chompLine (line : List Char) : List Char :=
  (line.reverse.dropWhile fun c => c = '\n' || c = '\r').reverse

/-- The length of a pause at which clocks give up. -/
def pauseLimit : Float := 18446744073709551616

namespace Eval

/-- The texts of values. -/
def render (value : Value) : Eval String := looking fun store => ended (store.render value)

/-- Prints values, divided by spaces, as a line. -/
def print (call : Call) : Eval Value := do
  let texts ← call.arguments.mapM render
  modify (·.print (" ".intercalate texts ++ "\n"))
  return .void

/-- Reads a line without what ends it; where there is none yet, the evaluation is cut off. -/
def readLine : Eval Value := do
  let world := (← get).world
  if world.input.isEmpty && world.moreInput then
    modify ({ · with world := { world with starved := true } })
    exhausted
  else
    let (line, rest) := splitLine world.input
    modify ({ · with world := { world with input := rest } })
    return .text (String.ofList (chompLine line))

/-- Reads a line after a prompt. -/
def input (call : Call) : Eval Value :=
  match call.arguments with
  | prompt :: _ => do
    let text ← render prompt
    modify (·.print text)
    readLine
  | [] => readLine

/-- The text of a file. -/
def readFile (path : String) : Eval String := do
  match (← get).world.files.read path with
  | .ok text => return text
  | .error problem => fail (.unreadable path problem.render)

/-- Replaces a file by a text. -/
def writeFile (path text : String) : Eval Unit := do
  match (← get).world.files.write path text with
  | .ok files =>
    modify fun machine =>
      { machine with
        world := { machine.world with files, revisions := machine.world.revisions ++ [files] } }
  | .error problem => fail (.unwritable path problem.render)

/-- Lets time pass. -/
def pause (seconds : Float) : Eval Unit := do
  if !seconds.isFinite || seconds < 0 then
    fail (.pauseNegative (messageLayout.write seconds))
  else if pauseLimit ≤ seconds then
    fail (.pauseTooLong (messageLayout.write seconds)
      "cannot convert float seconds to Duration: value is either too big or NaN")
  else
    let passed := (seconds * 1000).ceil.toUInt64.toNat
    modify fun machine =>
      { machine with world := { machine.world with clock := machine.world.clock + passed } }

/-- A function that talks to the outside. -/
def console (function : ConsoleFunction) (call : Call) : Eval Value := do
  match function with
  | .print => print call
  | .input => input call
  | .read =>
    ofExcept (call.expect 1)
    let text ← readFile (← ofExcept (call.text 0))
    return .text text
  | .write =>
    ofExcept (call.expect 2)
    let path ← ofExcept (call.text 0)
    let text ← render (← ofExcept (call.argument 1))
    writeFile path text
    return .void
  | .args =>
    let arguments := (← get).world.arguments
    alloc (Alloc.newList .text (arguments.map .text))
  | .sleep =>
    ofExcept (call.expect 1)
    pause (← ofExcept (call.number 0))
    return .void

end Eval

end ReactiveScript
