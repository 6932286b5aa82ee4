import ReactiveScript.Fault
import ReactiveScript.Text.Lines

/-! # Diagnostics

A fault shown with the line of the source that it points at. -/

namespace ReactiveScript

/-- A number, at least three characters wide. -/
def lineLabel (line : Nat) : String :=
  let digits := toString line
  String.ofList (List.replicate (3 - digits.length) ' ') ++ digits

/-- What stands before the caret of a column: a tab below a tab, and blanks below the rest. -/
def caretPadding (line : String) (column : Nat) : String :=
  String.ofList ((line.toList.take (column - 1)).map fun c => if c = '\t' then '\t' else ' ')

/-- The line of a source that a fault points at. -/
def pointedLine (source : String) (span : Span) : Option String :=
  if span.line = 0 then none else (Text.lines source)[span.line - 1]?

/-- A fault with its place in a source file, the line there, and advice. -/
def Fault.diagnose (fault : Fault) (file source : String) : String :=
  let pointer :=
    match pointedLine source fault.span with
    | none => s!"  --> {file}\n"
    | some line =>
      s!"  --> {file}:{fault.span.line}:{fault.span.column.getD 1}\n   |\n" ++
        s!"{lineLabel fault.span.line} | {line}\n" ++
        (match fault.span.column with
          | some column => s!"   | {caretPadding line column}^\n"
          | none => "")
  let advice :=
    match fault.help with
    | some help => s!"help: {help}\n"
    | none => ""
  s!"{fault.render}\n" ++ pointer ++ advice

end ReactiveScript
