/-! # Lines

A line ends with a line feed, and a carriage return right before it belongs to the line end. -/

namespace ReactiveScript.Text

/-- A line without the carriage return of its line end. -/
def withoutReturn (line : String) : String :=
  if line.endsWith "\r" then (line.dropEnd 1).toString else line

/-- The lines of a text, without their line ends. A line end at the end of the text begins no
line. -/
def lines (text : String) : List String :=
  let pieces := text.splitOn "\n"
  pieces.dropLast.map withoutReturn ++ (pieces.getLast?.filter (!·.isEmpty)).toList

end ReactiveScript.Text
