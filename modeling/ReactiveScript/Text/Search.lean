import ReactiveScript.Text.Blank

/-! # Finding and dividing texts

A part occurs in a text if the text goes on with it somewhere. A text is divided at every occurrence
of a separator, from the left and without overlaps. -/

namespace ReactiveScript.Text

/-- Whether a part occurs in a text. -/
def occurs (part : List Char) : List Char → Bool
  | [] => part.isEmpty
  | c :: rest => part.isPrefixOf (c :: rest) || occurs part rest

/-- Puts a character before the first piece. -/
def extendFirst (c : Char) : List (List Char) → List (List Char)
  | [] => [[c]]
  | piece :: pieces => (c :: piece) :: pieces

/-- The pieces of a text between the occurrences of a separator, after some characters that still
belong to the last occurrence. -/
def piecesAfter (separator : List Char) : Nat → List Char → List (List Char)
  | _, [] => [[]]
  | skipped + 1, _ :: rest => piecesAfter separator skipped rest
  | 0, c :: rest =>
    if separator.isPrefixOf (c :: rest) then
      [] :: piecesAfter separator (separator.length - 1) rest
    else extendFirst c (piecesAfter separator 0 rest)

/-- The pieces of a text between the occurrences of a separator. -/
def pieces (separator text : List Char) : List (List Char) := piecesAfter separator 0 text

/-- The pieces of a text between blank characters, empty ones included. -/
def blankPieces : List Char → List (List Char)
  | [] => [[]]
  | c :: rest => if isBlank c then [] :: blankPieces rest else extendFirst c (blankPieces rest)

/-- The words of a text, divided by blank characters. -/
def words (text : List Char) : List (List Char) := (blankPieces text).filter (!·.isEmpty)

example : pieces "ab".toList "abxabab".toList = ["".toList, "x".toList, "".toList, "".toList] := by
  decide

end ReactiveScript.Text
