import ReactiveScript.Json.Document

/-! # Writing documents

In one line without blanks, or over several lines with two blanks of indentation for every level. -/

namespace ReactiveScript

namespace Document

/-- Numbers in documents: an exponent outside `10 ^ -5` to `10 ^ 16`, with its sign. -/
def layout : Number.Layout where
  positional := some (-5, 15)
  pointBelow := 16
  exponentPlus := true
  tie := .even
  notANumber := "NaN"

/-- How one character of a text is written: quotes, backslashes and control characters are
escaped. -/
def escapeChar (c : Char) : List Char :=
  if c = '"' then ['\\', '"']
  else if c = '\\' then ['\\', '\\']
  else if c = '\x08' then ['\\', 'b']
  else if c = '\t' then ['\\', 't']
  else if c = '\n' then ['\\', 'n']
  else if c = '\x0c' then ['\\', 'f']
  else if c = '\r' then ['\\', 'r']
  else if c.toNat < 0x20 then
    ['\\', 'u', '0', '0', Nat.digitChar (c.toNat / 16), Nat.digitChar (c.toNat % 16)]
  else [c]

/-- A text in a document. -/
def quote (text : String) : String :=
  String.ofList ('"' :: (text.toList.flatMap escapeChar ++ ['"']))

mutual

/-- A document in one line. -/
def compact : Document → String
  | .null => "null"
  | .boolean b => booleanText b
  | .integer n => intText n
  | .float x => layout.write x
  | .text s => quote s
  | .array items => "[" ++ ",".intercalate (compactItems items) ++ "]"
  | .object members => "\x7b" ++ ",".intercalate (compactMembers members) ++ "\x7d"

/-- The items of an array, each in one line. -/
def compactItems : List Document → List String
  | [] => []
  | item :: items => compact item :: compactItems items

/-- The members of an object, each in one line. -/
def compactMembers : List (String × Document) → List String
  | [] => []
  | (name, value) :: members => (quote name ++ ":" ++ compact value) :: compactMembers members

end

/-- The start of a line at some level. -/
def newLine (level : Nat) : String := "\n" ++ String.ofList (List.replicate (2 * level) ' ')

/-- Parts between brackets, each on a line of its own; brackets without parts stand together. -/
def bracketed (level : Nat) (left right : String) (parts : List String) : String :=
  if parts.isEmpty then left ++ right
  else
    left ++ newLine (level + 1) ++ ("," ++ newLine (level + 1)).intercalate parts ++
      newLine level ++ right

mutual

/-- A document over several lines, at some level. -/
def prettyAt (level : Nat) : Document → String
  | .array items => bracketed level "[" "]" (prettyItems (level + 1) items)
  | .object members => bracketed level "\x7b" "\x7d" (prettyMembers (level + 1) members)
  | .null => "null"
  | .boolean b => booleanText b
  | .integer n => intText n
  | .float x => layout.write x
  | .text s => quote s

/-- The items of an array over several lines. -/
def prettyItems (level : Nat) : List Document → List String
  | [] => []
  | item :: items => prettyAt level item :: prettyItems level items

/-- The members of an object over several lines. -/
def prettyMembers (level : Nat) : List (String × Document) → List String
  | [] => []
  | (name, value) :: members =>
    (quote name ++ ": " ++ prettyAt level value) :: prettyMembers level members

end

/-- A document over several lines. -/
def pretty (document : Document) : String := prettyAt 0 document

end Document

end ReactiveScript
