import ReactiveScript.Text.Visible

/-! # Quoted text

The written form of a text inside other output: between double quotes, with a backslash before what
would end or hide it. A character that does not show as itself is written by its code point. -/

namespace ReactiveScript.Text

/-- The lower-case hexadecimal digits of a code point, without leading zeros. -/
def hexDigits (point : Nat) : List Char :=
  Nat.toDigits 16 point

/-- How one character is written between double quotes. -/
def quoteChar (c : Char) : List Char :=
  if c = '\x00' then ['\\', '0']
  else if c = '\t' then ['\\', 't']
  else if c = '\r' then ['\\', 'r']
  else if c = '\n' then ['\\', 'n']
  else if c = '\\' then ['\\', '\\']
  else if c = '"' then ['\\', '"']
  else if isVisible c then [c]
  else ['\\', 'u', '{'] ++ hexDigits c.toNat ++ ['}']

/-- The characters of a quoted text, the quotes included. -/
def quoteChars (chars : List Char) : List Char :=
  '"' :: (chars.flatMap quoteChar ++ ['"'])

/-- A text between double quotes. -/
def quoted (text : String) : String :=
  String.ofList (quoteChars text.toList)

end ReactiveScript.Text
