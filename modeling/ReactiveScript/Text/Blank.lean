import ReactiveScript.Text.Ranges

/-! # Blank characters and trimming

The 25 white-space characters, and texts without them at an end. -/

namespace ReactiveScript.Text

/-- The blank characters. -/
def blankRanges : Ranges :=
  #[(0x9, 0xD), (0x20, 0x20), (0x85, 0x85), (0xA0, 0xA0), (0x1680, 0x1680), (0x2000, 0x200A),
    (0x2028, 0x2029), (0x202F, 0x202F), (0x205F, 0x205F), (0x3000, 0x3000)]

/-- Whether a character is blank. -/
def isBlank (c : Char) : Bool :=
  blankRanges.holds c

/-- The characters after the leading blanks. -/
def trimStart (chars : List Char) : List Char :=
  chars.dropWhile isBlank

/-- The characters before the trailing blanks. -/
def trimEnd (chars : List Char) : List Char :=
  (chars.reverse.dropWhile isBlank).reverse

/-- The characters between the leading and the trailing blanks. -/
def trim (chars : List Char) : List Char :=
  trimEnd (trimStart chars)

/-- A text without the blanks at its ends. -/
def trimmed (text : String) : String :=
  String.ofList (trim text.toList)

@[simp] theorem trim_nil : trim [] = [] := rfl

end ReactiveScript.Text
