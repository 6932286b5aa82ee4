import ReactiveScript.Number.Layout
import ReactiveScript.Text.Quoted
import ReactiveScript.Value.Reading

/-! # The text of values

What a program prints, and two forms for people who look into it: one that quotes texts, as they
stand inside containers, and one that also tells the kind. -/

namespace ReactiveScript

/-- Numbers of a program: never with an exponent, and whole numbers below `10 ^ 16` with a fraction
of zero. -/
def canonicalLayout : Number.Layout where
  positional := none
  pointBelow := 16
  exponentPlus := false
  tie := .up
  notANumber := "nan"

/-- Numbers in messages: never with an exponent, and whole numbers without a fraction. -/
def messageLayout : Number.Layout where
  positional := none
  pointBelow := 0
  exponentPlus := false
  tie := .up
  notANumber := "NaN"

/-- Numbers in the form that tells the kind: an exponent outside `10 ^ -4` to `10 ^ 16`. -/
def inspectLayout : Number.Layout where
  positional := some (-4, 15)
  pointBelow := 16
  exponentPlus := false
  tie := .up
  notANumber := "NaN"

/-- The text of a floating-point number. -/
def floatText (x : Float) : String := canonicalLayout.write x

/-- The text of an integer. -/
def intText (n : Int64) : String := toString n.toInt

/-- The text of a complex number: the sign of the imaginary part stands between the parts. -/
def complexText (re im : Float) : String :=
  if im < 0 then floatText re ++ " - " ++ floatText (-im) ++ "j"
  else floatText re ++ " + " ++ floatText im ++ "j"

/-- The text of a truth value. -/
def booleanText (b : Bool) : String := if b then "true" else "false"

namespace Datum

mutual

/-- The text of a value inside a container, where texts are quoted. -/
def inner : Datum → String
  | .int n => intText n
  | .float x => floatText x
  | .complex re im => complexText re im
  | .boolean b => booleanText b
  | .text s => Text.quoted s
  | .void => "void"
  | .untyped => "?"
  | .list _ _ items => "[" ++ ", ".intercalate (innerItems items) ++ "]"
  | .dict _ _ _ entries => "\x7b" ++ ", ".intercalate (innerEntries entries) ++ "\x7d"
  | .cycle _ => "..."

/-- The texts of the items of a list. -/
def innerItems : List Datum → List String
  | [] => []
  | item :: items => inner item :: innerItems items

/-- The texts of the entries of a dictionary. -/
def innerEntries : List (Datum × Datum) → List String
  | [] => []
  | (key, value) :: entries => (inner key ++ ": " ++ inner value) :: innerEntries entries

end

/-- The text of a value. -/
def render : Datum → String
  | .text s => s
  | other => inner other

/-- The form of a value that tells its kind. -/
def inspect : Datum → String
  | .int n => "Int(" ++ intText n ++ ")"
  | .float x => "Float(" ++ inspectLayout.write x ++ ")"
  | .complex re im => "Complex(" ++ inspectLayout.write re ++ ", " ++ inspectLayout.write im ++ ")"
  | .boolean b => "Boolean(" ++ booleanText b ++ ")"
  | .text s => "String(" ++ Text.quoted s ++ ")"
  | .void => "Void"
  | .untyped => "Untyped"
  | .list handle element items =>
    "List<" ++ element.render ++ ">" ++ inner (.list handle element items)
  | .dict handle key value entries => "Dict" ++ inner (.dict handle key value entries)
  | .cycle _ => "..."

end Datum

/-- The text of a value, if reading it comes to an end. -/
def Store.render (store : Store) (value : Value) : Option String :=
  (store.read value).map Datum.render

end ReactiveScript
