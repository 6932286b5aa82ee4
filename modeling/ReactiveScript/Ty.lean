import ReactiveScript.Text.Blank

/-! # Types

The types that declarations, casts and container tags name, their text, and the reader of that text.
The reader takes any text: what it does not recognise becomes an unknown type of that name. -/

namespace ReactiveScript

/-- A type of the language. -/
inductive Ty where
  | int
  | float
  | complex
  | boolean
  | text
  | void
  /-- The type that every value has. -/
  | any
  /-- Lists with elements of a type. -/
  | list (element : Ty)
  /-- Dictionaries with keys and values of a type each. -/
  | dict (key value : Ty)
  /-- A name that is no type. -/
  | unknown (name : String)
deriving DecidableEq, Repr, Inhabited

namespace Ty

/-- Lists of anything. -/
def anyList : Ty := .list .any

/-- Dictionaries of anything. -/
def anyDict : Ty := .dict .any .any

/-- Whether a type admits every value. -/
def isAny (type : Ty) : Bool := type = .any

/-- Whether a type is one of the three kinds of number. -/
def isNumeric : Ty → Bool
  | .int | .float | .complex => true
  | _ => false

/-- Whether a type is the name of no type. -/
def isUnknown : Ty → Bool
  | .unknown _ => true
  | _ => false

/-- The text of a type; containers of anything are written without their parameters. -/
def render : Ty → String
  | .int => "int"
  | .float => "float"
  | .complex => "complex"
  | .boolean => "boolean"
  | .text => "string"
  | .void => "void"
  | .any => "?"
  | .list element => if element.isAny then "list" else "list<" ++ element.render ++ ">"
  | .dict key value =>
    if key.isAny && value.isAny then "dict"
    else "dict<" ++ key.render ++ ", " ++ value.render ++ ">"
  | .unknown name => name

/-- The tag that stands for a type in listings. -/
def tag (type : Ty) : String :=
  if type.isAny then "UNTYPED" else type.render

/-- What stands between the angle brackets that follow a head word. -/
def unwrapGeneric (head chars : List Char) : Option (List Char) :=
  if head.isPrefixOf chars then
    match Text.trimStart (chars.drop head.length) with
    | '<' :: inner => if inner.getLast? = some '>' then some inner.dropLast else none
    | _ => none
  else none

/-- Splits at the first comma outside angle brackets; `depth` brackets are open. -/
def splitAtComma (depth : Nat) : List Char → Option (List Char × List Char)
  | [] => none
  | c :: rest =>
    if c = ',' ∧ depth = 0 then some ([], rest)
    else
      let inner := if c = '<' then depth + 1 else if c = '>' then depth - 1 else depth
      (splitAtComma inner rest).map fun (left, right) => (c :: left, right)

/-- The type that a word without parameters names. -/
def ofWord (word : String) : Ty :=
  if word = "int" then .int
  else if word = "float" then .float
  else if word = "complex" then .complex
  else if word = "boolean" then .boolean
  else if word = "string" then .text
  else if word = "void" then .void
  else if word = "?" ∨ word = "untyped" then .any
  else if word = "list" then anyList
  else if word = "dict" then anyDict
  else .unknown word

/-- Dropping leading characters does not make a text longer. -/
theorem length_dropWhile_le (p : Char → Bool) (chars : List Char) :
    (chars.dropWhile p).length ≤ chars.length := by
  induction chars with
  | nil => simp
  | cons c rest ih =>
    rw [List.dropWhile_cons]
    split
    · exact Nat.le_succ_of_le ih
    · exact Nat.le_refl _

/-- Trimming does not make a text longer. -/
theorem length_trim_le (chars : List Char) : (Text.trim chars).length ≤ chars.length := by
  have start : (Text.trimStart chars).length ≤ chars.length := length_dropWhile_le _ chars
  have finish := length_dropWhile_le Text.isBlank (Text.trimStart chars).reverse
  simp only [List.length_reverse] at finish
  simp only [Text.trim, Text.trimEnd, List.length_reverse]
  omega

/-- What stands between the angle brackets is shorter than the whole. -/
theorem length_lt_of_unwrapGeneric {head chars inner : List Char}
    (h : unwrapGeneric head chars = some inner) : inner.length < chars.length := by
  unfold unwrapGeneric at h
  split at h
  · split at h
    · rename_i rest opened
      split at h
      · cases h
        have shorter := length_dropWhile_le Text.isBlank (chars.drop head.length)
        change (Text.trimStart (chars.drop head.length)).length ≤ _ at shorter
        rw [opened] at shorter
        simp only [List.length_cons, List.length_drop] at shorter
        simp only [List.length_dropLast]
        omega
      · cases h
    · cases h
  · cases h

/-- The comma is lost, so both parts together are shorter than the whole. -/
theorem length_lt_of_splitAtComma {depth : Nat} {chars left right : List Char}
    (h : splitAtComma depth chars = some (left, right)) :
    left.length + right.length < chars.length := by
  induction chars generalizing depth left right with
  | nil => simp [splitAtComma] at h
  | cons c rest ih =>
    unfold splitAtComma at h
    split at h
    · cases h
      simp
    · obtain ⟨⟨l, r⟩, found, same⟩ := Option.map_eq_some_iff.1 h
      cases same
      have := ih found
      simp only [List.length_cons]
      omega

/-- The type that a text names. -/
def readChars (chars : List Char) : Ty :=
  match _isList : unwrapGeneric "list".toList (Text.trim chars) with
  | some inner => .list (readChars inner)
  | none =>
    match _isDict : unwrapGeneric "dict".toList (Text.trim chars) with
    | some inner =>
      match _parts : splitAtComma 0 inner with
      | some (key, value) => .dict (readChars key) (readChars value)
      | none => .unknown (String.ofList (Text.trim chars))
    | none => ofWord (String.ofList (Text.trim chars))
termination_by chars.length
decreasing_by
  · have := length_lt_of_unwrapGeneric _isList
    have := length_trim_le chars
    omega
  · have := length_lt_of_splitAtComma _parts
    have := length_lt_of_unwrapGeneric _isDict
    have := length_trim_le chars
    omega
  · have := length_lt_of_splitAtComma _parts
    have := length_lt_of_unwrapGeneric _isDict
    have := length_trim_le chars
    omega

/-- The type that a text names. -/
def read (text : String) : Ty := readChars text.toList

end Ty

end ReactiveScript
