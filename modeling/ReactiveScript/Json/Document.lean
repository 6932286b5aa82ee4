import ReactiveScript.Value.Convert
import ReactiveScript.Value.Text

/-! # Documents

A JSON document is a tree of plain data. Objects are maps that a library keeps: how a member is set
is a parameter of everything that makes objects (`Document.Setting`). The interpreter runs with maps
whose members stand in ascending order of their names (`Document.insertMember`). Values and
documents are turned into each other: what has no value is null, and the text of a key is the name
of a member. -/

namespace ReactiveScript

/-- A document. -/
inductive Document where
  | null
  | boolean (value : Bool)
  | integer (value : Int64)
  | float (value : Float)
  | text (value : String)
  | array (items : List Document)
  | object (members : List (String × Document))
deriving Inhabited

namespace Document

/-- How an object sets a member: the name, the document under it, and the members before that. -/
abbrev Setting := String → Document → List (String × Document) → List (String × Document)

/-- The members of an object in ascending order of their names, after one is set. -/
def insertMember (name : String) (value : Document) :
    List (String × Document) → List (String × Document)
  | [] => [(name, value)]
  | (other, old) :: rest =>
    if name = other then (name, value) :: rest
    else if name < other then (name, value) :: (other, old) :: rest
    else (other, old) :: insertMember name value rest

/-- The document under a name. -/
def member? (name : String) : List (String × Document) → Option Document
  | [] => none
  | (other, value) :: rest => if name = other then some value else member? name rest

/-- The members of an object after some are set, one after the other. -/
def setMembers (set : Setting) (before members : List (String × Document)) :
    List (String × Document) :=
  members.foldl (fun before (name, value) => set name value before) before

/-- The object with some members. -/
def ofMembers (set : Setting) (members : List (String × Document)) : Document :=
  .object (setMembers set [] members)

end Document

/-- The member that an entry becomes: the document of the value, under the text of the key. -/
def Store.writeEntry (store : Store) (write : Value → Except Stop Document)
    (entry : Value × Value) : Except Stop (String × Document) := do
  let name ← store.render entry.1
  let document ← write entry.2
  return (name, document)

/-- The document of a number, if it is finite. -/
def writeFloat (x : Float) : Except Stop Document :=
  if x.isFinite then .ok (.float x)
  else .error (.fault (Cause.jsonNumber (messageLayout.write x)).fault)

/-- The document of a value, opening at most `budget` containers inside each other. A complex number
and a number that is not finite have none. -/
def Store.documentWithin (store : Store) (set : Document.Setting) :
    Nat → Value → Except Stop Document
  | _, .int n => return .integer n
  | _, .float x => writeFloat x
  | _, .complex .. => throw (.fault Cause.jsonComplex.fault)
  | _, .boolean b => return .boolean b
  | _, .text s => return .text s
  | _, .void => return .null
  | _, .untyped => return .null
  | 0, .list _ => throw .exhausted
  | 0, .dict _ => throw .exhausted
  | budget + 1, .list handle => do
    let items ← (store.list handle).items.mapM (store.documentWithin set budget)
    return .array items
  | budget + 1, .dict handle => do
    let members ← (store.dict handle).entries.mapM
      (store.writeEntry (store.documentWithin set budget))
    return .ofMembers set members

/-- The document of a value in a store, if going through the value comes to an end: containers
inside each other are different ones, and there are no more than the store has. -/
def Store.document (store : Store) (set : Document.Setting) (value : Value) :
    Except Stop Document :=
  store.documentWithin set (store.size + 1) value

mutual

/-- The value of a document: an array is a list of anything, and an object a dictionary from texts
to anything. -/
def Document.toValue : Document → Alloc Value
  | .null => return .void
  | .boolean b => return .boolean b
  | .integer n => return .int n
  | .float x => return .float x
  | .text s => return .text s
  | .array items => do
    let values ← Document.toValues items
    Alloc.newList .any values
  | .object members => do
    let entries ← Document.toEntries [] members
    Alloc.newDict .text .any entries

/-- The values of documents in order. -/
def Document.toValues : List Document → Alloc (List Value)
  | [] => return []
  | item :: items => do
    let value ← Document.toValue item
    let values ← Document.toValues items
    return value :: values

/-- The entries of a dictionary after the members of an object are set in order. -/
def Document.toEntries (before : List (Value × Value)) :
    List (String × Document) → Alloc (List (Value × Value))
  | [] => return before
  | (name, document) :: members => do
    let value ← Document.toValue document
    let set ← (← get).setEntry none (.text name) value before
    Document.toEntries set members

end

end ReactiveScript
