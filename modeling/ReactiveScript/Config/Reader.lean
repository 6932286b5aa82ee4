import ReactiveScript.Config.Basic
import ReactiveScript.Fault
import ReactiveScript.FileTree
import ReactiveScript.Json.Reader
import ReactiveScript.Text.Quoted

/-! # Reading settings

Settings are read from a document: an object with the settings that differ from the standard, or an
array with the settings in order. -/

namespace ReactiveScript

/-- A setting. -/
inductive ConfigField where
  | maxCallDepth
  | modulePaths
  | waitForHandlers
  | handlerStackSize
deriving DecidableEq, Repr

namespace ConfigField

/-- All settings in order. -/
def all : List ConfigField := [.maxCallDepth, .modulePaths, .waitForHandlers, .handlerStackSize]

/-- The name of a setting in a document. -/
def name : ConfigField → String
  | .maxCallDepth => "max_call_depth"
  | .modulePaths => "module_paths"
  | .waitForHandlers => "wait_for_handlers"
  | .handlerStackSize => "handler_stack_size"

/-- The setting of a name. -/
def ofName? (name : String) : Option ConfigField := all.find? (·.name = name)

end ConfigField

namespace DocumentReader

/-- Takes what comes next, if it is a scalar, and refuses it as something of another kind. -/
def refuseKind {α : Type} (expected : String) : DocumentReader α := do
  match ← peek with
  | some 'n' =>
    advance
    word "ull".toList
    failHere (.wrongKind "null" expected)
  | some 't' =>
    advance
    word "rue".toList
    failHere (.wrongKind "boolean `true`" expected)
  | some 'f' =>
    advance
    word "alse".toList
    failHere (.wrongKind "boolean `false`" expected)
  | some '-' =>
    advance
    let found ← numeral true
    failHere (.wrongKind found.describe expected)
  | some '"' =>
    let found ← text
    failHere (.wrongKind s!"string {Text.quoted found}" expected)
  | some '[' => failHere (.wrongKind "sequence" expected)
  | some '{' => failHere (.wrongKind "map" expected)
  | some c =>
    if c.isDigit then
      let found ← numeral false
      failHere (.wrongKind found.describe expected)
    else failNext .missingValue
  | none => failNext .missingValue

/-- A number that counts something. -/
def count : DocumentReader Nat := do
  match ← peekPart with
  | none => failNext .endInValue
  | some c =>
    if c = '-' || c.isDigit then
      if c = '-' then advance
      match ← numeral (c = '-') with
      | .natural n => return n
      | .negative n => failHere (.wrongValue (Numeral.negative n).describe "usize")
      | .real x => failHere (.wrongKind (Numeral.real x).describe "usize")
    else refuseKind "usize"

/-- A truth value. -/
def truth : DocumentReader Bool := do
  match ← peekPart with
  | none => failNext .endInValue
  | some 't' =>
    advance
    word "rue".toList
    return true
  | some 'f' =>
    advance
    word "alse".toList
    return false
  | some _ => refuseKind "a boolean"

/-- A path. -/
def path : DocumentReader String := do
  match ← peekPart with
  | none => failNext .endInValue
  | some '"' => text
  | some _ => refuseKind "path string"

/-- Some paths. -/
def paths : DocumentReader (List String) := do
  match ← peekPart with
  | none => failNext .endInValue
  | some '[' => array path
  | some _ => refuseKind "a sequence"

/-- The settings after one of them is read. -/
def setting (config : Config) : ConfigField → DocumentReader Config
  | .maxCallDepth => return { config with maxCallDepth := ← count }
  | .modulePaths => return { config with modulePaths := ← paths }
  | .waitForHandlers => return { config with waitForHandlers := ← truth }
  | .handlerStackSize => return { config with handlerStackSize := ← count }

/-- A problem with the name of a member, reported behind what may close the object there. -/
def refuseMember {α : Type} (problem : DocumentProblem) : DocumentReader α := do
  if (← peekPart) = some '}' then advance
  failHere problem

/-- The settings after the members that follow, where some settings were given before. -/
def settingsWithin : Nat → Bool → List ConfigField → Config → DocumentReader Config
  | 0, _, _, _ => failNext .endInObject
  | steps + 1, first, given, config => do
    if ← hasMember first then
      let name ← text
      match ConfigField.ofName? name with
      | none => refuseMember (.unknownMember name (ConfigField.all.map ConfigField.name))
      | some field =>
        if given.contains field then refuseMember (.repeatedMember name)
        else
          colon
          let changed ← setting config field
          settingsWithin steps false (field :: given) changed
    else return config

/-- The settings after the items that follow, one for each of some settings at most. -/
def settingsInOrder (config : Config) : Bool → List ConfigField → DocumentReader Config
  | _, [] => return config
  | first, field :: fields => do
    if ← hasItem first then
      let changed ← setting config field
      settingsInOrder changed false fields
    else return config

/-- Settings. -/
def config : DocumentReader Config := do
  match ← peekPart with
  | none => failNext .endInValue
  | some '{' =>
    advance
    let read ← settingsWithin ((← get).rest.length + 1) true [] .standard
    endObject
    return read
  | some '[' =>
    advance
    let read ← settingsInOrder .standard true ConfigField.all
    endArray
    return read
  | some _ => refuseKind "struct InterpreterConfig"

end DocumentReader

namespace Config

/-- The settings that a text describes. -/
def read (text : String) : Except Fault Config :=
  (DocumentReader.whole DocumentReader.config text).mapError
    fun fault => (Cause.configInvalid fault.render).fault

/-- The settings that a file describes. -/
def readFile (files : FileTree) (path : String) : Except Fault Config :=
  match files.read path with
  | .ok text => read text
  | .error problem => .error (Cause.configUnreadable path problem.render).fault

/-- The name of the settings that go with the scripts of a directory. -/
def fileName : String := "muni.json"

/-- The settings for a script: those of a given file, else those beside the script, else the
standard ones. -/
def discover (files : FileTree) (explicit : Option String) (script : String) :
    Except Fault Config :=
  match explicit with
  | some path => readFile files path
  | none =>
    match (parentPath? script).map (joinPath · fileName) with
    | some path => if (files.fullPath? path).isSome then readFile files path else .ok .standard
    | none => .ok .standard

end Config

end ReactiveScript
