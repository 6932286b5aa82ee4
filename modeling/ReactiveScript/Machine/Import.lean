import ReactiveScript.Machine.Basic
import ReactiveScript.Parser.Statement

/-! # Imports

An import makes functions available: those of a library, or those that a file declares. Of a file
nothing else is run, except that its own imports are followed; each file is read once. Under a label
every name is put behind the label. -/

namespace ReactiveScript

/-- The ending of a path that names a library. -/
def librarySuffix : String := ":lib"

/-- The ending of a path that names a file. -/
def sourceSuffix : String := ".mun"

/-- The library that a path names. -/
def libraryOf? (path : String) : Option String :=
  if path.endsWith librarySuffix then some (path.dropEnd librarySuffix.length).toString else none

/-- The name that a function is known by after an import. -/
def qualified (label : Option String) (name : String) : String :=
  match label with
  | some label => labelled label name
  | none => name

/-- A function as it is known after an import. -/
def Function.qualified (function : Function) (label : Option String) : Function :=
  match label with
  | some label => function.under label
  | none => function

namespace Machine

/-- The machine with the functions of a library. -/
def install (machine : Machine) (natives : List (String × Native)) (label : Option String) :
    Machine :=
  natives.foldl (fun machine (name, native) => machine.register (qualified label name) native)
    machine

/-- The places where a module may be, in order. -/
def modulePlaces (machine : Machine) (path : String) : List String :=
  (machine.context.directory :: machine.config.modulePaths).map (joinPath · path)

/-- The full path of a module. -/
def resolveModule (machine : Machine) (path : String) : Except Fault String :=
  match (machine.modulePlaces path).findSome? machine.world.files.fullPath? with
  | some found => .ok found
  | none => .error (Cause.moduleMissing path).fault

/-- The machine with another directory for imports. -/
def inDirectory (machine : Machine) (directory : String) : Machine :=
  { machine with context := { machine.context with directory } }

end Machine

namespace Eval

/-- Makes the functions of a library available. -/
def loadLibrary (library : String) (label : Option String) : Eval Unit := do
  match Native.library? library with
  | some natives => modify (·.install natives label)
  | none => fail (.unknownLibrary library)

/-- The statements of a module. A fault in its text says where it was imported from. -/
def readModule (path : String) : Eval (List Stmt) := do
  match (← get).world.files.read path with
  | .error problem => fail (.moduleUnreadable path problem.render)
  | .ok source =>
    ofExcept ((readProgram source).mapError (·.withHelp s!"while importing '{path}'"))

/-- Makes the functions among some statements available and follows the imports among them. -/
def registerModule (load : String → Option String → Eval Unit) (label : Option String) :
    List Stmt → Eval Unit
  | [] => pure ()
  | .function span returns name params body :: rest => do
    define (Function.qualified ⟨name, returns, params, body, span, none⟩ label)
    registerModule load label rest
  | .load span path inner :: rest => do
    blaming span (load path inner)
    registerModule load label rest
  | _ :: rest => registerModule load label rest

/-- Makes the functions of a file available, unless it was imported before. -/
def loadFile (load : String → Option String → Eval Unit) (path : String) (label : Option String) :
    Eval Unit := do
  let found ← reading (·.resolveModule path)
  if (← get).imported.contains found then
    return
  modify fun machine => { machine with imported := machine.imported ++ [found] }
  let program ← readModule found
  let outer := (← get).context.directory
  bracket (·.inDirectory ((parentPath? found).getD outer)) (·.inDirectory outer)
    (registerModule load label program)

/-- An import inside at most so many other ones. -/
def loadWithin : Nat → String → Option String → Eval Unit
  | 0, _, _ => exhausted
  | depth + 1, path, label =>
    match libraryOf? path with
    | some library => loadLibrary library label
    | none =>
      if path.endsWith sourceSuffix then loadFile (loadWithin depth) path label
      else fail (.importForm path)

/-- An import. Imports inside each other are of different files, which bounds how many there are. -/
def load (path : String) (label : Option String) : Eval Unit := do
  loadWithin ((← get).world.files.files.entries.length + 2) path label

end Eval

end ReactiveScript
