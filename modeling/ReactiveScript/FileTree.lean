import ReactiveScript.Table

/-! # Files

The files that a program can see, as a tree below its working directory. Directories are there as
far as files are in them. Paths are walked step by step, so that a path through a missing directory
or through a file fails the way a file system refuses it. -/

namespace ReactiveScript

/-- What a file holds: a text, or bytes that are no text. -/
inductive FileContent where
  | text (content : String)
  | binary
deriving DecidableEq, Repr, Inhabited

/-- Why a file system refuses a path. -/
inductive FileProblem where
  | missing
  | notDirectory
  | isDirectory
  | nameTooLong
  | nulByte
  | notText
deriving DecidableEq, Repr

/-- The words of a file system for a problem. -/
def FileProblem.render : FileProblem → String
  | .missing => "No such file or directory (os error 2)"
  | .notDirectory => "Not a directory (os error 20)"
  | .isDirectory => "Is a directory (os error 21)"
  | .nameTooLong => "File name too long (os error 36)"
  | .nulByte => "file name contained an unexpected NUL byte"
  | .notText => "stream did not contain valid UTF-8"

/-- The files below a working directory. -/
structure FileTree where
  /-- The full path of the working directory. -/
  root : String
  /-- The files by their paths below the working directory, steps divided by slashes. -/
  files : Table FileContent

/-- What stands at a place of the tree. -/
inductive FileNode where
  | file (content : FileContent)
  | directory
  | nothing

namespace FileTree

/-- The tree without files. -/
def empty (root : String) : FileTree := ⟨root, .empty⟩

/-- The path below the working directory that some steps make. -/
def joinSteps (steps : List String) : String := "/".intercalate steps

/-- The steps of a path. -/
def splitSteps (path : String) : List String := (path.toList.splitOn '/').map String.ofList

/-- What stands at the place that some steps lead to. -/
def node (tree : FileTree) (steps : List String) : FileNode :=
  let path := joinSteps steps
  match tree.files.find? path with
  | some content => .file content
  | none =>
    if steps.isEmpty || tree.files.entries.any (fun entry => entry.1.startsWith (path ++ "/")) then
      .directory
    else .nothing

/-- The longest name that a file system takes, in bytes. -/
def nameLimit : Nat := 255

/-- Walks from a place along the steps of a path. Above the working directory nothing is known. -/
def walk (tree : FileTree) : List String → List String → Except FileProblem (List String)
  | place, [] => .ok place
  | place, step :: rest =>
    match tree.node place with
    | .nothing => .error .missing
    | .file _ => .error .notDirectory
    | .directory =>
      if step = "" ∨ step = "." then tree.walk place rest
      else if step = ".." then
        if place.isEmpty then .error .missing else tree.walk place.dropLast rest
      else if step.utf8ByteSize > nameLimit then .error .nameTooLong
      else tree.walk (place ++ [step]) rest

/-- The place that a path leads to, whether or not something stands there. -/
def locate (tree : FileTree) (path : String) : Except FileProblem (List String) :=
  if path.isEmpty then .error .missing
  else if path.toList.contains '\x00' then .error .nulByte
  else if path = tree.root then .ok []
  else if path.startsWith (tree.root ++ "/") then
    tree.walk [] (splitSteps ((path.drop (tree.root.length + 1)).toString))
  else if path.startsWith "/" then .error .missing
  else tree.walk [] (splitSteps path)

/-- The text of the file at a path. -/
def read (tree : FileTree) (path : String) : Except FileProblem String := do
  let place ← tree.locate path
  match tree.node place with
  | .file (.text content) => .ok content
  | .file .binary => .error .notText
  | .directory => .error .isDirectory
  | .nothing => .error .missing

/-- The place of the file that is to be written to a path. A new file cannot be written where the
path says that there is a directory. -/
def target (tree : FileTree) (path : String) : Except FileProblem (List String) :=
  match tree.locate path with
  | .error .missing =>
    if path.endsWith "/" && (tree.locate (path.dropEnd 1).toString).toBool then .error .isDirectory
    else .error .missing
  | located => located

/-- The tree after a text is written to a path. -/
def write (tree : FileTree) (path content : String) : Except FileProblem FileTree := do
  let place ← tree.target path
  match tree.node place with
  | .directory => .error .isDirectory
  | .file _ => .ok { tree with files := tree.files.insert (joinSteps place) (.text content) }
  | .nothing =>
    match tree.node place.dropLast with
    | .directory => .ok { tree with files := tree.files.insert (joinSteps place) (.text content) }
    | .file _ => .error .notDirectory
    | .nothing => .error .missing

/-- The full path of a file, if one stands at a path. -/
def fullPath? (tree : FileTree) (path : String) : Option String :=
  match tree.locate path with
  | .error _ => none
  | .ok place =>
    match tree.node place with
    | .file _ => some (tree.root ++ "/" ++ joinSteps place)
    | _ => none

end FileTree

/-- A path behind a directory, unless it is a full path already. -/
def joinPath (directory path : String) : String :=
  if path.startsWith "/" || directory.isEmpty then path
  else if directory.endsWith "/" then directory ++ path
  else directory ++ "/" ++ path

/-- Whether a step of a path stays where it is. -/
def isIdleStep (step : String) : Bool := step = "" || step = "."

/-- The directory part of a path, nothing for a path without a last step. -/
def parentPath? (path : String) : Option String :=
  match (FileTree.splitSteps path).reverse.dropWhile isIdleStep with
  | [] => if path.startsWith "." then some "" else none
  | _ :: before =>
    let kept := before.dropWhile isIdleStep
    some <|
      if !kept.isEmpty then "/".intercalate kept.reverse
      else if path.startsWith "/" then "/"
      else if path.startsWith "./" then "."
      else ""

end ReactiveScript
