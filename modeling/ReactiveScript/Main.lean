import ReactiveScript.CommandLine
import Std.Time.DateTime.Timestamp

/-! # The program

Runs the command line on the files below the working directory. A command is run on the input that
was read so far; if it asks for more, another line is read and it is run again, which repeats what
it did before, so that only what is new of its output is shown. -/

namespace ReactiveScript

/-- More than any script can use up. -/
def ampleBudget : Nat := Nat.pow 10 12

/-- What a file holds that has some bytes. -/
def FileContent.ofBytes (bytes : ByteArray) : FileContent :=
  match String.fromUTF8? bytes with
  | some decoded => .text decoded
  | none => .binary

/-- The files at and below an entry of a directory, by their paths behind that of the directory. -/
partial def gatherFiles (directory : List String) (entry : IO.FS.DirEntry)
    (files : Table FileContent) : IO (Table FileContent) := do
  let place := directory ++ [entry.fileName]
  if ← entry.path.isDir then
    (← entry.path.readDir).foldlM (fun files inner => gatherFiles place inner files) files
  else
    try
      let bytes ← IO.FS.readBinFile entry.path
      return files.insert (FileTree.joinSteps place) (.ofBytes bytes)
    catch _ => return files

/-- The files below the working directory. -/
def gatherTree : IO FileTree := do
  let root ← IO.currentDir
  let files ← (← root.readDir).foldlM (fun files entry => gatherFiles [] entry files) .empty
  return ⟨root.toString, files⟩

/-- What surrounds a command that starts now, before any of its input is read. -/
def currentWorld : IO World := do
  let now ← Std.Time.Timestamp.now
  let bytes ← IO.getRandomBytes 8
  return {
    arguments := []
    files := ← gatherTree
    input := []
    moreInput := true
    output := ""
    clock := now.toMillisecondsSinceUnixEpoch.val.toNat
    seed := bytes.toList.foldl (fun seed byte => seed * 256 + byte.toUInt64) 0 }

/-- Runs a command line, with as much of the input as it asks for. So many characters of the output
were shown before, and so many milliseconds of its pauses have passed. -/
partial def converse (words : List String) (world : World) (shown passed : Nat) :
    IO CommandResult := do
  let result := runCommandLine words ampleBudget world
  let paused := result.world.clock - world.clock
  IO.sleep (paused - passed).toUInt32
  IO.print (result.world.output.drop shown)
  (← IO.getStdout).flush
  if result.world.starved then
    let line ← (← IO.getStdin).getLine
    let longer := { world with input := world.input ++ line.toList, moreInput := !line.isEmpty }
    converse words longer result.world.output.length paused
  else return result

/-- Writes the files that a command has changed. -/
def storeFiles (before after : FileTree) : IO Unit :=
  after.files.entries.forM fun (path, content) => do
    match content with
    | .binary => return
    | .text text =>
      if before.files.find? path ≠ some content then IO.FS.writeFile path text

end ReactiveScript

open ReactiveScript

/-- Does what the words of the command line ask for. -/
def main (words : List String) : IO UInt32 := do
  let world ← currentWorld
  let result ← converse words world 0 0
  storeFiles world.files result.world.files
  IO.eprint result.errors
  return result.exit
