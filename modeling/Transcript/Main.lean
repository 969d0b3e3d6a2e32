import Transcript.CommandLine.Response
import Transcript.Shell.Subject

/-!
# The program

Reads the current directory into a file tree, carries the command line out on it, and writes back what
has changed.
-/

namespace Transcript.Main

/-- The path of names. -/
def pathOf (names : List Path.Name) : String :=
  String.ofList ('/' :: List.intercalate ['/'] names)

/-- A file that the system would run as a script. -/
def isScript (content : Text.Bytes) : Bool :=
  [35, 33].isPrefixOf content

/-- Adds what is below a directory to a tree. -/
partial def load (t : FileTree) (names : List Path.Name) (dir : IO.FS.DirEntry) : IO FileTree := do
  let mut t := t
  for entry in ← dir.path.readDir do
    let names := names ++ [entry.fileName.toList]
    if ← entry.path.isDir then
      t ← load (t.put names .directory) names entry
    else
      try
        let content := (← IO.FS.readBinFile entry.path).toList
        t := t.put names (.file content (isScript content))
      catch _ => pure ()
  return t

/-- Writes a node. -/
def writeNode (names : List Path.Name) (node : Node) : IO Unit := do
  match node with
  | .directory => IO.FS.createDirAll (pathOf names)
  | .file content executable =>
    IO.FS.writeBinFile (pathOf names) ⟨content.toArray⟩
    if executable then
      IO.setAccessRights (pathOf names) ⟨⟨true, true, true⟩, ⟨true, false, true⟩, ⟨true, false, true⟩⟩
  | _ => return ()

/-- Removes what stood under names. -/
def removeNode (names : List Path.Name) (node : Node) : IO Unit := do
  match node with
  | .directory => IO.FS.removeDirAll (pathOf names)
  | _ => IO.FS.removeFile (pathOf names)

/-- Writes back what differs between two trees. -/
def store (old new : FileTree) : IO Unit := do
  for (names, node) in old.entries.reverse do
    if (new.node? names).isNone then removeNode names node
  for (names, node) in new.entries do
    if old.node? names != some node then writeNode names node

/-- The tree of the host with the directories that lead to some names. -/
def frame (names : List Path.Name) : FileTree :=
  ((List.range names.length).map fun k => names.take (k + 1)).foldl
    (fun t p => if (t.node? p).isSome then t else t.put p .directory) Shell.Host.tree

end Transcript.Main

/-- Runs the program. -/
def main (args : List String) : IO UInt32 := do
  let dir ← IO.currentDir
  let here := dir.toString.toList
  let names := Transcript.Path.pieces here
  let old ← Transcript.Main.load (Transcript.Main.frame names) names ⟨dir, "."⟩
  let (response, new) :=
    Transcript.CommandLine.execute Transcript.Shell.invoke here (args.map String.toList) old
  Transcript.Main.store old new
  IO.print (String.ofList response.output)
  IO.eprint (String.ofList response.complaints)
  return response.exit.toUInt32
