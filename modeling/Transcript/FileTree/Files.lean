import Transcript.FileTree.Basic

/-!
# Files

What can be done with the entries of a file tree: reading, writing, copying, removing and listing. All
paths are absolute. A tree has no permissions but that to run a file: nothing is refused for want of one.
-/

namespace Transcript.FileTree

open Transcript.Path (Name)
open Text (Bytes)

/-- The content of a file. -/
def read (t : FileTree) (path : List Char) : Except SystemError Bytes :=
  (t.find path).bind fun (_, node) => node.content?

/-- The content of a file as a text. -/
def readText (t : FileTree) (path : List Char) : Except SystemError String :=
  (t.read path).bind fun bytes =>
    match Text.decode? bytes with
    | some s => .ok s
    | none => .error .notText

/-- Where a file can be written, with the permission that it has. A path that ends in a slash is none for
a file. -/
def writable (t : FileTree) (path : List Char) : Except SystemError (List Name × Option Node) :=
  match t.locate true path with
  | .ok (.taken _ .directory) => .error .isDirectory
  | .ok (.taken names node) => .ok (names, some node)
  | .ok (.free names) => .ok (names, none)
  | .error .missing =>
    match path.getLast?, t.locate true path.dropLast with
    | some '/', .ok (.free _) => .error .isDirectory
    | _, _ => .error .missing
  | .error e => .error e

/-- Puts content into a place that can be written. A new file is executable when `executable` says so, and
an old one stays as it is. -/
def fill (t : FileTree) (names : List Name) (old : Option Node) (content : Bytes)
    (executable : Bool) : FileTree :=
  match old with
  | none => t.put names (.file content executable)
  | some (.file _ x) => t.put names (.file content x)
  | some _ => t

/-- Writes a file, which need not exist. -/
def write (t : FileTree) (path : List Char) (content : Bytes) : Except SystemError FileTree :=
  (t.writable path).map fun (names, old) => t.fill names old content false

/-- Makes a file executable or not. -/
def setExecutable (t : FileTree) (path : List Char) (executable : Bool) :
    Except SystemError FileTree :=
  (t.find path).map fun (names, node) =>
    match node with
    | .file content _ => t.put names (.file content executable)
    | _ => t

/-- Makes a directory under a name that is free. -/
def makeDirectory (t : FileTree) (path : List Char) : Except SystemError FileTree :=
  let bare := if path.length > 1 && path.getLast? == some '/' then path.dropLast else path
  match t.locate false bare with
  | .ok (.free names) => .ok (t.put names .directory)
  | .ok (.taken ..) => .error .exists
  | .error e => .error e

/-- Makes a directory and those above it that are lacking, `fuel` of them at most. -/
def makeDirectoriesUpTo : Nat → FileTree → List Char → Except SystemError FileTree
  | 0, t, _ => .ok t
  | fuel + 1, t, path =>
    if path.isEmpty then .ok t
    else match t.makeDirectory path with
      | .ok t' => .ok t'
      | .error .missing =>
        match Path.parent? path with
        | none => .error .missing
        | some parent =>
          (makeDirectoriesUpTo fuel t parent).bind fun t' =>
            match t'.makeDirectory path with
            | .ok t'' => .ok t''
            | .error e => if t'.isDirectory path then .ok t' else .error e
      | .error e => if t.isDirectory path then .ok t else .error e

/-- Makes a directory and those above it that are lacking. -/
def makeDirectories (t : FileTree) (path : List Char) : Except SystemError FileTree :=
  makeDirectoriesUpTo (path.length + 1) t path

/-- Removes a file, or a link and not what it leads to. -/
def removeFile (t : FileTree) (path : List Char) : Except SystemError FileTree :=
  match t.locate false path with
  | .ok (.taken _ .directory) => .error .isDirectory
  | .ok (.taken names _) => .ok (t.erase names)
  | .ok (.free _) => .error .missing
  | .error e => .error e

/-- Removes an empty directory. -/
def removeDirectory (t : FileTree) (path : List Char) : Except SystemError FileTree :=
  match t.locate false path with
  | .ok (.taken names .directory) =>
    if (t.namesIn names).isEmpty then .ok (t.erase names) else .error .notEmpty
  | .ok (.taken ..) => .error .notDirectory
  | .ok (.free _) => .error .missing
  | .error e => .error e

/-- Removes a directory with all that is below it, or a link and not what it leads to. -/
def removeAll (t : FileTree) (path : List Char) : Except SystemError FileTree :=
  match t.locate false path with
  | .ok (.taken names .directory) => .ok (t.eraseBelow names)
  | .ok (.taken names (.link _)) => .ok (t.erase names)
  | .ok (.taken ..) => .error .notDirectory
  | .ok (.free _) => .error .missing
  | .error e => .error e

/-- Copies a file with its permission. What is not a file cannot be copied. -/
def copy (t : FileTree) (src dest : List Char) : Except SystemError FileTree :=
  match t.find src with
  | .error e => .error e
  | .ok (from_, node) =>
    let copied : Except SystemError (Bytes × Bool) := match node with
      | .file content x => .ok (content, x)
      | .program _ => (node.content?).map (·, true)
      | _ => .error .invalid
    copied.bind fun (content, x) =>
      (t.writable dest).map fun (names, old) =>
        let content := if names = from_ then [] else content
        match old with
        | none | some (.file ..) => t.put names (.file content x)
        | some _ => t

/-- Makes a link. -/
def link (t : FileTree) (target path : List Char) : Except SystemError FileTree :=
  match t.locate false path with
  | .ok (.free names) => .ok (t.put names (.link target))
  | .ok (.taken ..) => .error .exists
  | .error e => .error e

/-- The names in a directory, in their order. -/
def list (t : FileTree) (path : List Char) : Except SystemError (List Name) :=
  (t.find path).bind fun (names, node) =>
    match node with
    | .directory => .ok ((t.namesIn names).mergeSort Path.nameLe)
    | _ => .error .notDirectory

/-- What a path is seen to be: a directory, or a file with its content. -/
inductive Listed where
  | directory
  | file (content : Bytes)
deriving DecidableEq, Repr

/-- All that is below a directory, links followed, `fuel` levels deep at most; paths are relative to
where the listing starts and begin with `above`. -/
def listingUpTo (t : FileTree) : Nat → List Char → List Char → List (List Char × Listed)
  | 0, _, _ => []
  | fuel + 1, dir, above =>
    match t.list dir with
    | .error _ => []
    | .ok names => names.flatMap fun n =>
      let path := Path.join dir n
      let shown := above ++ n
      if t.isDirectory path then
        (shown ++ ['/'], .directory) :: t.listingUpTo fuel path (shown ++ ['/'])
      else [(shown, .file ((t.read path).toOption.getD []))]

/-- All that is below a directory, in the order of the paths; directories end in a slash. -/
def listing (t : FileTree) (dir : List Char) : List (List Char × Listed) :=
  (t.listingUpTo 64 dir []).mergeSort fun a b => Path.nameLe a.1 b.1

end Transcript.FileTree
