import Transcript.FileTree.Files

/-!
# Finding scripts

The scripts of a suite: files as they are given, and for a directory all files below it with the
extension of scripts, in the order of their paths. The system may hand out the names of a directory in any
order.
-/

namespace Transcript.Suite

open Path (Name)

/-- The extension of scripts. -/
def scriptExtension : List Char := "in".toList

/-- An order in which the names of each directory are handed out. -/
structure Enumeration where
  order : List Char → List Name → List Name
  perm : ∀ dir names, (order dir names).Perm names

/-- All names are handed out in their order. -/
def Enumeration.sorted : Enumeration where
  order _ names := names
  perm _ names := .refl names

/-- The scripts at a path: those below it when it leads to a directory, and itself when its name has the extension
of scripts. -/
def scriptsAt (t : FileTree) (here : List Char) (below : List Char → Except SystemError (List (List Char)))
    (path : List Char) : Except SystemError (List (List Char)) :=
  if t.isDirectory (FileTree.absolute here path) then below path
  else if Path.extension? path = some scriptExtension then .ok [path]
  else .ok []

/-- The scripts below a directory in the order in which they are come upon, `fuel` levels deep at most; `dir` is
spelled as it is to be shown. -/
def scriptsBelow (t : FileTree) (here : List Char) (e : Enumeration) : Nat → List Char →
    Except SystemError (List (List Char))
  | 0, _ => .ok []
  | fuel + 1, dir =>
    (t.list (FileTree.absolute here dir)).bind fun names =>
      ((e.order dir names).mapM fun n =>
        scriptsAt t here (scriptsBelow t here e fuel) (Path.join dir n)).map List.flatten

/-- How deep scripts are looked for: no entry is deeper than there are entries, and links lead on only so
far. -/
def depthLimit (t : FileTree) : Nat :=
  t.entries.length + 42

/-- The scripts that a path stands for: those below it in the order of paths when it leads to a directory, and
itself when it does not. -/
def scriptsFor (t : FileTree) (here : List Char) (e : Enumeration) (p : List Char) :
    Except SystemError (List (List Char)) :=
  if t.isDirectory (FileTree.absolute here p) then
    (scriptsBelow t here e (depthLimit t) p).map fun found => found.mergeSort Path.le
  else .ok [p]

/-- The scripts that paths stand for, with the names of directories handed out in some order. -/
def findScriptsBy (t : FileTree) (here : List Char) (e : Enumeration) (paths : List (List Char)) :
    Except SystemError (List (List Char)) :=
  (paths.mapM (scriptsFor t here e)).map List.flatten

/-- The scripts that paths stand for. -/
def findScripts (t : FileTree) (here : List Char) (paths : List (List Char)) :
    Except SystemError (List (List Char)) :=
  findScriptsBy t here .sorted paths

end Transcript.Suite
