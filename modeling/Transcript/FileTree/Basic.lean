import Transcript.Cause
import Transcript.Path
import Transcript.Text.Utf8

/-!
# File trees

A file system as the list of its entries, each under the names that lead to it from the root. A path is
resolved name by name: links are followed, forty of them at most, and what is no directory cannot be
passed through.
-/

namespace Transcript

open Transcript.Path (Name)
open Text (Bytes)

/-- What a name can stand for. -/
inductive Node where
  | file (content : Bytes) (executable : Bool)
  | directory
  | link (target : List Char)
  | program (name : String)
  | nothing
deriving DecidableEq, Repr, Inhabited

/-- The content of a node. -/
def Node.content? : Node → Except SystemError Bytes
  | .file content _ => .ok content
  | .program _ => .ok [0x7F, 0x45, 0x4C, 0x46]
  | .nothing => .ok []
  | .directory => .error .isDirectory
  | .link _ => .error .tooManyLinks

/-- Names and what they stand for. The root is a directory and has no entry. -/
structure FileTree where
  entries : List (List Name × Node) := []
deriving DecidableEq, Repr, Inhabited

/-- Where a path leads: to an entry, or to a name that is free in a directory that exists. -/
inductive Place where
  | taken (names : List Name) (node : Node)
  | free (names : List Name)
deriving DecidableEq, Repr

namespace FileTree

/-- What stands under some names. -/
def node? (t : FileTree) (names : List Name) : Option Node :=
  if names.isEmpty then some .directory else t.entries.lookup names

/-- Puts a node under names, in the place of what stood there. -/
def put (t : FileTree) (names : List Name) (node : Node) : FileTree :=
  if t.entries.any (·.1 == names) then
    ⟨t.entries.map fun e => if e.1 == names then (names, node) else e⟩
  else ⟨t.entries ++ [(names, node)]⟩

/-- Removes what stands under names, and nothing below it. -/
def erase (t : FileTree) (names : List Name) : FileTree :=
  ⟨t.entries.filter (·.1 != names)⟩

/-- Removes what stands under names with all that is below it. -/
def eraseBelow (t : FileTree) (names : List Name) : FileTree :=
  ⟨t.entries.filter fun e => !names.isPrefixOf e.1⟩

/-- The names in a directory. -/
def namesIn (t : FileTree) (names : List Name) : List Name :=
  t.entries.filterMap fun e =>
    if e.1.dropLast == names && !e.1.isEmpty then e.1.getLast? else none

/-- The longest name of an entry, in bytes. -/
def nameLimit : Nat := 255

/-- The longest path, in bytes. -/
def pathLimit : Nat := 4095

/-- The length of a text in bytes. -/
def byteLength (s : List Char) : Nat :=
  s.foldl (fun n c => n + c.utf8Size) 0

/-- How a link is followed: from the names of its directory, with the names that are still to come. -/
abbrev Follow := List Name → List Name → Except SystemError Place

/-- Goes on from a directory; `followLast` says whether a link at the end is followed. -/
def walkWith (t : FileTree) (followLast : Bool) (follow : Follow) (at_ : List Name) :
    List Name → Except SystemError Place
  | [] => .ok (.taken at_ .directory)
  | n :: rest =>
    if n = ['.'] then walkWith t followLast follow at_ rest
    else if n = ['.', '.'] then walkWith t followLast follow at_.dropLast rest
    else if nameLimit < byteLength n then .error .nameTooLong
    else
      let names := at_ ++ [n]
      match t.node? names with
      | none => if rest.isEmpty then .ok (.free names) else .error .missing
      | some .directory => walkWith t followLast follow names rest
      | some (.link target) =>
        if rest.isEmpty && !followLast then .ok (.taken names (.link target))
        else if target.isEmpty then .error .missing
        else follow (if Path.isAbsolute target then [] else at_) (Path.pieces target ++ rest)
      | some node => if rest.isEmpty then .ok (.taken names node) else .error .notDirectory

/-- Goes on from a directory and follows at most a number of links. -/
def walk (t : FileTree) (followLast : Bool) : Nat → Follow
  | 0 => walkWith t followLast fun _ _ => .error .tooManyLinks
  | links + 1 => walkWith t followLast (walk t followLast links)

/-- The names of a path; a slash at the end asks for a directory. -/
def pathNames (path : List Char) : List Name :=
  Path.pieces path ++ if path.getLast? == some '/' then [['.']] else []

/-- Where an absolute path leads. -/
def locate (t : FileTree) (followLast : Bool) (path : List Char) : Except SystemError Place :=
  if path.contains '\x00' then .error .nul
  else if path.isEmpty then .error .missing
  else if pathLimit < byteLength path then .error .nameTooLong
  else walk t followLast 40 [] (pathNames path)

/-- The entry that a path leads to, with links followed. -/
def find (t : FileTree) (path : List Char) : Except SystemError (List Name × Node) :=
  match t.locate true path with
  | .ok (.taken names node) => .ok (names, node)
  | .ok (.free _) => .error .missing
  | .error e => .error e

/-- Something stands at a path. -/
def pathExists (t : FileTree) (path : List Char) : Bool :=
  (t.find path).toBool

/-- A path leads to a directory. -/
def isDirectory (t : FileTree) (path : List Char) : Bool :=
  match t.find path with
  | .ok (_, .directory) => true
  | _ => false

/-- A path leads to a file with content. -/
def isFile (t : FileTree) (path : List Char) : Bool :=
  match t.find path with
  | .ok (_, .file ..) | .ok (_, .program _) => true
  | _ => false

/-- An absolute path for a path that starts in the directory `here`. -/
def absolute (here path : List Char) : List Char :=
  if path.isEmpty then [] else Path.join here path

end FileTree

end Transcript
