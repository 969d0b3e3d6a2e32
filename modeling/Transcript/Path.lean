import Transcript.Text.Lines

/-!
# Paths

Paths as texts, and the names that they are made of. Slashes that follow each other count as one, and a
single point counts only at the beginning of a relative path. The last dot of a file's name separates
its stem from its extension, unless the name begins with it.
-/

namespace Transcript.Path

/-- A name in a directory. -/
abbrev Name := List Char

/-- A step of a path. -/
inductive Component where
  | root
  | here
  | up
  | name (n : Name)
deriving DecidableEq, Repr

/-- The path starts at the root. -/
def isAbsolute (p : List Char) : Bool :=
  p.head? == some '/'

/-- What stands between the slashes of a path. -/
def pieces (p : List Char) : List Name :=
  (Text.splitAt '/' p).filter (!·.isEmpty)

/-- The step that a piece stands for; a single point stands for none. -/
def component? (n : Name) : Option Component :=
  if n = ['.'] then none
  else if n = ['.', '.'] then some .up
  else some (.name n)

/-- The steps of a path. -/
def components (p : List Char) : List Component :=
  let steps := (pieces p).filterMap component?
  if isAbsolute p then .root :: steps
  else if (pieces p).head? == some ['.'] then .here :: steps
  else steps

/-- A path after another one; an absolute path replaces what stands before it. -/
def join (p q : List Char) : List Char :=
  if isAbsolute q || p.isEmpty then q
  else if p.getLast? == some '/' then p ++ q
  else p ++ '/' :: q

/-- The name of the file that a path leads to. -/
def fileName? (p : List Char) : Option Name :=
  match (components p).getLast? with
  | some (.name n) => some n
  | _ => none

/-- A name cut at its last dot; there is no second part when the dot is lacking or stands first. -/
def splitName (n : Name) : Name × Option Name :=
  let (after, r) := n.reverse.span (· ≠ '.')
  match r with
  | [] | [_] => (n, none)
  | _ :: before => (before.reverse, some after.reverse)

/-- The name of the file without its extension. -/
def fileStem? (p : List Char) : Option Name :=
  (fileName? p).map fun n => (splitName n).1

/-- The extension of the file. -/
def extension? (p : List Char) : Option Name :=
  (fileName? p).bind fun n => (splitName n).2

/-- The written form of a step. -/
def Component.text : Component → List Char
  | .root => ['/']
  | .here => ['.']
  | .up => ['.', '.']
  | .name n => n

/-- The path of several steps. -/
def ofComponents (cs : List Component) : List Char :=
  cs.foldl (fun p c => join p c.text) []

/-- The path without its last step; the root has none, nor has the empty path. -/
def parent? (p : List Char) : Option (List Char) :=
  match (components p).getLast? with
  | none | some .root => none
  | some _ => some (ofComponents (components p).dropLast)

/-- The place of a kind of step in the order of paths. -/
def Component.rank : Component → Nat
  | .root => 0
  | .here => 1
  | .up => 2
  | .name _ => 3

/-- The order of texts by code points. -/
def nameLe : List Char → List Char → Bool
  | [], _ => true
  | _ :: _, [] => false
  | a :: as, b :: bs => if a = b then nameLe as bs else a.toNat < b.toNat

/-- The order of steps. -/
def Component.le : Component → Component → Bool
  | .name m, .name n => nameLe m n
  | c, d => c.rank ≤ d.rank

/-- The order of rows of steps: the first steps that differ decide, and a beginning comes first. -/
def componentsLe : List Component → List Component → Bool
  | [], _ => true
  | _ :: _, [] => false
  | c :: cs, d :: ds => if c = d then componentsLe cs ds else c.le d

/-- The order of paths, step by step. -/
def le (p q : List Char) : Bool :=
  componentsLe (components p) (components q)

end Transcript.Path
