import Transcript.Cause

/-!
# Variables

Definitions by name and the groups of the last pattern match, and the expansion of references to them.
A pass replaces every closed reference once, from left to right; passes are repeated until the line no
longer changes, ten times at most, since a value may hold references of its own.
-/

namespace Transcript

/-- Definitions and groups. A name is defined by its first pair. -/
structure Variables where
  defs : List (List Char × List Char) := []
  groups : List (List Char) := []
deriving DecidableEq, Repr, Inhabited

namespace Variables

/-- A part of a line. -/
inductive Piece where
  | char (c : Char)
  | reference (key : List Char)
deriving DecidableEq, Repr

/-- The parts of a line; the first argument holds what has been read of an open reference, last first.
What follows a reference that is not closed stands for itself. -/
def pieces : Option (List Char) → List Char → List Piece
  | none, [] => []
  | none, '$' :: '{' :: r => pieces (some []) r
  | none, c :: r => .char c :: pieces none r
  | some key, [] => ('$' :: '{' :: key.reverse).map .char
  | some key, '}' :: r => .reference key.reverse :: pieces none r
  | some key, c :: r => pieces (some (c :: key)) r

/-- A key that refers to a group. -/
def isGroupKey (key : List Char) : Bool :=
  !key.isEmpty && key.all Char.isDigit

/-- The number of a group key. -/
def groupNumber (key : List Char) : Nat :=
  key.foldl (fun acc d => acc * 10 + (d.toNat - '0'.toNat)) 0

/-- What a key stands for. -/
def lookup (vars : Variables) (key : List Char) : Except Fault (List Char) :=
  if isGroupKey key then
    match vars.groups[groupNumber key]? with
    | some g => .ok g
    | none => .error (.missingGroup key)
  else
    match vars.defs.lookup key with
    | some v => .ok v
    | none => .error (.undefinedVariable key)

/-- What a part of a line stands for. -/
def expandPiece (vars : Variables) : Piece → Except Fault (List Char)
  | .char c => .ok [c]
  | .reference key => vars.lookup key

/-- What several parts stand for; the first that cannot be resolved decides the fault. -/
def expandPieces (vars : Variables) : List Piece → Except Fault (List Char)
  | [] => .ok []
  | p :: ps =>
    (vars.expandPiece p).bind fun s => (vars.expandPieces ps).map (s ++ ·)

/-- One pass over a line. -/
def expandOnce (vars : Variables) (line : List Char) : Except Fault (List Char) :=
  vars.expandPieces (pieces none line)

/-- Passes over a line until it stays the same, `n` at most. -/
def expandUpTo (vars : Variables) : Nat → List Char → Except Fault (List Char)
  | 0, line => .ok line
  | n + 1, line =>
    (vars.expandOnce line).bind fun next =>
      if next = line then .ok line else vars.expandUpTo n next

/-- The most passes over one line. -/
def maxPasses : Nat := 10

/-- A line with its references replaced. -/
def substitute (vars : Variables) (line : List Char) : Except Fault (List Char) :=
  vars.expandUpTo maxPasses line

/-- Sets a name to a value. -/
def set (vars : Variables) (name value : List Char) : Variables :=
  { vars with defs := (name, value) :: vars.defs.filter (·.1 ≠ name) }

/-- Defines a name by a value in which references are replaced now. -/
def define (vars : Variables) (name raw : List Char) : Except Fault Variables :=
  (vars.substitute raw).map (vars.set name)

/-- Replaces the groups. -/
def recordGroups (vars : Variables) (groups : List (List Char)) : Variables :=
  { vars with groups }

end Variables

end Transcript
