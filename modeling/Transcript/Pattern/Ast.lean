import Transcript.Unicode.Property

/-!
# Written patterns

A pattern as it is written: the tree that its text denotes, before flags have been applied to it. Only
the depth of the tree is computed here; a pattern may nest at most `depthLimit` levels.
-/

namespace Transcript.Pattern

open Unicode (PropertyQuery)

/-- Why a text is no pattern. -/
inductive PatternError where
  | unclosedGroup
  | unopenedGroup
  | unclosedSet
  | nothingToRepeat
  | badCount
  | badEscape
  | badGroupName
  | badFlags
  | badSetMember
  | lookAround
  | unknownProperty
  | notText
  | tooDeep
  | tooLarge
deriving DecidableEq, Repr

/-- A flag of a group or of the rest of a group. -/
inductive Flag where
  | ignoreCase
  | multiLine
  | dotMatchesAll
  | swapGreed
  | unicode
  | carriageReturns
  | verbose
deriving DecidableEq, Repr

/-- Flags to set and flags to clear. -/
structure FlagChange where
  on : List Flag := []
  off : List Flag := []
deriving DecidableEq, Repr

/-- What a change does to one flag; `none` leaves it. -/
def FlagChange.state? (change : FlagChange) (flag : Flag) : Option Bool :=
  if change.on.contains flag then some true
  else if change.off.contains flag then some false
  else none

/-- The classes with an escape of one letter. -/
inductive LetterClass where
  | digit
  | space
  | word
deriving DecidableEq, Repr

/-- The classes of ASCII characters with a name. -/
inductive AsciiClass where
  | alnum | alpha | ascii | blank | cntrl | digit | graph | lower | print | punct | space | upper | word
  | xdigit
deriving DecidableEq, Repr

/-- A character of a pattern; `byte` marks one written as two hexadecimal digits. -/
structure Literal where
  char : Char
  byte : Bool := false
deriving DecidableEq, Repr

/-- A place in the text that is looked at without reading. -/
inductive Assertion where
  | startLine | endLine | startText | endText
  | wordBoundary | notWordBoundary | wordStart | wordEnd | wordStartHalf | wordEndHalf
deriving DecidableEq, Repr

/-- How two sets in brackets are combined. -/
inductive SetOp where
  | intersection | difference | symmetricDifference
deriving DecidableEq, Repr

mutual

/-- A member of a set in brackets. -/
inductive SetItem where
  | literal (l : Literal)
  | range (first last : Literal)
  | ascii (negated : Bool) (cls : AsciiClass)
  | property (negated : Bool) (query : PropertyQuery)
  | letter (negated : Bool) (cls : LetterClass)
  | bracket (negated : Bool) (set : SetExpr)
  | union (items : List SetItem)

/-- What stands in brackets. -/
inductive SetExpr where
  | item (i : SetItem)
  | op (kind : SetOp) (lhs rhs : SetExpr)

end

/-- What a pair of parentheses does. -/
inductive GroupKind where
  | capture (index : Nat)
  | plain (change : FlagChange)
deriving DecidableEq, Repr

/-- A written pattern. -/
inductive Ast where
  | empty
  | flags (change : FlagChange)
  | literal (l : Literal)
  | dot
  | assertion (a : Assertion)
  | property (negated : Bool) (query : PropertyQuery)
  | letter (negated : Bool) (cls : LetterClass)
  | bracket (negated : Bool) (set : SetExpr)
  | repetition (min : Nat) (max : Option Nat) (greedy : Bool) (body : Ast)
  | group (kind : GroupKind) (body : Ast)
  | alternation (branches : List Ast)
  | concat (parts : List Ast)
deriving Inhabited

/-- Members in a row: one stands for itself. -/
def SetItem.ofList : List SetItem → SetItem
  | [i] => i
  | is => .union is

/-- Patterns in a row: none is the empty pattern and one stands for itself. -/
def Ast.ofParts : List Ast → Ast
  | [] => .empty
  | [a] => a
  | as => .concat as

/-- How deep a pattern may nest. -/
def depthLimit : Nat := 250

mutual

/-- How deep a member nests. -/
def SetItem.depth : SetItem → Nat
  | .bracket _ set => set.depth + 1
  | .union [] => 0
  | .union (i :: is) => max i.depth (SetItem.depthAll is) + 1
  | _ => 0

/-- The depth of the deepest member. -/
def SetItem.depthAll : List SetItem → Nat
  | [] => 0
  | i :: is => max i.depth (SetItem.depthAll is)

/-- How deep the content of brackets nests. -/
def SetExpr.depth : SetExpr → Nat
  | .item i => i.depth
  | .op _ lhs rhs => max lhs.depth rhs.depth + 1

end

mutual

/-- How deep a pattern nests. -/
def Ast.depth : Ast → Nat
  | .bracket _ set => set.depth + 1
  | .repetition _ _ _ body => body.depth + 1
  | .group _ body => body.depth + 1
  | .alternation branches => Ast.depthAll branches + 1
  | .concat parts => Ast.depthAll parts + 1
  | _ => 0

/-- The depth of the deepest pattern. -/
def Ast.depthAll : List Ast → Nat
  | [] => 0
  | a :: as => max a.depth (Ast.depthAll as)

end

end Transcript.Pattern
