/-!
# Sets of characters

A set of characters as intervals of code points. Every operation keeps the intervals in increasing
order, apart from each other and free of surrogates, so that equal sets have equal intervals.
-/

namespace Transcript.Unicode

/-- A set of characters, as intervals of code points with both ends included. -/
structure CharSet where
  intervals : List (Nat × Nat)
deriving DecidableEq, Repr, Inhabited

namespace CharSet

/-- The set without members. -/
def empty : CharSet := ⟨[]⟩

/-- Adds an interval to a list of increasing intervals and joins what it touches. -/
def insertInterval (a b : Nat) : List (Nat × Nat) → List (Nat × Nat)
  | [] => [(a, b)]
  | (c, d) :: r =>
    if b + 1 < c then (a, b) :: (c, d) :: r
    else if d + 1 < a then (c, d) :: insertInterval a b r
    else insertInterval (min a c) (max b d) r

/-- The set of the code points from `a` to `b`. -/
def interval (a b : Nat) : CharSet := ⟨[(a, b)]⟩

/-- The set of one character. -/
def single (c : Char) : CharSet := interval c.toNat c.toNat

/-- The members of either set. -/
def union (s t : CharSet) : CharSet :=
  ⟨t.intervals.foldl (fun acc i => insertInterval i.1 i.2 acc) s.intervals⟩

/-- The set of several intervals, in any order. -/
def ofIntervals (is : List (Nat × Nat)) : CharSet := empty.union ⟨is⟩

/-- The code points from `lo` on that are in none of the increasing intervals. -/
def gapsFrom (lo : Nat) : List (Nat × Nat) → List (Nat × Nat)
  | [] => if lo ≤ 0x10FFFF then [(lo, 0x10FFFF)] else []
  | (a, b) :: r => if lo < a then (lo, a - 1) :: gapsFrom (b + 1) r else gapsFrom (max lo (b + 1)) r

/-- The characters that are not members. -/
def compl (s : CharSet) : CharSet :=
  ⟨gapsFrom 0 (insertInterval 0xD800 0xDFFF s.intervals)⟩

/-- Every character. -/
def univ : CharSet := empty.compl

/-- The common members. -/
def inter (s t : CharSet) : CharSet := (s.compl.union t.compl).compl

/-- The members of the first set that are not in the second. -/
def diff (s t : CharSet) : CharSet := s.inter t.compl

/-- The members of exactly one of the two sets. -/
def symmDiff (s t : CharSet) : CharSet := (s.union t).diff (s.inter t)

/-- Membership of a code point. -/
def containsCode (s : CharSet) (n : Nat) : Bool :=
  s.intervals.any fun i => i.1 ≤ n && n ≤ i.2

/-- Membership of a character. -/
def contains (s : CharSet) (c : Char) : Bool := s.containsCode c.toNat

/-- A set without members. -/
def isEmpty (s : CharSet) : Bool := s.intervals.isEmpty

/-- The only member of a set of one character. -/
def singleton? (s : CharSet) : Option Char :=
  match s.intervals with
  | [(a, b)] => if a = b ∧ a.isValidChar then some (Char.ofNat a) else none
  | _ => none

end CharSet

end Transcript.Unicode
