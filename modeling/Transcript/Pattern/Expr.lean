import Transcript.Pattern.Ast

/-!
# Pattern expressions

What a pattern matches, with flags applied and names resolved. The builders keep expressions in a
normal form: rows and choices are flat and have at least two members, neighbouring literals are
joined, a choice between single characters is a set, what all alternatives begin with stands in front
of them, and a repetition of what can only match the empty text happens at most once.
-/

namespace Transcript.Pattern

open Unicode (CharSet)

/-- A condition on a place between characters. -/
inductive Look where
  | start | stop
  | startLine | endLine
  | startLineReturn | endLineReturn
  | word (unicode negated : Bool)
  | wordStart (unicode : Bool) | wordEnd (unicode : Bool)
  | wordStartHalf (unicode : Bool) | wordEndHalf (unicode : Bool)
deriving DecidableEq, Repr

/-- What a pattern matches. -/
inductive Expr where
  | empty
  | literal (chars : List Char)
  | set (s : CharSet)
  | look (l : Look)
  | repeat (min : Nat) (max : Option Nat) (greedy : Bool) (body : Expr)
  | group (index : Nat) (body : Expr)
  | concat (parts : List Expr)
  | choice (branches : List Expr)
deriving Inhabited

mutual

/-- Equality of expressions. -/
def Expr.same : Expr → Expr → Bool
  | .empty, .empty => true
  | .literal a, .literal b => a == b
  | .set a, .set b => a == b
  | .look a, .look b => a == b
  | .repeat min max greedy a, .repeat min' max' greedy' b =>
    min == min' && max == max' && greedy == greedy' && a.same b
  | .group i a, .group j b => i == j && a.same b
  | .concat as, .concat bs => Expr.sameAll as bs
  | .choice as, .choice bs => Expr.sameAll as bs
  | _, _ => false

/-- Equality of lists of expressions. -/
def Expr.sameAll : List Expr → List Expr → Bool
  | [], [] => true
  | a :: as, b :: bs => a.same b && Expr.sameAll as bs
  | _, _ => false

end

/-- The lesser of two bounds, where `none` stands for no bound that is known. -/
def leastBound : Option Nat → Option Nat → Option Nat
  | some a, some b => some (min a b)
  | _, _ => none

/-- The greater of two bounds, where `none` stands for no bound. -/
def greatestBound : Option Nat → Option Nat → Option Nat
  | some a, some b => some (max a b)
  | _, _ => none

mutual

/-- The length of the shortest match; `none` when there is no match. -/
def Expr.minLength : Expr → Option Nat
  | .empty | .look _ => some 0
  | .literal cs => some cs.length
  | .set s => if s.isEmpty then none else some 1
  | .repeat min _ _ body => body.minLength.map (min * ·)
  | .group _ body => body.minLength
  | .concat parts => Expr.minLengthSum parts
  | .choice [] => none
  | .choice (b :: bs) => Expr.minLengthLeast b.minLength bs

/-- The sum of the lengths of the shortest matches. -/
def Expr.minLengthSum : List Expr → Option Nat
  | [] => some 0
  | e :: es => do return (← e.minLength) + (← Expr.minLengthSum es)

/-- The least length of a shortest match, where one alternative is known to have `acc`. -/
def Expr.minLengthLeast (acc : Option Nat) : List Expr → Option Nat
  | [] => acc
  | e :: es => Expr.minLengthLeast (leastBound acc e.minLength) es

end

mutual

/-- The length of the longest match; `none` when there is no bound or no match. -/
def Expr.maxLength : Expr → Option Nat
  | .empty | .look _ => some 0
  | .literal cs => some cs.length
  | .set s => if s.isEmpty then none else some 1
  | .repeat _ max _ body => do return (← max) * (← body.maxLength)
  | .group _ body => body.maxLength
  | .concat parts => Expr.maxLengthSum parts
  | .choice [] => none
  | .choice (b :: bs) => Expr.maxLengthGreatest b.maxLength bs

/-- The sum of the lengths of the longest matches. -/
def Expr.maxLengthSum : List Expr → Option Nat
  | [] => some 0
  | e :: es => do return (← e.maxLength) + (← Expr.maxLengthSum es)

/-- The greatest length of a longest match, where one alternative is known to have `acc`. -/
def Expr.maxLengthGreatest (acc : Option Nat) : List Expr → Option Nat
  | [] => acc
  | e :: es => Expr.maxLengthGreatest (greatestBound acc e.maxLength) es

end

namespace Expr

/-- Matches nothing, not even the empty text. -/
def fail : Expr := .set .empty

/-- One character of a set. -/
def ofSet (s : CharSet) : Expr :=
  match s.singleton? with
  | some c => .literal [c]
  | none => .set s

/-- The members of a row that stands inside another row. -/
def rowParts : Expr → List Expr
  | .concat parts => parts
  | .empty => []
  | e => [e]

/-- A row with one more member in front; literals that meet are joined. -/
def consPart : Expr → List Expr → List Expr
  | .literal cs, .literal ds :: es => .literal (cs ++ ds) :: es
  | e, es => e :: es

/-- Expressions one after the other. -/
def row (es : List Expr) : Expr :=
  match (es.flatMap rowParts).foldr consPart [] with
  | [] => .empty
  | [e] => e
  | es => .concat es

/-- The alternatives of a choice that stands inside another choice. -/
def branchesOf : Expr → List Expr
  | .choice bs => bs
  | e => [e]

/-- The only character that an expression can match. -/
def char? : Expr → Option Char
  | .literal [c] => some c
  | _ => none

/-- The set of an expression that is one. -/
def set? : Expr → Option CharSet
  | .set s => some s
  | _ => none

/-- The members of a row. -/
def parts? : Expr → Option (List Expr)
  | .concat parts => some parts
  | _ => none

/-- The longest beginning that two rows share. -/
def commonParts : List Expr → List Expr → List Expr
  | a :: as, b :: bs => if a.same b then a :: commonParts as bs else []
  | _, _ => []

/-- The beginning that all alternatives share, when every one is a row and there is such a beginning. -/
def sharedParts? (bs : List Expr) : Option (List Expr × List (List Expr)) := do
  let rows ← bs.mapM parts?
  match rows with
  | first :: rest =>
    let shared := rest.foldl commonParts first
    if shared.isEmpty then none else some (shared, rows)
  | [] => none

/-- A choice between alternatives that are already flat, without looking for a shared beginning. -/
def choiceOf (bs : List Expr) : Expr :=
  match bs with
  | [] => fail
  | [e] => e
  | bs =>
    match bs.mapM char?, bs.mapM set? with
    | some cs, _ => ofSet (.ofIntervals (cs.map fun c => (c.toNat, c.toNat)))
    | _, some ss => ofSet (ss.foldl CharSet.union .empty)
    | none, none => .choice bs

/-- A choice between alternatives; the first that leads to a match is taken. What they all begin with
is taken out, `fuel` times at most. -/
def alternatives : Nat → List Expr → Expr
  | 0, es => choiceOf (es.flatMap branchesOf)
  | fuel + 1, es =>
    let bs := es.flatMap branchesOf
    match choiceOf bs with
    | .choice bs =>
      match sharedParts? bs with
      | some (shared, rows) =>
        row (shared ++ [alternatives fuel (rows.map fun r => row (r.drop shared.length))])
      | none => .choice bs
    | e => e

/-- A repetition. What matches the empty text only is repeated once at most. -/
def times (min : Nat) (max : Option Nat) (greedy : Bool) (body : Expr) : Expr :=
  let emptyOnly := body.maxLength == some 0
  let min := if emptyOnly then Nat.min min 1 else min
  let max := if emptyOnly then some (Nat.min (max.getD 1) 1) else max
  if min = 0 && max == some 0 then .empty
  else if min = 1 && max == some 1 then body
  else .repeat min max greedy body

end Expr

mutual

/-- The number of members of rows and choices; bounds how often beginnings can be taken out. -/
def Expr.size : Expr → Nat
  | .repeat _ _ _ body => body.size + 1
  | .group _ body => body.size + 1
  | .concat parts => Expr.sizeAll parts + 1
  | .choice branches => Expr.sizeAll branches + 1
  | _ => 1

/-- The sizes of several expressions together. -/
def Expr.sizeAll : List Expr → Nat
  | [] => 0
  | e :: es => e.size + Expr.sizeAll es

end

/-- A choice between alternatives; the first that leads to a match is taken. -/
def Expr.oneOf (es : List Expr) : Expr :=
  Expr.alternatives (Expr.sizeAll es + 1) es

end Transcript.Pattern
