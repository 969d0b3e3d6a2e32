import Transcript.Pattern.Expr
import Transcript.Unicode.Property

/-!
# Dialects of patterns

What the syntax of patterns leaves open: the characters that the name of a property stands for, which
depend on the edition of the character tables, and how much room a pattern may take. The standard dialect
looks properties up in the tables of `Unicode` and estimates the room from the encoding of the characters.
-/

namespace Transcript.Pattern

open Unicode (CharSet PropertyQuery)

/-- What is left open about patterns. -/
class Dialect where
  /-- The set that a property stands for, if it is known. -/
  property? : PropertyQuery → Option CharSet
  /-- A pattern with this text, read as this expression, takes too much room. -/
  tooLarge : List Char → Expr → Bool

/-! ## Room -/

/-- The intervals of bytes that encode the numbers from `a` to `b`, where `k` bytes of six bits follow the
first one. -/
def byteRows : Nat → Nat → Nat → List (List (Nat × Nat))
  | 0, a, b => [[(a, b)]]
  | k + 1, a, b =>
    let m := 64 ^ (k + 1)
    let rows (first last lo hi : Nat) := (byteRows k lo hi).map ((first, last) :: ·)
    if a / m = b / m then rows (a / m) (b / m) (a % m) (b % m)
    else
      -- the blocks at both ends may be incomplete
      let begun := if a % m = 0 then [] else rows (a / m) (a / m) (a % m) (m - 1)
      let first := if a % m = 0 then a / m else a / m + 1
      let last := if b % m = m - 1 then b / m else b / m - 1
      let full := if first ≤ last then rows first last 0 (m - 1) else []
      let ended := if b % m = m - 1 then [] else rows (b / m) (b / m) 0 (b % m)
      begun ++ full ++ ended

/-- The intervals of bytes that encode the characters of a set. -/
def setRows (s : CharSet) : List (List (Nat × Nat)) :=
  s.intervals.flatMap fun (a, b) =>
    [(0, 0, 0x7F), (1, 0x80, 0x7FF), (2, 0x800, 0xFFFF), (3, 0x10000, 0x10FFFF)].flatMap
      fun (k, lo, hi) =>
        if max a lo ≤ min b hi then byteRows k (max a lo) (min b hi) else []

/-- The number of intervals in rows, where rows that follow each other share how they begin. -/
def sharedLength (before : List (Nat × Nat)) : List (List (Nat × Nat)) → Nat
  | [] => 0
  | row :: rows =>
    let shared := ((before.zip row).takeWhile fun p => p.1 == p.2).length
    row.length - shared + sharedLength row rows

/-- The bytes that the instructions of a set take, about. -/
def setWeight (s : CharSet) : Nat :=
  if s.intervals.all (·.2 < 128) then 64 + 8 * s.intervals.length
  else
    let rows := setRows s
    64 + 4 * rows.length + 32 * sharedLength [] rows

mutual

/-- The bytes that the instructions of an expression take, about. -/
def Expr.weight : Expr → Nat
  | .empty => 0
  | .literal cs => cs.foldl (fun acc c => acc + 32 * c.utf8Size) 0
  | .set s => setWeight s
  | .look _ => 32
  | .repeat min max _ body =>
    match max with
    | none => body.weight * Nat.max min 1 + 40
    | some max => body.weight * Nat.max min max + 40 * (max - min)
  | .group _ body => body.weight + 64
  | .concat parts => Expr.weightAll parts
  | .choice branches => Expr.weightAll branches + 40

/-- The bytes that the instructions of several expressions take together, about. -/
def Expr.weightAll : List Expr → Nat
  | [] => 0
  | e :: es => e.weight + Expr.weightAll es

end

/-- The tables of `Unicode`, and ten mebibytes of room. -/
instance Dialect.standard : Dialect where
  property? := PropertyQuery.set?
  tooLarge _ e := 10 * 1024 * 1024 < e.weight

end Transcript.Pattern
