/-!
# Edit distance

The least number of insertions, removals and replacements of single characters that turn one text into
another. It is computed row by row: a row holds the distances from one suffix of the first text to all
suffixes of the second.
-/

namespace Transcript.EditDistance

/-- The distances from the empty text to the suffixes of a text. -/
def firstRow : List Char → List Nat
  | [] => [0]
  | _ :: bs => (bs.length + 1) :: firstRow bs

/-- The row of a text that begins with `a`, from the row of what follows `a`. -/
def nextRow (a : Char) : List Char → List Nat → List Nat
  | [], below => [below.headD 0 + 1]
  | b :: bs, below =>
    let right := nextRow a bs below.tail
    let removed := below.headD 0 + 1
    let inserted := right.headD 0 + 1
    let replaced := below.tail.headD 0 + if a = b then 0 else 1
    min (min removed inserted) replaced :: right

/-- The distances from a text to the suffixes of another. -/
def row (bs : List Char) : List Char → List Nat
  | [] => firstRow bs
  | a :: as => nextRow a bs (row bs as)

end Transcript.EditDistance

namespace Transcript

/-- The least number of edits of single characters that turn one text into another. -/
def editDistance (as bs : List Char) : Nat :=
  (EditDistance.row bs as).headD 0

end Transcript
