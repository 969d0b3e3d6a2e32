import Mathlib.Tactic.Common
import Transcript.EditDistance

/-!
# The recurrence of edit distances

A row holds what the recurrence of edit distances gives for every suffix of the second text
(`row_eq`), so the distance of two texts is that of the recurrence (`editDistance_eq`).
-/

namespace Transcript.EditDistance

/-- The edit distance by its recurrence on the first characters of both texts. -/
def distance : List Char → List Char → Nat
  | [], bs => bs.length
  | _ :: as, [] => as.length + 1
  | a :: as, b :: bs =>
    min (min (distance as (b :: bs) + 1) (distance (a :: as) bs + 1))
      (distance as bs + if a = b then 0 else 1)

/-- To remove a text takes as many edits as it has characters. -/
lemma distance_nil (as) : distance as [] = as.length := by
  cases as with
  | nil => rw [distance]
  | cons a as => rw [distance, List.length_cons]

/-- The distances from the empty text are lengths. -/
lemma firstRow_eq (bs) : firstRow bs = bs.tails.map (distance []) := by
  induction bs with
  | nil => rw [firstRow, List.tails, List.map_singleton, distance, List.length_nil]
  | cons b bs ih =>
    rw [firstRow, ih, List.tails, List.map_cons, distance, List.length_cons]

/-- The distances to the suffixes of a text begin with the one to the text itself. -/
lemma headD_map_tails (f : List Char → Nat) (bs) : (bs.tails.map f).headD 0 = f bs := by
  cases bs <;> rfl

/-- A row comes from the row below by the recurrence. -/
lemma nextRow_eq (a as bs) :
    nextRow a bs (bs.tails.map (distance as)) = bs.tails.map (distance (a :: as)) := by
  induction bs with
  | nil =>
    rw [nextRow, headD_map_tails, List.tails, List.map_singleton, distance_nil, distance_nil,
      List.length_cons]
  | cons b bs ih =>
    have below : ((b :: bs).tails.map (distance as)).tail = bs.tails.map (distance as) := rfl
    rw [nextRow, below, ih, headD_map_tails, headD_map_tails, headD_map_tails, List.tails,
      List.map_cons, distance]

/-- A row holds the distances to all suffixes. -/
lemma row_eq (bs as) : row bs as = bs.tails.map (distance as) := by
  induction as with
  | nil => exact firstRow_eq bs
  | cons a as ih => rw [row, ih, nextRow_eq]

/-- The distance that is computed is that of the recurrence. -/
theorem editDistance_eq (as bs) : editDistance as bs = distance as bs := by
  rw [editDistance, row_eq, headD_map_tails]

/-- A text is at no distance from itself. -/
lemma editDistance_self (s) : editDistance s s = 0 := by
  rw [editDistance_eq]
  induction s with
  | nil => rw [distance, List.length_nil]
  | cons c s ih => rw [distance, ih, if_pos rfl, Nat.add_zero, Nat.min_zero]

end Transcript.EditDistance
