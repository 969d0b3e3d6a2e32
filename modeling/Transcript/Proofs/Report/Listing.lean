import Mathlib.Tactic.Common
import Transcript.Report

/-!
# Rows of a listing

A listing has one row for each line of its source, in order, with the number of the line. Where a verdict
is at a line of the source, the row of that line is marked and a heading names it; where it is at none,
there is neither (`ScriptResult.listing_eq`).
-/

namespace Transcript

namespace Listing

/-- The rows of a source: one for each line, marked where the verdict is at the line. -/
structure IsRows (v : Verdict) (source : List Char) (rows : List (List Char)) : Prop where
  length_eq : rows.length = (Text.lines source).length
  row_eq : ∀ n line, (Text.lines source)[n]? = some line → ∃ marker,
    rows[n]? = some (marker :: padLeft (Nat.toDigits 10 rows.length).length (Nat.toDigits 10 (n + 1)) ++
      '.' :: ' ' :: line) ∧
    marker = if v.line? = some (n + 1) then '>' else ' '

/-- A row with a marker. -/
def IsMarked (row : List Char) : Prop :=
  row.head? = some '>'

/-- What stands above a listing: a heading when a row is marked, else nothing. -/
inductive IsHeading (v : Verdict) (base : List Char) (rows : List (List Char)) :
    List (List Char) → Prop where
  | none :
    (∀ row ∈ rows, ¬ IsMarked row) →
    IsHeading v base rows []
  | line {line} :
    (∃ row ∈ rows, IsMarked row) → v.line? = some line →
    IsHeading v base rows ["    Error on line ".toList ++ Nat.toDigits 10 line ++ " of ".toList ++ base]

variable {marked : Option Nat} {width number : Nat} {ls : List (List Char)} {v : Verdict}

/-- There are as many rows as lines. -/
lemma length_rows (marked width number ls) : (rows marked width number ls).length = ls.length := by
  induction ls generalizing number with
  | nil => rfl
  | cons l ls ih => rw [rows, List.length_cons, List.length_cons, ih]

/-- The row of a line stands where the line does. -/
lemma getElem?_rows (marked width number ls n) :
    (rows marked width number ls)[n]? = ls[n]?.map (row marked width (number + n)) := by
  induction ls generalizing number n with
  | nil => rfl
  | cons l ls ih =>
    cases n with
    | zero => rfl
    | succ n =>
      have count : number + 1 + n = number + (n + 1) := by omega
      rw [rows, List.getElem?_cons_succ, List.getElem?_cons_succ, ih, count]

/-- A row is marked when it has the number that is. -/
lemma isMarked_row {line} : IsMarked (row marked width number line) ↔ marked = some number := by
  rw [IsMarked, row, List.cons_append, List.head?_cons]
  split
  · exact iff_of_true rfl ‹_›
  · exact iff_of_false (by decide) ‹_›

/-- A line is pointed out where a verdict is at it. -/
lemma marked?_eq_some_iff {line} : marked? v = some line ↔ v.line? = some line ∧ 0 < line := by
  rw [marked?, Option.filter_eq_some_iff, decide_eq_true_iff]

/-- A row is marked when a verdict is at one of the lines, which are counted from 1. -/
lemma exists_isMarked_iff :
    (∃ r ∈ rows (marked? v) width 1 ls, IsMarked r) ↔
      ∃ line, v.line? = some line ∧ 0 < line ∧ line ≤ ls.length := by
  constructor
  · rintro ⟨r, hr, isMarked⟩
    obtain ⟨n, here⟩ := List.mem_iff_getElem?.1 hr
    rw [getElem?_rows] at here
    obtain ⟨l, there, rfl⟩ := Option.map_eq_some_iff.1 here
    obtain ⟨line, positive⟩ := marked?_eq_some_iff.1 (isMarked_row.1 isMarked)
    have within := (List.getElem?_eq_some_iff.1 there).1
    exact ⟨1 + n, line, positive, by omega⟩
  · rintro ⟨line, here, positive, within⟩
    obtain ⟨n, rfl⟩ : ∃ n, line = 1 + n := ⟨line - 1, by omega⟩
    have there : ls[n]? = some ls[n] := List.getElem?_eq_getElem (by omega)
    refine ⟨row (marked? v) width (1 + n) ls[n], List.mem_iff_getElem?.2 ⟨n, ?_⟩, ?_⟩
    · rw [getElem?_rows, there]
      rfl
    · exact isMarked_row.2 (marked?_eq_some_iff.2 ⟨here, positive⟩)

/-- There is a heading when a row is marked, and only then, unless the verdict is behind the lines. -/
lemma isHeading (within : ∀ line, v.line? = some line → line ≤ ls.length) (width base) :
    IsHeading v base (rows (marked? v) width 1 ls)
      (match marked? v with
        | some line => [header base line]
        | none => []) := by
  have marks : (∃ r ∈ rows (marked? v) width 1 ls, IsMarked r) ↔ _ := exists_isMarked_iff
  cases e : marked? v with
  | none =>
    rw [e] at marks
    apply IsHeading.none
    intro row hrow isMarked
    obtain ⟨line, here, positive, -⟩ := marks.1 ⟨row, hrow, isMarked⟩
    rw [marked?_eq_some_iff.2 ⟨here, positive⟩] at e
    cases e
  | some line =>
    obtain ⟨here, positive⟩ := marked?_eq_some_iff.1 e
    rw [e] at marks
    exact .line (marks.2 ⟨line, here, positive, within line here⟩) here

/-- The rows of a listing are those of its source. -/
lemma isRows (v source) :
    IsRows v source
      (rows (marked? v) (Nat.toDigits 10 (Text.lines source).length).length 1 (Text.lines source)) where
  length_eq := length_rows _ _ _ _
  row_eq := by
    intro n line there
    have same : marked? v = some (n + 1) ↔ v.line? = some (n + 1) :=
      marked?_eq_some_iff.trans (and_iff_left (Nat.succ_pos n))
    rw [getElem?_rows, length_rows, there, Nat.add_comm 1 n]
    refine ⟨_, rfl, ?_⟩
    simp only [same]

end Listing

open Listing

/-- A listing of a script whose verdict is at none of its lines or at one that it has: it consists of the
rows of its lines between two rules, with a heading when a row is marked. -/
theorem ScriptResult.listing_eq (r : ScriptResult) {source}
    (within : ∀ line, r.verdict.line? = some line → line ≤ (Text.lines source).length) :
    ∃ heading rows, IsRows r.verdict source rows ∧ IsHeading r.verdict r.baseName rows heading ∧
      r.listing source = (heading ++ openingRule r.baseName :: rows ++ [closingRule r.baseName]).flatMap
        (· ++ ['\n']) := by
  refine ⟨_, _, isRows r.verdict source, isHeading within _ _, ?_⟩
  rw [listing, listingLines, List.append_assoc _ [_]]
  rfl

end Transcript
