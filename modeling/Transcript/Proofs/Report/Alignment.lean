import Mathlib.Tactic.Common
import Transcript.Proofs.FileTree.Paths
import Transcript.Proofs.Report.Listing
import Transcript.Proofs.Text.Lines

/-!
# Alignment of a listing

No number of a line has more digits than that of the last line, so the margins in front of the lines are all
of one width (`exists_margin`), and the lines of the source stand behind them, each in a row of its own. The
rule above the rows is as long as the name has characters and the one below as it has bytes: they are of one
length when the name is ASCII, and only then (`length_rules_iff`).
-/

namespace Transcript

namespace Listing

/-- What stands in front of a line: a marker where the verdict is at the line and else a blank, the number of
the line behind blanks, a point and a blank. -/
inductive IsMargin (v : Verdict) (number : Nat) : List Char → Prop where
  | intro (blanks : Nat) :
    IsMargin v number ((if v.line? = some number then '>' else ' ') ::
      List.replicate blanks ' ' ++ Nat.toDigits 10 number ++ ['.', ' '])

/-- Rows of the lines from the first on, behind margins of one width. -/
structure IsAligned (v : Verdict) (width : Nat) (rows : List (List Char)) : Prop where
  isMargin : ∀ n row, rows[n]? = some row → IsMargin v (n + 1) (row.take width)
  length_eq : ∀ row ∈ rows, (row.take width).length = width

/-- The width of the margins in front of so many lines. -/
def marginWidth (count : Nat) : Nat :=
  (Nat.toDigits 10 count).length + 3

/-- The rows of all lines of a source. -/
def allRows (v : Verdict) (ls : List (List Char)) : List (List Char) :=
  rows (marked? v) (Nat.toDigits 10 ls.length).length 1 ls

variable {v : Verdict} {number count : Nat} {ls : List (List Char)}

section Margins

/-- A number has no more digits than a larger one. -/
lemma length_toDigits_le (h : number ≤ count) :
    (Nat.toDigits 10 number).length ≤ (Nat.toDigits 10 count).length := by
  have below : count < 10 ^ (Nat.toDigits 10 count).length :=
    (Nat.length_toDigits_le_iff (by decide) Nat.length_toDigits_pos).1 (Nat.le_refl _)
  exact (Nat.length_toDigits_le_iff (by decide) Nat.length_toDigits_pos).2 (Nat.lt_of_le_of_lt h below)

/-- A row is its line behind a margin that is as wide as the one of the last line. -/
lemma exists_margin (v) (positive : 0 < number) (h : number ≤ count) (line) :
    ∃ margin, row (marked? v) (Nat.toDigits 10 count).length number line = margin ++ line ∧
      IsMargin v number margin ∧ margin.length = marginWidth count := by
  have marks : marked? v = some number ↔ v.line? = some number :=
    marked?_eq_some_iff.trans (and_iff_left positive)
  have digits := length_toDigits_le h
  -- a number with more digits than the last would get no blanks and still be too wide
  let blanks := (Nat.toDigits 10 count).length - (Nat.toDigits 10 number).length
  refine ⟨_, ?_, .intro blanks, ?_⟩
  · simp only [row, padLeft, marks, blanks, List.cons_append, List.append_assoc, List.nil_append]
  · simp only [List.length_append, List.length_cons, List.length_replicate, List.length_nil, marginWidth, blanks]
    omega

/-- There is no line feed in a margin. -/
lemma IsMargin.newline_not_mem {margin} (h : IsMargin v number margin) : '\n' ∉ margin := by
  cases h with
  | intro blanks =>
    have marker : '\n' ≠ if v.line? = some number then '>' else ' ' := by split <;> decide
    have digits : '\n' ∉ Nat.toDigits 10 number := by
      intro mem
      cases Nat.isDigit_of_mem_toDigits (by decide) (by decide) mem
    simp [marker, digits, List.mem_replicate]

end Margins

section Rows

lemma length_allRows (v ls) : (allRows v ls).length = ls.length :=
  length_rows _ _ _ _

lemma getElem?_allRows (v ls n) :
    (allRows v ls)[n]? = ls[n]?.map (row (marked? v) (Nat.toDigits 10 ls.length).length (n + 1)) := by
  rw [allRows, getElem?_rows, Nat.add_comm 1 n]

/-- The row at a place is the line at that place behind its margin. -/
lemma exists_margin_of_getElem? {n r} (here : (allRows v ls)[n]? = some r) :
    ∃ margin line, ls[n]? = some line ∧ r = margin ++ line ∧
      IsMargin v (n + 1) margin ∧ margin.length = marginWidth ls.length := by
  rw [getElem?_allRows] at here
  obtain ⟨line, there, rfl⟩ := Option.map_eq_some_iff.1 here
  have within : n + 1 ≤ ls.length := (List.getElem?_eq_some_iff.1 there).1
  obtain ⟨margin, behind, isMargin, width⟩ := exists_margin v n.succ_pos within line
  exact ⟨margin, line, there, behind, isMargin, width⟩

lemma isAligned_allRows (v ls) : IsAligned v (marginWidth ls.length) (allRows v ls) where
  isMargin := by
    intro n r here
    obtain ⟨margin, line, -, rfl, isMargin, width⟩ := exists_margin_of_getElem? here
    rwa [List.take_left' width]
  length_eq := by
    intro r hr
    obtain ⟨n, here⟩ := List.mem_iff_getElem?.1 hr
    obtain ⟨margin, line, -, rfl, -, width⟩ := exists_margin_of_getElem? here
    rwa [List.take_left' width]

/-- Behind the margins stand the lines. -/
lemma map_drop_allRows (v ls) : (allRows v ls).map (List.drop (marginWidth ls.length)) = ls := by
  apply List.ext_getElem?
  intro n
  rw [List.getElem?_map]
  cases here : (allRows v ls)[n]? with
  | none =>
    rw [getElem?_allRows, Option.map_eq_none_iff] at here
    rw [here, Option.map_none]
  | some r =>
    obtain ⟨margin, line, there, rfl, -, width⟩ := exists_margin_of_getElem? here
    rw [there, Option.map_some, List.drop_left' width]

/-- A row takes one line of the listing. -/
lemma newline_not_mem_allRows {r} (single : ∀ line ∈ ls, '\n' ∉ line) (hr : r ∈ allRows v ls) : '\n' ∉ r := by
  obtain ⟨n, here⟩ := List.mem_iff_getElem?.1 hr
  obtain ⟨margin, line, there, rfl, isMargin, -⟩ := exists_margin_of_getElem? here
  exact List.not_mem_append isMargin.newline_not_mem (single line (List.mem_of_getElem? there))

end Rows

section Rules

lemma length_openingRule (base) : (openingRule base).length = 42 + base.length := by
  simp only [openingRule, List.length_append, List.length_cons, List.length_replicate]
  omega

lemma length_closingRule (base) : (closingRule base).length = 42 + FileTree.byteLength base :=
  List.length_replicate

/-- The rules are of one length exactly when every character of the name is ASCII. -/
lemma length_rules_iff {base} :
    (openingRule base).length = (closingRule base).length ↔ ∀ c ∈ base, c.toNat < 128 := by
  rw [length_openingRule, length_closingRule, Nat.add_left_cancel_iff, eq_comm]
  exact FileTree.byteLength_eq_length_iff

end Rules

end Listing

open Listing

/-- A listing has a row for each line of its source, a line of its own, which begins with the marker, the
number of the line at the right end of a column, a point and a blank. These margins are of one width, and the
lines of the source stand behind them in their order. The rules above and below are of one length exactly when
the name of the file is ASCII. -/
theorem ScriptResult.listing_aligned (r : ScriptResult) (source : List Char) :
    (∃ rows,
      r.listing source =
        (((marked? r.verdict).map (header r.baseName)).toList ++
          openingRule r.baseName :: rows ++ [closingRule r.baseName]).flatMap (· ++ ['\n']) ∧
      IsAligned r.verdict (marginWidth rows.length) rows ∧
      rows.map (List.drop (marginWidth rows.length)) = Text.lines source ∧
      ∀ row ∈ rows, '\n' ∉ row) ∧
    ((openingRule r.baseName).length = (closingRule r.baseName).length ↔
      ∀ c ∈ r.baseName, c.toNat < 128) := by
  refine ⟨⟨allRows r.verdict (Text.lines source), ?_, ?_, ?_, ?_⟩, length_rules_iff⟩
  · rw [listing, listingLines, List.append_assoc _ [_], allRows]
    cases marked? r.verdict <;> rfl
  · rw [length_allRows]
    exact isAligned_allRows r.verdict (Text.lines source)
  · rw [length_allRows]
    exact map_drop_allRows r.verdict (Text.lines source)
  · intro row hrow
    exact newline_not_mem_allRows (fun line => Text.newline_not_mem_of_mem_lines) hrow

/-- One letter with an accent in a file's name makes the rule below the rows longer than the one above. -/
theorem ScriptResult.listing_uneven :
    let r : ScriptResult := {
      name := ['é']
      path := "é.in".toList
      verdict := .failed 1 (.fileMissing ['a'])
      duration := ⟨0⟩
      kept := none }
    r.listing "E a\n".toList = "    Error on line 1 of é.in\n".toList ++
      "-------------------- é.in --------------------\n>1. E a\n".toList ++ List.replicate 47 '-' ++ ['\n'] ∧
      (openingRule r.baseName).length ≠ (closingRule r.baseName).length := by
  decide

end Transcript
