import Mathlib.Tactic.Common
import Transcript.Expectation
import Transcript.Proofs.Pattern.Groups

/-!
# What a comparison accepts

An output is accepted when it has as many significant lines as expected and every pair of lines passes
its test; the groups that are left are those of the last pair (`compare_accepted_iff`), and parts of its
second line (`isInfix_of_accepted`).
-/

namespace Transcript.Expectation

open Text (trim)

/-- The pairs of lines that are tested, without the blank characters around them. -/
def comparedLines (expected : List (List Char)) (output : List Char) :
    List (List Char × List Char) :=
  ((significant expected).map trim).zip ((significant (outputLines output)).map trim)

variable [Pattern.Dialect]

/-- The groups that the last of several pairs leaves; where there is no pair, those of before. -/
def lastGroups (mode : Mode) (before : Option (List (List Char)))
    (ps : List (List Char × List Char)) : Option (List (List Char)) :=
  match ps.getLast? with
  | none => before
  | some p => (testLine mode p.1 p.2).join

/-- What the first of several pairs leaves is what was there before the others. -/
lemma lastGroups_cons (mode before p ps) :
    lastGroups mode before (p :: ps) = lastGroups mode (testLine mode p.1 p.2).join ps := by
  unfold lastGroups
  cases ps with
  | nil => rfl
  | cons q qs =>
    rw [List.getLast?_cons_cons]
    cases h : (q :: qs).getLast? with
    | none => exact absurd (List.getLast?_eq_none_iff.1 h) (List.cons_ne_nil q qs)
    | some l => rfl

/-- A test within a few edits leaves no groups. -/
lemma lastGroups_exact (ps) : lastGroups .exact none ps = none := by
  unfold lastGroups
  split
  · rfl
  · simp only [testLine]
    split <;> rfl

/-- A test with a pattern leaves the groups of the last pair. -/
lemma lastGroups_pattern (ps) :
    lastGroups .pattern none ps = ps.getLast?.bind fun p => Pattern.groupsAtStart? (p.1 ++ ['$']) p.2 := by
  unfold lastGroups
  cases ps.getLast? with
  | none => rfl
  | some p =>
    rw [Option.bind_some]
    simp only [testLine]
    cases Pattern.groupsAtStart? (p.1 ++ ['$']) p.2 <;> rfl

/-- Lines are accepted in turn. -/
lemma compareLines_accepted_iff {mode index before es as groups} :
    compareLines mode index before es as = .accepted groups ↔
      (∀ p ∈ (es.map trim).zip (as.map trim), (testLine mode p.1 p.2).isSome) ∧
        groups = lastGroups mode before ((es.map trim).zip (as.map trim)) := by
  induction es generalizing index before as with
  | nil => exact ⟨fun h => by cases h; exact ⟨nofun, rfl⟩, fun h => by rw [h.2]; rfl⟩
  | cons e es ih =>
    cases as with
    | nil => exact ⟨fun h => by cases h; exact ⟨nofun, rfl⟩, fun h => by rw [h.2]; rfl⟩
    | cons a as =>
      rw [compareLines, List.map_cons, List.map_cons, List.zip_cons_cons, lastGroups_cons,
        List.forall_mem_cons]
      cases t : testLine mode (trim e) (trim a) with
      | none => exact ⟨nofun, fun h => absurd h.1.1 (by simp)⟩
      | some found =>
        simp only [Option.isSome_some, true_and]
        exact ih

/-- An output is accepted when there are as many lines as expected and each passes its test. -/
theorem compare_accepted_iff {expected output mode groups} :
    compare expected output mode = .accepted groups ↔
      (significant expected).length = (significant (outputLines output)).length ∧
      (∀ p ∈ comparedLines expected output, (testLine mode p.1 p.2).isSome) ∧
      groups = lastGroups mode none (comparedLines expected output) := by
  unfold compare comparedLines
  by_cases h : (significant expected).length = (significant (outputLines output)).length
  · simp only [h, if_true, true_and]
    exact compareLines_accepted_iff
  · simp only [h, if_false, false_and, iff_false]
    exact nofun

/-- The groups that a test leaves are parts of the line that is tested. -/
lemma isInfix_of_testLine {mode expected actual groups}
    (h : testLine mode expected actual = some (some groups)) : ∀ g ∈ groups, g <:+: actual := by
  cases mode with
  | exact =>
    simp only [testLine] at h
    split at h <;> cases h
  | pattern =>
    obtain ⟨gs, found, same⟩ := Option.map_eq_some_iff.1 h
    cases same
    exact Pattern.isInfix_of_groupsAtStart? found

/-- The groups that are left are parts of a line of the output that was compared. -/
theorem isInfix_of_accepted {expected output mode groups}
    (h : compare expected output mode = .accepted (some groups)) :
    ∃ pair ∈ comparedLines expected output, ∀ g ∈ groups, g <:+: pair.2 := by
  obtain ⟨-, -, left⟩ := compare_accepted_iff.1 h
  unfold lastGroups at left
  split at left
  · cases left
  · rename_i pair last
    exact ⟨pair, List.mem_of_getLast? last, isInfix_of_testLine (Option.join_eq_some_iff.1 left.symm)⟩

end Transcript.Expectation
