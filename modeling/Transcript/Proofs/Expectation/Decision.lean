import Mathlib.Data.List.Forall2
import Mathlib.Tactic.Common
import Transcript.Proofs.Expectation.Comparison
import Transcript.Proofs.Expectation.Lines

/-!
# What a comparison finds

Expected lines and an output are compared by their trimmed lines without the empty ones at the end. These
differ in number, or there is a first line that fails its test, or none fails (`Finds`), and the comparison
says which (`compare_eq_iff`). So it does not see how lines end, what blank characters stand around them,
or blank lines at the end.
-/

namespace Transcript.Expectation

open Text (trim isAllBlank splitAt withReturns)

/-- A line fails its test: it takes too many edits, or it is not matched up to its end. -/
def Fails [Pattern.Dialect] (mode : Mode) (expected actual : List Char) : Prop :=
  match mode with
  | .exact => 2 < editDistance expected actual
  | .pattern => Pattern.groupsAtStart? (expected ++ ['$']) actual = none

/-- The groups of the last pair of lines; there are none unless they are compared with a pattern. -/
def groupsOfLast [Pattern.Dialect] (mode : Mode) (es as : List (List Char)) : Option (List (List Char)) :=
  match mode with
  | .exact => none
  | .pattern => do
    let e ← es.getLast?
    let a ← as.getLast?
    Pattern.groupsAtStart? (e ++ ['$']) a

/-- What there is to be found in trimmed lines. -/
inductive Finds [Pattern.Dialect] (mode : Mode) (es as : List (List Char)) : Comparison → Prop where
  | lineCount :
    es.length ≠ as.length →
    Finds mode es as (.lineCount es.length as.length)
  | lineDiffers {i e a} :
    es.length = as.length →
    es[i]? = some e → as[i]? = some a →
    Fails mode e a →
    (∀ j < i, ∀ e a : List Char, es[j]? = some e → as[j]? = some a → ¬ Fails mode e a) →
    Finds mode es as (.lineDiffers i e a)
  | accepted :
    es.length = as.length →
    (∀ (j : Nat) (e a : List Char), es[j]? = some e → as[j]? = some a → ¬ Fails mode e a) →
    Finds mode es as (.accepted (groupsOfLast mode es as))

/-- A line with blank characters around it. -/
def Pads (line padded : List Char) : Prop :=
  ∃ before behind, isAllBlank before = true ∧ isAllBlank behind = true ∧ padded = before ++ line ++ behind

variable {mode : Mode} {es as expected : List (List Char)} {e a output : List Char} {found found' : Comparison}

/-- The last pair of as many lines consists of the last ones. -/
lemma getLast?_zip (h : es.length = as.length) :
    (es.zip as).getLast? = es.getLast?.bind fun e => as.getLast?.map fun a => (e, a) := by
  rcases List.eq_nil_or_concat es with rfl | ⟨es, e, rfl⟩
  · rfl
  · rcases List.eq_nil_or_concat as with rfl | ⟨as, a, rfl⟩
    · rw [List.length_concat] at h
      cases h
    · rw [List.length_concat, List.length_concat] at h
      rw [List.concat_eq_append, List.concat_eq_append, List.zip_append (Nat.succ.inj h),
        List.zip_cons_cons, List.zip_nil_right, List.getLast?_concat, List.getLast?_concat,
        List.getLast?_concat]
      rfl

section Deciding

variable [Pattern.Dialect]

/-- The test of a line says when it fails. -/
lemma testLine_eq_none_iff : testLine mode e a = none ↔ Fails mode e a := by
  cases mode with
  | exact =>
    show (if editDistance e a ≤ 2 then some none else none) = none ↔ 2 < editDistance e a
    by_cases h : editDistance e a ≤ 2
    · rw [if_pos h]
      exact iff_of_false nofun (Nat.not_lt.2 h)
    · rw [if_neg h]
      exact iff_of_true rfl (Nat.not_le.1 h)
  | pattern => exact Option.map_eq_none_iff

/-- The test of a line says when it passes. -/
lemma testLine_isSome_iff : (testLine mode e a).isSome ↔ ¬ Fails mode e a := by
  rw [← testLine_eq_none_iff, Option.isSome_iff_ne_none]

/-- A line that is reported is the first that fails. -/
lemma compareLines_differs {index before i e a}
    (h : compareLines mode index before es as = .lineDiffers i e a) :
    ∃ n, i = index + n ∧ (es.map trim)[n]? = some e ∧ (as.map trim)[n]? = some a ∧ Fails mode e a ∧
      ∀ j < n, ∀ e a, (es.map trim)[j]? = some e → (as.map trim)[j]? = some a → ¬ Fails mode e a := by
  induction es generalizing index before as with
  | nil => cases h
  | cons x es ih =>
    cases as with
    | nil => cases h
    | cons y as =>
      rw [compareLines] at h
      cases t : testLine mode (trim x) (trim y) with
      | none =>
        simp only [t] at h
        cases h
        exact ⟨0, rfl, rfl, rfl, testLine_eq_none_iff.1 t, fun j hj => absurd hj (Nat.not_lt_zero j)⟩
      | some groups =>
        simp only [t] at h
        obtain ⟨n, rfl, atE, atA, fails, passes⟩ := ih h
        have first : ¬ Fails mode (trim x) (trim y) := by
          rw [← testLine_isSome_iff, t]
          rfl
        refine ⟨n + 1, by omega, atE, atA, fails, ?_⟩
        intro j hj e a he ha
        cases j with
        | zero =>
          cases he
          cases ha
          exact first
        | succ j => exact passes j (Nat.lt_of_succ_lt_succ hj) e a he ha

/-- Pairs of lines are not counted. -/
lemma compareLines_ne_lineCount {index before m n} :
    compareLines mode index before es as ≠ .lineCount m n := by
  intro h
  induction es generalizing index before as with
  | nil => cases h
  | cons x es ih =>
    cases as with
    | nil => cases h
    | cons y as =>
      rw [compareLines] at h
      cases t : testLine mode (trim x) (trim y) with
      | none =>
        rw [t] at h
        cases h
      | some groups =>
        rw [t] at h
        exact ih h

/-- The groups that are left are those of the last pair. -/
lemma lastGroups_zip (h : es.length = as.length) :
    lastGroups mode none (es.zip as) = groupsOfLast mode es as := by
  cases mode with
  | exact => exact lastGroups_exact _
  | pattern =>
    rw [lastGroups_pattern, getLast?_zip h, groupsOfLast]
    cases es.getLast? with
    | none => rfl
    | some e => cases as.getLast? <;> rfl

/-- A comparison finds what there is to be found. -/
lemma finds_compare (expected output mode) :
    Finds mode (trimmed expected) (trimmed (splitAt '\n' output)) (compare expected output mode) := by
  rw [← map_trim_significant, ← map_trim_significant_outputLines, compare]
  generalize significant expected = es
  generalize significant (outputLines output) = as
  have length (ls : List (List Char)) : ls.length = (ls.map trim).length := (List.length_map trim).symm
  by_cases h : es.length = as.length
  · rw [if_pos h]
    rw [length es, length as] at h
    cases c : compareLines mode 0 none es as with
    | accepted groups =>
      obtain ⟨passes, left⟩ := compareLines_accepted_iff.1 c
      rw [left, lastGroups_zip h]
      refine .accepted h ?_
      intro j e a he ha
      have pair : (e, a) ∈ (es.map trim).zip (as.map trim) :=
        List.mem_iff_getElem?.2 ⟨j, List.getElem?_zip_eq_some.2 ⟨he, ha⟩⟩
      exact testLine_isSome_iff.1 (passes _ pair)
    | lineCount m n => exact absurd c compareLines_ne_lineCount
    | lineDiffers i e a =>
      obtain ⟨n, rfl, he, ha, fails, passes⟩ := compareLines_differs c
      rw [Nat.zero_add]
      exact .lineDiffers h he ha fails passes
  · rw [if_neg h]
    rw [length es, length as] at h ⊢
    exact .lineCount h

/-- There is one thing to be found. -/
lemma Finds.unique (h : Finds mode es as found) (h' : Finds mode es as found') : found = found' := by
  cases h with
  | lineCount ne =>
    cases h' with
    | lineCount _ => rfl
    | lineDiffers eq _ _ _ _ => exact absurd eq ne
    | accepted eq _ => exact absurd eq ne
  | @lineDiffers i e a eq he ha fails passes =>
    cases h' with
    | lineCount ne => exact absurd eq ne
    | @lineDiffers i' e' a' _ he' ha' fails' passes' =>
      rcases Nat.lt_trichotomy i i' with earlier | rfl | later
      · exact absurd fails (passes' i earlier e a he ha)
      · cases he.symm.trans he'
        cases ha.symm.trans ha'
        rfl
      · exact absurd fails' (passes i' later e' a' he' ha')
    | accepted _ passes' => exact absurd fails (passes' i e a he ha)
  | accepted eq passes =>
    cases h' with
    | lineCount ne => exact absurd eq ne
    | lineDiffers _ he' ha' fails' _ => exact absurd fails' (passes _ _ _ he' ha')
    | accepted _ _ => rfl

end Deciding

section Blanks

/-- Outputs with the same trimmed lines are compared alike. -/
lemma compare_congr [Pattern.Dialect] {expected' output'} (he : trimmed expected = trimmed expected')
    (ho : trimmed (splitAt '\n' output) = trimmed (splitAt '\n' output')) :
    compare expected output mode = compare expected' output' mode := by
  have finds := finds_compare expected output mode
  rw [he, ho] at finds
  exact finds.unique (finds_compare expected' output' mode)

/-- Blank characters around lines are trimmed. -/
lemma trimmed_of_pads {ls ls'} (h : List.Forall₂ Pads ls ls') : trimmed ls = trimmed ls' := by
  have lines : ls.map trim = ls'.map trim := by
    induction h with
    | nil => rfl
    | @cons l l' ls ls' pads _ ih =>
      obtain ⟨before, behind, hb, hb', rfl⟩ := pads
      rw [List.map_cons, List.map_cons, ih, Text.trim_padded hb hb']
  rw [trimmed, trimmed, lines]

/-- Carriage returns in front of line feeds are trimmed. -/
lemma trimmed_withReturns (output) :
    trimmed (splitAt '\n' (withReturns output)) = trimmed (splitAt '\n' output) := by
  rw [← trimmed_map Text.trim_trimEnd, Text.map_trimEnd_splitAt_withReturns,
    trimmed_map Text.trim_trimEnd]

/-- Blank lines at the end are not there after trimming. -/
lemma trimmed_append_blank {ls'} (h : ∀ l ∈ ls', isAllBlank l = true) (ls) :
    trimmed (ls ++ ls') = trimmed ls := by
  induction ls' using List.reverseRecOn with
  | nil => rw [List.append_nil]
  | append_singleton ls' l ih =>
    obtain ⟨others, last⟩ := List.forall_mem_append.1 h
    have blank := Text.isAllBlank_iff.1 (last l List.mem_cons_self)
    rw [← List.append_assoc, trimmed_concat_blank blank, ih others]

/-- A blank text at the end of an output is not there after trimming. -/
lemma trimmed_splitAt_append_blank {blank} (h : isAllBlank blank = true) (output) :
    trimmed (splitAt '\n' (output ++ blank)) = trimmed (splitAt '\n' output) := by
  induction blank using List.reverseRecOn with
  | nil => rw [List.append_nil]
  | append_singleton blank c ih =>
    obtain ⟨others, last⟩ := List.forall_mem_append.1 (List.all_eq_true.1 h)
    rw [← List.append_assoc, trimmed_splitAt_concat (last c List.mem_cons_self),
      ih (List.all_eq_true.2 others)]

end Blanks

/-- A comparison says what there is to be found in the trimmed lines without the empty ones at the end. It
does not see carriage returns in front of line feeds, blank characters around lines, or blank lines at the
end, neither those of the script nor those of the output. -/
theorem compare_eq_iff [Pattern.Dialect] (expected output mode) :
    (∀ found, compare expected output mode = found ↔
      Finds mode (trimmed expected) (trimmed (splitAt '\n' output)) found) ∧
    compare expected (withReturns output) mode = compare expected output mode ∧
    (∀ expected' output', List.Forall₂ Pads expected expected' →
      List.Forall₂ Pads (splitAt '\n' output) (splitAt '\n' output') →
      compare expected' output' mode = compare expected output mode) ∧
    (∀ blankLines blankText, (∀ l ∈ blankLines, isAllBlank l = true) → isAllBlank blankText = true →
      compare (expected ++ blankLines) (output ++ blankText) mode = compare expected output mode) := by
  refine ⟨?_, ?_, ?_, ?_⟩
  · intro found
    constructor
    · rintro rfl
      exact finds_compare expected output mode
    · exact (finds_compare expected output mode).unique
  · exact compare_congr rfl (trimmed_withReturns output)
  · intro expected' output' he ho
    exact (compare_congr (trimmed_of_pads he) (trimmed_of_pads ho)).symm
  · intro blankLines blankText hl ht
    exact compare_congr (trimmed_append_blank hl expected) (trimmed_splitAt_append_blank ht output)

/-- Lines that are indented, or followed by a blank one, are compared as without. -/
theorem compare_eq_iff_indented :
    let expected := [['a'], ['b', '(', '.', ')']]
    let output := ['a', '\n', 'b', 'c']
    let found := Comparison.accepted (some [['b', 'c'], ['c']])
    Finds .pattern (trimmed expected) (trimmed (splitAt '\n' output)) found ∧
    compare expected ['a', '\r', '\n', 'b', 'c'] .pattern = found ∧
    compare [[' ', 'a'], ['b', '(', '.', ')', '\t']] ['a', ' ', '\n', '\t', 'b', 'c'] .pattern = found ∧
    compare (expected ++ [[' ']]) (output ++ ['\n', ' ', '\n']) .pattern = found := by
  intro expected output found
  obtain ⟨decides, returns, padded, blank⟩ := compare_eq_iff expected output .pattern
  have base : compare expected output .pattern = found := by decide +kernel
  refine ⟨(decides found).1 base, returns.trans base, ?_, ?_⟩
  · have expectedPads : List.Forall₂ Pads expected [[' ', 'a'], ['b', '(', '.', ')', '\t']] :=
      .cons ⟨[' '], [], rfl, rfl, rfl⟩ (.cons ⟨[], ['\t'], rfl, rfl, rfl⟩ .nil)
    have outputPads : List.Forall₂ Pads (splitAt '\n' output)
        (splitAt '\n' ['a', ' ', '\n', '\t', 'b', 'c']) :=
      .cons ⟨[], [' '], rfl, rfl, rfl⟩ (.cons ⟨['\t'], [], rfl, rfl, rfl⟩ .nil)
    exact (padded _ _ expectedPads outputPads).trans base
  · have blankLine : ∀ l ∈ [[' ']], isAllBlank l = true := by decide
    exact (blank [[' ']] ['\n', ' ', '\n'] blankLine rfl).trans base

end Transcript.Expectation
