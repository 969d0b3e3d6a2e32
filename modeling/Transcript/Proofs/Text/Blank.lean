import Mathlib.Data.List.DropRight
import Mathlib.Tactic.Common
import Transcript.Text.Blank

/-!
# Trimming

The end of a text is trimmed from its last character on (`trimEndWhile_eq_rdropWhile`), blank characters
at the end do not matter to what `trim` leaves (`trim_trimEnd`), and a second trimming finds nothing to
take off (`trim_trim`).
-/

namespace Transcript.Text

/-- The last character of a text is taken off or ends the trimming. -/
lemma trimEndWhile_concat (p s c) :
    trimEndWhile p (s ++ [c]) = if p c then trimEndWhile p s else s ++ [c] := by
  induction s with
  | nil => rfl
  | cons d s ih =>
    rw [List.cons_append, trimEndWhile, ih]
    by_cases h : p c
    · rw [if_pos h, if_pos h]
      rfl
    · rw [if_neg h, if_neg h]
      cases e : s ++ [c] with
      | nil => exact absurd e (by simp)
      | cons d' q => rfl

/-- Trimming the end drops characters from the right. -/
lemma trimEndWhile_eq_rdropWhile (p s) : trimEndWhile p s = s.rdropWhile p := by
  induction s using List.reverseRecOn with
  | nil => rfl
  | append_singleton s c ih => rw [trimEndWhile_concat, List.rdropWhile_concat, ih]

/-- What is left begins the text. -/
lemma trimEnd_isPrefix (s) : trimEnd s <+: s := by
  rw [trimEnd, trimEndWhile_eq_rdropWhile]
  exact List.rdropWhile_prefix isBlank s

/-- Trimming adds no characters. -/
lemma trim_subset (s) : trim s ⊆ s := by
  have start : trimStart s <:+ s := List.dropWhile_suffix isBlank
  exact fun c hc => start.subset ((trimEnd_isPrefix (trimStart s)).subset hc)

/-- The end of a trimmed text is trimmed. -/
lemma trimEnd_trimEnd (s) : trimEnd (trimEnd s) = trimEnd s := by
  simp only [trimEnd, trimEndWhile_eq_rdropWhile]
  exact List.rdropWhile_idempotent isBlank s

/-- A blank character at the end does not matter. -/
lemma trim_concat {c} (h : isBlank c = true) (s) : trim (s ++ [c]) = trim s := by
  rw [trim, trim, trimStart, trimStart, List.dropWhile_append]
  split
  · rename_i e
    rw [List.isEmpty_iff.1 e, List.dropWhile_cons_of_pos h, List.dropWhile_nil]
  · rw [trimEnd, trimEndWhile_concat, if_pos h]
    rfl

/-- Blank characters at the end do not matter. -/
lemma trim_trimEnd (s) : trim (trimEnd s) = trim s := by
  induction s using List.reverseRecOn with
  | nil => rfl
  | append_singleton s c ih =>
    rw [trimEnd, trimEndWhile_concat]
    by_cases h : isBlank c = true
    · rw [if_pos h, trim_concat h]
      exact ih
    · rw [if_neg h]

/-- Blank characters around a text do not matter. -/
lemma trim_padded {before behind} (hb : isAllBlank before = true) (hb' : isAllBlank behind = true) (s) :
    trim (before ++ s ++ behind) = trim s := by
  induction behind using List.reverseRecOn with
  | nil =>
    have start : trimStart (before ++ s) = trimStart s :=
      List.dropWhile_append_of_pos (List.all_eq_true.1 hb)
    rw [List.append_nil, trim, trim, start]
  | append_singleton behind c ih =>
    obtain ⟨others, last⟩ := List.forall_mem_append.1 (List.all_eq_true.1 hb')
    rw [← List.append_assoc, trim_concat (last c List.mem_cons_self)]
    exact ih (List.all_eq_true.2 others)

/-- What is left behind a character does not depend on what is trimmed. -/
lemma trimEnd_cons {s t} (h : trimEnd s = trimEnd t) (c) : trimEnd (c :: s) = trimEnd (c :: t) := by
  rw [trimEnd, trimEnd] at h ⊢
  rw [trimEndWhile, trimEndWhile, h]

/-- A text whose start is trimmed does not begin with a blank character. -/
lemma trimStart_first {s c r} (e : trimStart s = c :: r) : isBlank c = false := by
  rw [trimStart] at e
  have ne : s.dropWhile isBlank ≠ [] := by
    rw [e]
    exact List.cons_ne_nil c r
  have h := List.head_dropWhile_not isBlank ne
  simp only [e, List.head_cons] at h
  exact h

/-- A text that begins with a character that is not blank still does when its end is trimmed. -/
lemma trimStart_trimEnd_trimStart (s) : trimStart (trimEnd (trimStart s)) = trimEnd (trimStart s) := by
  cases e : trimEnd (trimStart s) with
  | nil => rfl
  | cons c r =>
    obtain ⟨q, hq⟩ := trimEnd_isPrefix (trimStart s)
    rw [e, List.cons_append] at hq
    have first := trimStart_first hq.symm
    rw [trimStart, List.dropWhile_cons_of_neg (by simp [first])]

/-- A trimmed text stays as it is. -/
lemma trim_trim (s) : trim (trim s) = trim s := by
  rw [trim, trim, trimStart_trimEnd_trimStart, trimEnd_trimEnd]

/-- Nothing is left of a blank text, and of no other. -/
lemma isAllBlank_iff {s} : isAllBlank s = true ↔ trim s = [] := by
  rw [isAllBlank, List.all_eq_true]
  constructor
  · intro h
    rw [trim, trimStart, List.dropWhile_eq_nil_iff.2 h]
    rfl
  · intro h
    have start : trimStart s = [] := by
      cases e : trimStart s with
      | nil => rfl
      | cons c r =>
        have first := trimStart_first e
        rw [trim, trimEnd, trimEndWhile_eq_rdropWhile, List.rdropWhile_eq_nil_iff] at h
        rw [h c (e ▸ List.mem_cons_self)] at first
        cases first
    exact List.dropWhile_eq_nil_iff.1 start

end Transcript.Text
