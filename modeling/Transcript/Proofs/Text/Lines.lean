import Mathlib.Tactic.Common
import Transcript.Proofs.Text.Blank
import Transcript.Text.Lines

/-!
# Lines and pieces

The lines before a line feed are the pieces between the line feeds before it, each without one carriage
return at its end, and the lines behind it are those of the text behind it (`lines_newline_append`). So a
part of a script that is empty or ends with a line feed contributes its lines as they are, whatever
follows it (`lines_append`).
-/

namespace Transcript.Text

section Pieces

variable {sep c : Char} {r l : List Char} {ls : List (List Char)}

/-- There is always a piece. -/
lemma splitAt_ne_nil (sep s) : splitAt sep s ≠ [] := by
  cases s with
  | nil => exact List.cons_ne_nil _ _
  | cons c r =>
    rw [splitAt]
    cases splitAt sep r with
    | nil => exact List.cons_ne_nil _ _
    | cons l ls =>
      simp only
      split <;> exact List.cons_ne_nil _ _

/-- A separator in front begins a new piece. -/
lemma splitAt_sep (sep r) : splitAt sep (sep :: r) = [] :: splitAt sep r := by
  rw [splitAt]
  cases e : splitAt sep r with
  | nil => exact absurd e (splitAt_ne_nil sep r)
  | cons l ls => simp only [if_true]

/-- Any other character in front belongs to the first piece. -/
lemma splitAt_cons (h : c ≠ sep) (e : splitAt sep r = l :: ls) :
    splitAt sep (c :: r) = (c :: l) :: ls := by
  rw [splitAt, e]
  simp only [h, if_false]

/-- The separator is in no piece. -/
lemma not_mem_of_mem_splitAt {s} (h : l ∈ splitAt sep s) : sep ∉ l := by
  induction s generalizing l with
  | nil =>
    rw [List.mem_singleton.1 h]
    exact List.not_mem_nil
  | cons c r ih =>
    cases e : splitAt sep r with
    | nil => exact absurd e (splitAt_ne_nil sep r)
    | cons p ps =>
      by_cases hc : c = sep
      · rw [hc, splitAt_sep] at h
        rcases List.mem_cons.1 h with rfl | h
        · exact List.not_mem_nil
        · exact ih h
      · rw [splitAt_cons hc e] at h
        rw [e] at ih
        rcases List.mem_cons.1 h with rfl | h
        · exact List.not_mem_cons_of_ne_of_not_mem (Ne.symm hc) (ih List.mem_cons_self)
        · exact ih (List.mem_cons_of_mem p h)

/-- A first piece is empty when nothing or a separator stands at the front. -/
lemma splitAt_nil_cons (e : splitAt sep r = [] :: ls) : r = [] ∨ ∃ q, r = sep :: q := by
  cases r with
  | nil => exact .inl rfl
  | cons c q =>
    by_cases h : c = sep
    · exact .inr ⟨q, by rw [h]⟩
    · cases e' : splitAt sep q with
      | nil => exact absurd e' (splitAt_ne_nil sep q)
      | cons l ls =>
        rw [splitAt_cons h e'] at e
        cases e

/-- A separator ends the pieces before it. -/
lemma splitAt_append_sep (sep s t) :
    splitAt sep (s ++ sep :: t) = splitAt sep s ++ splitAt sep t := by
  induction s with
  | nil => exact splitAt_sep sep t
  | cons c r ih =>
    rw [List.cons_append]
    by_cases h : c = sep
    · subst h
      rw [splitAt_sep, splitAt_sep, ih, List.cons_append]
    · cases e : splitAt sep r with
      | nil => exact absurd e (splitAt_ne_nil sep r)
      | cons l ls =>
        rw [e, List.cons_append] at ih
        rw [splitAt_cons h e, splitAt_cons h ih, List.cons_append]

/-- A separator at the end begins an empty piece. -/
lemma splitAt_concat_sep (sep s) : splitAt sep (s ++ [sep]) = splitAt sep s ++ [[]] :=
  splitAt_append_sep sep s []

/-- Any other character at the end belongs to the last piece. -/
lemma splitAt_concat_ne (h : c ≠ sep) (s) :
    ∃ ps p, splitAt sep s = ps ++ [p] ∧ splitAt sep (s ++ [c]) = ps ++ [p ++ [c]] := by
  induction s with
  | nil => exact ⟨[], [], rfl, splitAt_cons h rfl⟩
  | cons d r ih =>
    obtain ⟨ps, p, before, behind⟩ := ih
    rw [List.cons_append]
    by_cases hd : d = sep
    · subst hd
      refine ⟨[] :: ps, p, ?_, ?_⟩
      · rw [splitAt_sep, before, List.cons_append]
      · rw [splitAt_sep, behind, List.cons_append]
    · cases ps with
      | nil => exact ⟨[], d :: p, splitAt_cons hd before, splitAt_cons hd behind⟩
      | cons q qs => exact ⟨(d :: q) :: qs, p, splitAt_cons hd before, splitAt_cons hd behind⟩

/-- A text without the separator is one piece. -/
lemma splitAt_of_not_mem {s} (h : sep ∉ s) : splitAt sep s = [s] := by
  induction s with
  | nil => rfl
  | cons c r ih =>
    rw [List.mem_cons, not_or] at h
    exact splitAt_cons (Ne.symm h.1) (ih h.2)

end Pieces

section Returns

variable {c : Char} {l : List Char}

/-- A text with a carriage return in front of every line feed. -/
def withReturns (s : List Char) : List Char :=
  s.flatMap fun c => if c = '\n' then ['\r', '\n'] else [c]

/-- The carriage returns stand at the ends of pieces. -/
lemma map_trimEnd_splitAt_withReturns (s) :
    (splitAt '\n' (withReturns s)).map trimEnd = (splitAt '\n' s).map trimEnd := by
  induction s with
  | nil => rfl
  | cons c r ih =>
    have step : withReturns (c :: r) = (if c = '\n' then ['\r', '\n'] else [c]) ++ withReturns r :=
      List.flatMap_cons
    rw [step]
    by_cases h : c = '\n'
    · have piece : splitAt '\n' ('\r' :: '\n' :: withReturns r) = ['\r'] :: splitAt '\n' (withReturns r) :=
        splitAt_cons (by decide) (splitAt_sep '\n' (withReturns r))
      have blank : trimEnd ['\r'] = trimEnd [] := rfl
      rw [if_pos h, h, splitAt_sep, List.cons_append, List.singleton_append, piece, List.map_cons,
        List.map_cons, ih, blank]
    · rw [if_neg h, List.singleton_append]
      cases e : splitAt '\n' r with
      | nil => exact absurd e (splitAt_ne_nil '\n' r)
      | cons p ps =>
        cases e' : splitAt '\n' (withReturns r) with
        | nil => exact absurd e' (splitAt_ne_nil '\n' _)
        | cons p' ps' =>
          rw [e, e', List.map_cons, List.map_cons] at ih
          obtain ⟨first, others⟩ := List.cons.inj ih
          rw [splitAt_cons h e, splitAt_cons h e', List.map_cons, List.map_cons, trimEnd_cons first, others]

/-- A line keeps its first character unless it is a carriage return alone. -/
lemma dropReturn_cons (h : c = '\r' → l ≠ []) : dropReturn (c :: l) = c :: dropReturn l := by
  cases l with
  | nil =>
    unfold dropReturn
    split
    · rename_i e
      rw [List.getLast?_singleton] at e
      exact absurd rfl (h (Option.some.inj e))
    · rfl
  | cons d q =>
    unfold dropReturn
    rw [List.getLast?_cons_cons]
    split <;> rfl

/-- The carriage return at the end of a line is blank. -/
lemma trim_dropReturn (l) : trim (dropReturn l) = trim l := by
  unfold dropReturn
  split
  · rename_i e
    obtain ⟨q, rfl⟩ := List.getLast?_eq_some_iff.1 e
    rw [List.dropLast_concat, trim_concat (by decide)]
  · rfl

/-- Carriage returns at the end of a line are trimmed. -/
lemma trimEnd_dropReturn (l) : trimEnd (dropReturn l) = trimEnd l := by
  unfold dropReturn
  split
  · rename_i e
    obtain ⟨q, rfl⟩ := List.getLast?_eq_some_iff.1 e
    rw [List.dropLast_concat, trimEnd, trimEnd, trimEndWhile_concat, if_pos (by decide)]
  · rfl

/-- A line begins as it did before its carriage return was dropped. -/
lemma dropReturn_isPrefix (l) : dropReturn l <+: l := by
  unfold dropReturn
  split
  · exact List.dropLast_prefix l
  · exact List.prefix_rfl

end Returns

section Lines

variable {c : Char} {r s : List Char}

/-- A text after which a new line begins. -/
def IsClosed (s : List Char) : Prop :=
  s = [] ∨ s.getLast? = some '\n'

/-- A line feed at the front ends an empty line. -/
lemma lines_newline (r) : lines ('\n' :: r) = [] :: lines r := by
  rw [lines]

/-- A line feed takes the carriage return before it along. -/
lemma lines_return_newline (r) : lines ('\r' :: '\n' :: r) = [] :: lines r := by
  rw [lines]

/-- Any other character stands at the front of the first line, if there is one. -/
lemma lines_cons (hc : c ≠ '\n') (hr : c = '\r' → ∀ q, r ≠ '\n' :: q) :
    lines (c :: r) = match lines r with
      | [] => [[c]]
      | l :: ls => (c :: l) :: ls :=
  lines.eq_4 c r hc fun q ec er => hr ec q er

/-- A line has no line feed. -/
lemma newline_not_mem_of_mem_lines {l} (h : l ∈ lines s) : '\n' ∉ l := by
  induction s using lines.induct generalizing l with
  | case1 => cases h
  | case2 r ih =>
    rw [lines_newline] at h
    rcases List.mem_cons.1 h with rfl | later
    · exact List.not_mem_nil
    · exact ih later
  | case3 r ih =>
    rw [lines_return_newline] at h
    rcases List.mem_cons.1 h with rfl | later
    · exact List.not_mem_nil
    · exact ih later
  | case4 c r hn hr e ih =>
    rw [lines_cons hn fun ec q er => hr q ec er, e] at h
    rw [List.mem_singleton.1 h, List.mem_singleton]
    exact Ne.symm hn
  | case5 c r hn hr m ms e ih =>
    rw [lines_cons hn fun ec q er => hr q ec er, e] at h
    rw [e] at ih
    rcases List.mem_cons.1 h with rfl | later
    · exact not_or.2 ⟨Ne.symm hn, ih List.mem_cons_self⟩ ∘ List.mem_cons.1
    · exact ih (List.mem_cons_of_mem m later)

/-- A text that is not empty has a line. -/
lemma lines_ne_nil (h : s ≠ []) : lines s ≠ [] := by
  fun_cases lines s with
  | case1 => exact absurd rfl h
  | case2 r => exact List.cons_ne_nil _ _
  | case3 r => exact List.cons_ne_nil _ _
  | case4 c r _ _ _ => exact List.cons_ne_nil _ _
  | case5 c r _ _ l ls _ => exact List.cons_ne_nil _ _

/-- The lines up to a line feed are the pieces before it, each without one carriage return at its end,
and those behind it are the lines of what is left. -/
theorem lines_newline_append (s t) :
    lines (s ++ '\n' :: t) = (splitAt '\n' s).map dropReturn ++ lines t := by
  induction s using lines.induct with
  | case1 => exact lines_newline t
  | case2 r ih =>
    rw [splitAt_sep, List.cons_append, lines_newline, ih, List.map_cons]
    rfl
  | case3 r ih =>
    have piece : splitAt '\n' ('\r' :: '\n' :: r) = ['\r'] :: splitAt '\n' r :=
      splitAt_cons (by decide) (splitAt_sep '\n' r)
    rw [piece, List.cons_append, List.cons_append, lines_return_newline, ih, List.map_cons]
    rfl
  | case4 c r hn hr e ih =>
    have er : r = [] := by
      by_contra h
      exact lines_ne_nil h e
    subst er
    rw [splitAt_cons hn rfl, List.singleton_append]
    by_cases hc : c = '\r'
    · subst hc
      exact lines_return_newline t
    · rw [lines_cons hn (fun h => absurd h hc), lines_newline, List.map_cons,
        dropReturn_cons (fun h => absurd h hc)]
      rfl
  | case5 c r hn hr l ls e ih =>
    have hne : r ≠ [] := by
      intro h
      rw [h] at e
      cases e
    -- a return in front of the seam is not at the end of its line, since `r` comes between
    have seam : c = '\r' → ∀ q, r ++ '\n' :: t ≠ '\n' :: q := by
      intro hc q h
      cases r with
      | nil => exact hne rfl
      | cons d r' =>
        rw [List.cons_append] at h
        exact hr r' hc (by rw [(List.cons.inj h).1])
    cases e' : splitAt '\n' r with
    | nil => exact absurd e' (splitAt_ne_nil '\n' r)
    | cons p ps =>
      have long : c = '\r' → p ≠ [] := by
        rintro hc rfl
        rcases splitAt_nil_cons e' with h | ⟨q, h⟩
        · exact hne h
        · exact hr q hc h
      rw [List.cons_append, lines_cons hn seam, ih, e', splitAt_cons hn e', List.map_cons,
        List.map_cons, dropReturn_cons long]
      rfl

/-- A closed text contributes its own lines, whatever follows. -/
lemma lines_append (h : IsClosed s) (t) : lines (s ++ t) = lines s ++ lines t := by
  rcases h with rfl | h
  · rfl
  · obtain ⟨q, rfl⟩ := List.getLast?_eq_some_iff.1 h
    rw [List.append_assoc, List.singleton_append, lines_newline_append, lines_newline_append]
    simp only [lines, List.append_nil]

end Lines

end Transcript.Text
