import Mathlib.Data.List.DropRight
import Mathlib.Tactic.Common
import Transcript.Proofs.Expectation.Comparison
import Transcript.Proofs.Text.Lines

/-!
# Significant lines

The significant lines of an output, trimmed, are the trimmed pieces between its line feeds without the
empty ones at the end (`map_trim_significant_outputLines`): neither the line feeds and carriage returns
that are taken off an output first nor the carriage returns of its lines make a difference.
-/

namespace Transcript.Expectation

open Text (trim trimEnd isAllBlank splitAt)

/-- Trimmed lines without the empty ones at their end. -/
def trimmed (ls : List (List Char)) : List (List Char) :=
  (ls.map trim).rdropWhile List.isEmpty

/-- A last line is significant unless it is blank. -/
lemma significant_concat (ls l) :
    significant (ls ++ [l]) = if isAllBlank l then significant ls else ls ++ [l] := by
  induction ls with
  | nil => rfl
  | cons m ls ih =>
    rw [List.cons_append, significant, ih]
    by_cases h : isAllBlank l = true
    · rw [if_pos h, if_pos h]
      rfl
    · rw [if_neg h, if_neg h]
      cases e : ls ++ [l] with
      | nil => exact absurd e (by simp)
      | cons x xs => rfl

/-- A blank line at the end is not there after trimming. -/
lemma trimmed_concat_blank {l} (h : trim l = []) (ls) : trimmed (ls ++ [l]) = trimmed ls := by
  rw [trimmed, List.map_append, List.map_singleton, h, List.rdropWhile_concat_pos _ _ _ rfl]
  rfl

/-- What is significant is what is left after trimming. -/
lemma map_trim_significant (ls) : (significant ls).map trim = trimmed ls := by
  induction ls using List.reverseRecOn with
  | nil => rfl
  | append_singleton ls l ih =>
    rw [significant_concat]
    by_cases h : isAllBlank l = true
    · rw [if_pos h, ih, trimmed_concat_blank (Text.isAllBlank_iff.1 h)]
    · rw [if_neg h, trimmed, List.map_append, List.map_singleton, List.rdropWhile_concat_neg]
      intro e
      exact h (Text.isAllBlank_iff.2 (List.isEmpty_iff.1 e))

/-- Lines that are the same after trimming are the same. -/
lemma trimmed_map {f : List Char → List Char} (h : ∀ l, trim (f l) = trim l) (ls) :
    trimmed (ls.map f) = trimmed ls := by
  rw [trimmed, List.map_map]
  have same : trim ∘ f = trim := funext h
  rw [same]
  rfl

/-- A blank character at the end of a text does not matter, a line feed included. -/
lemma trimmed_splitAt_concat {c} (h : Text.isBlank c = true) (s) :
    trimmed (splitAt '\n' (s ++ [c])) = trimmed (splitAt '\n' s) := by
  by_cases hn : c = '\n'
  · rw [hn, Text.splitAt_concat_sep, trimmed_concat_blank rfl]
  · obtain ⟨ps, p, before, behind⟩ := Text.splitAt_concat_ne hn s
    have same : trim (p ++ [c]) = trim p := Text.trim_concat h p
    rw [before, behind, trimmed, trimmed, List.map_append, List.map_append, List.map_singleton,
      List.map_singleton, same]

/-- Line feeds and carriage returns at the end of a text do not matter. -/
lemma trimmed_splitAt_trimEndWhile (s) :
    trimmed (splitAt '\n' (Text.trimEndWhile (fun c => c == '\n' || c == '\r') s)) =
      trimmed (splitAt '\n' s) := by
  induction s using List.reverseRecOn with
  | nil => rfl
  | append_singleton s c ih =>
    rw [Text.trimEndWhile_concat]
    by_cases h : (c == '\n' || c == '\r') = true
    · have blank : Text.isBlank c = true := by
        rcases Bool.or_eq_true_iff.1 h with hc | hc <;> rw [beq_iff_eq.1 hc] <;> rfl
      rw [if_pos h, ih, trimmed_splitAt_concat blank]
    · rw [if_neg h]

/-- The significant lines of an output are the trimmed pieces between its line feeds. -/
theorem map_trim_significant_outputLines (output) :
    (significant (outputLines output)).map trim = trimmed (splitAt '\n' output) := by
  rw [map_trim_significant, outputLines, trimmed_map Text.trim_dropReturn,
    trimmed_splitAt_trimEndWhile]

/-- The lines of an output that are compared have no line feeds. -/
lemma newline_not_mem {expected output pair} (h : pair ∈ comparedLines expected output) :
    '\n' ∉ pair.2 := by
  obtain ⟨-, line⟩ := List.of_mem_zip h
  rw [map_trim_significant_outputLines] at line
  have there := (List.rdropWhile_prefix _ _).subset line
  obtain ⟨l, hl, e⟩ := List.mem_map.1 there
  rw [← e]
  exact fun newline => Text.not_mem_of_mem_splitAt hl (Text.trim_subset l newline)

end Transcript.Expectation
