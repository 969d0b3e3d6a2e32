import Mathlib.Data.List.TakeDrop
import Mathlib.Tactic.Common
import Transcript.Proofs.Text.Blank
import Transcript.Script.Instruction

/-!
# Forms of written lines

What is read from a line whose words are written with one space in front of each: the words of a line
(`word?_written`, `twoWords?_written`), its name and value (`definition?_written`) or its command
(`readForm_command`).
-/

namespace Transcript.Script

open Text (isBlank isAllBlank trim trimStart trimEnd spanWord)

/-- A text of one word. -/
def IsWord (w : List Char) : Prop :=
  w ≠ [] ∧ ∀ c ∈ w, isBlank c = false

instance (w) : Decidable (IsWord w) :=
  have : Decidable (∀ c ∈ w, isBlank c = false) := List.decidableBAll _ w
  inferInstanceAs (Decidable (w ≠ [] ∧ ∀ c ∈ w, isBlank c = false))

/-- The name of a variable. -/
def IsName : List Char → Prop
  | [] => False
  | c :: r => isNameStart c = true ∧ ∀ d ∈ r, isNameChar d = true

instance : (n : List Char) → Decidable (IsName n)
  | [] => inferInstanceAs (Decidable False)
  | c :: r =>
    have : Decidable (∀ d ∈ r, isNameChar d = true) := List.decidableBAll _ r
    inferInstanceAs (Decidable (isNameStart c = true ∧ ∀ d ∈ r, isNameChar d = true))

section Words

variable {v w r : List Char}

/-- A space in front of a text is passed over. -/
lemma trimStart_space (r) : trimStart (' ' :: r) = trimStart r :=
  List.dropWhile_cons_of_pos (by decide)

/-- A text that begins with a word does not begin with a blank character. -/
lemma IsWord.trimStart_append (h : IsWord w) (r) : trimStart (w ++ r) = w ++ r := by
  obtain ⟨ne, visible⟩ := h
  cases w with
  | nil => exact absurd rfl ne
  | cons c w =>
    have first := visible c List.mem_cons_self
    rw [List.cons_append, trimStart, List.dropWhile_cons_of_neg (by simp [first])]

/-- A word ends where a blank character follows. -/
lemma IsWord.span_append (h : IsWord w) (ended : spanWord r = ([], r)) :
    spanWord (w ++ r) = (w, r) := by
  have visible : ∀ c ∈ w, (!isBlank c) = true := by
    intro c hc
    rw [h.2 c hc]
    rfl
  rw [spanWord, List.span_eq_takeWhile_dropWhile] at ended ⊢
  obtain ⟨taken, left⟩ := Prod.mk.inj ended
  rw [List.takeWhile_append_of_pos visible, List.dropWhile_append_of_pos visible, taken, left,
    List.append_nil]

/-- A word behind a space is the first word. -/
lemma word?_written (h : IsWord w) : word? (' ' :: w) = some w := by
  have start := h.trimStart_append []
  have cut := h.span_append (r := []) rfl
  rw [List.append_nil] at start cut
  rw [word?, trimStart_space, start, cut]
  cases w with
  | nil => exact absurd rfl h.1
  | cons c w => rfl

/-- Two words behind spaces are the first two words. -/
lemma twoWords?_written (hv : IsWord v) (hw : IsWord w) :
    twoWords? (' ' :: (v ++ ' ' :: w)) = some (v, w) := by
  have cut := hv.span_append (r := ' ' :: w) rfl
  have some : v.isEmpty = false := List.isEmpty_eq_false_iff.2 hv.1
  simp only [twoWords?, trimStart_space, hv.trimStart_append, cut, some, word?_written hw]
  rfl

end Words

section Definitions

variable {name value : List Char}

/-- A name begins in the range of the letters. -/
lemma toNat_of_isNameStart {c} (h : isNameStart c = true) : 65 ≤ c.toNat ∧ c.toNat ≤ 122 := by
  delta isNameStart Char.isAlpha Char.isUpper Char.isLower at h
  simp only [Bool.or_eq_true, Bool.and_eq_true, decide_eq_true_eq, beq_iff_eq, ge_iff_le,
    UInt32.le_iff_toNat_le] at h
  rcases h with (⟨lo, hi⟩ | ⟨lo, hi⟩) | rfl
  · exact ⟨lo, hi.trans (by decide)⟩
  · exact ⟨le_trans (by decide) lo, hi⟩
  · decide

/-- A name begins with no blank character. -/
lemma not_blank_of_isNameStart {c} (h : isNameStart c = true) : isBlank c = false := by
  have range := toNat_of_isNameStart h
  simp only [isBlank, Bool.or_eq_false_iff, Bool.and_eq_false_iff, decide_eq_false_iff_not,
    beq_eq_false_iff_ne]
  omega

/-- What stands before a last quote is what was written there. -/
lemma beforeLastQuote?_concat (value) : beforeLastQuote? (value ++ ['"']) = some value := by
  have cut : (value ++ ['"']).reverse.span (· ≠ '"') = ([], '"' :: value.reverse) := by
    rw [List.reverse_append]
    rfl
  simp only [beforeLastQuote?, cut, List.reverse_reverse]
  rfl

/-- A name and a value in quotes are read as they are written, quotes in the value included. -/
lemma definition?_written (hn : IsName name) (hv : '\n' ∉ value) :
    definition? (' ' :: (name ++ ' ' :: '"' :: (value ++ ['"']))) = some (name, value) := by
  cases name with
  | nil => exact hn.elim
  | cons c r =>
    obtain ⟨first, others⟩ := hn
    have start : trimStart (' ' :: (c :: r ++ ' ' :: '"' :: (value ++ ['"']))) =
        c :: (r ++ ' ' :: '"' :: (value ++ ['"'])) := by
      rw [trimStart_space, List.cons_append, trimStart,
        List.dropWhile_cons_of_neg (by simp [not_blank_of_isNameStart first])]
    have cut : (r ++ ' ' :: '"' :: (value ++ ['"'])).span isNameChar =
        (r, ' ' :: '"' :: (value ++ ['"'])) := by
      rw [List.span_eq_takeWhile_dropWhile, List.takeWhile_append_of_pos others,
        List.dropWhile_append_of_pos others, List.takeWhile_cons_of_neg (by decide),
        List.dropWhile_cons_of_neg (by decide), List.append_nil]
    have quoted : trimStart (' ' :: '"' :: (value ++ ['"'])) = '"' :: (value ++ ['"']) := rfl
    have oneLine : value.contains '\n' = false := by simpa using hv
    simp only [definition?, start, first, cut, quoted, beforeLastQuote?_concat, oneLine, if_true,
      Bool.false_eq_true, if_false]

end Definitions

/-- The command of a single line is trimmed at both ends. -/
lemma commandText_eq_trim {r} (oneLine : '\n' ∉ r) : commandText r = trim r := by
  have same : (trimStart r).takeWhile (· ≠ '\n') = trimStart r := by
    rw [List.takeWhile_eq_self_iff]
    intro c hc
    have ne : c ≠ '\n' := by
      rintro rfl
      exact oneLine ((List.dropWhile_suffix _).subset hc)
    simpa using ne
  rw [commandText, same]
  rfl

/-- A line without line feeds after `>` is a command, trimmed. -/
lemma readForm_command {c} (h : '\n' ∉ c) (line) :
    readForm line ('>' :: ' ' :: c) = .ok (.command (trim c)) := by
  have oneLine : '\n' ∉ ' ' :: c := List.not_mem_cons_of_ne_of_not_mem (by decide) h
  have form : readForm line ('>' :: ' ' :: c) = .ok (.command (commandText (' ' :: c))) := rfl
  rw [form, commandText_eq_trim oneLine, trim, trimStart_space]
  rfl

end Transcript.Script
