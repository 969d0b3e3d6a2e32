import Mathlib.Data.List.TakeDrop
import Mathlib.Tactic.Common
import Transcript.Script.Instruction

/-!
# Forms by their letters

What the form of a line says about the line: one rule for each letter (`readForm_ok`). A line without a
form is reported in two ways only (`readForm_error`). What a definition says about its line is spelled out
further (`definition?_some`).
-/

namespace Transcript.Script

open Text (isAllBlank trimStart)

/-- The lines of the forms. -/
inductive HasForm : List Char → Form → Prop where
  | comment {s} :
    isAllBlank s = true →
    HasForm s (.whole .comment)
  | setTimeout {r w secs} :
    word? r = some w → Number.readNumber? w = some secs → secs.isTime = true →
    HasForm ('T' :: r) (.whole (.setTimeout secs))
  | copyFile {r dest src} :
    twoWords? r = some (dest, src) →
    HasForm ('+' :: r) (.whole (.copyFile dest src))
  | deleteFile {r name} :
    word? r = some name →
    HasForm ('-' :: r) (.whole (.deleteFile name))
  | command (r) :
    HasForm ('>' :: r) (.command (commandText r))
  | checkContent {r name reference} :
    twoWords? r = some (name, reference) →
    HasForm ('=' :: r) (.whole (.checkContent name reference))
  | checkAbsent {r name} :
    word? r = some name →
    HasForm ('*' :: r) (.whole (.checkAbsent name))
  | checkExists {r name} :
    word? r = some name →
    HasForm ('E' :: r) (.whole (.checkExists name))
  | define {r name value} :
    definition? r = some (name, value) →
    HasForm ('D' :: r) (.whole (.define name value))

variable {s : List Char} {line : Nat} {form : Form}

/-- A time limit comes from a number that is a time. -/
lemma timeLimit_ok {w} (h : timeLimit w = .ok form) :
    ∃ secs, Number.readNumber? w = some secs ∧ secs.isTime = true ∧ form = .whole (.setTimeout secs) := by
  unfold timeLimit at h
  split at h
  · rename_i secs number
    split at h
    · rename_i time
      cases h
      exact ⟨secs, number, time, rfl⟩
    · cases h
  · cases h

/-- An instruction that is made of words comes from some words. -/
lemma wholeOr_map_ok {α : Type} {words : Option α} {make} (h : wholeOr line (words.map make) = .ok form) :
    ∃ w, words = some w ∧ form = .whole (make w) := by
  cases words with
  | none => cases h
  | some w =>
    cases h
    exact ⟨w, rfl, rfl⟩

/-- A form is read from a line that has it. -/
theorem readForm_ok (h : readForm line s = .ok form) : HasForm s form := by
  unfold readForm at h
  split at h
  · rename_i blank
    cases h
    exact .comment blank
  · split at h
    · split at h
      · rename_i w word
        obtain ⟨secs, number, time, rfl⟩ := timeLimit_ok h
        exact .setTimeout word number time
      · cases h
    · obtain ⟨w, words, rfl⟩ := wholeOr_map_ok h
      exact .copyFile words
    · obtain ⟨w, word, rfl⟩ := wholeOr_map_ok h
      exact .deleteFile word
    · cases h
      exact .command _
    · obtain ⟨w, words, rfl⟩ := wholeOr_map_ok h
      exact .checkContent words
    · obtain ⟨w, word, rfl⟩ := wholeOr_map_ok h
      exact .checkAbsent word
    · obtain ⟨w, word, rfl⟩ := wholeOr_map_ok h
      exact .checkExists word
    · obtain ⟨d, definition, rfl⟩ := wholeOr_map_ok h
      exact .define definition
    · cases h

/-- A line without a form is malformed at its own number, or its time limit is bad. -/
theorem readForm_error {f} (h : readForm line s = .error f) :
    f = .malformed line ∨ ∃ w, f = .badTimeout w := by
  have lacking {o : Option Instruction} (h : wholeOr line o = .error f) : f = .malformed line := by
    cases o with
    | none =>
      cases h
      rfl
    | some i => cases h
  unfold readForm at h
  split at h
  · cases h
  · split at h
    case h_1 =>
      split at h
      · rename_i w _
        refine .inr ⟨w, ?_⟩
        unfold timeLimit at h
        split at h
        · split at h <;> cases h
          rfl
        · cases h
          rfl
      · cases h
        exact .inl rfl
    case h_4 => cases h
    case h_9 =>
      cases h
      exact .inl rfl
    all_goals exact .inl (lacking h)

/-- A name and a value in quotes stand behind blank characters, with nothing else between and behind
them. -/
theorem definition?_some {name value} (h : definition? s = some (name, value)) :
    ∃ c r quoted, trimStart s = c :: r ∧ isNameStart c = true ∧ name = c :: r.takeWhile isNameChar ∧
      trimStart (r.dropWhile isNameChar) = '"' :: quoted ∧ beforeLastQuote? quoted = some value ∧
      '\n' ∉ value := by
  unfold definition? at h
  split at h
  · cases h
  · rename_i c r start
    split at h
    · rename_i first
      rw [List.span_eq_takeWhile_dropWhile] at h
      simp only at h
      split at h
      · rename_i quoted behind
        split at h
        · rename_i v cut
          split at h
          · cases h
          · rename_i oneLine
            cases h
            exact ⟨c, r, quoted, start, first, rfl, behind, cut, by simpa using oneLine⟩
        · cases h
      · cases h
    · cases h

end Transcript.Script
