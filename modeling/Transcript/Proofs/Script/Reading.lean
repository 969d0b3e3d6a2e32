import Mathlib.Tactic.Common
import Transcript.Proofs.Script.Inversion
import Transcript.Script.Reader

/-!
# Reading a part of a script

What a call of the reader does not depend on. Lines that stand before the reader only shift the numbers
that it reports (`Reader.next_after`), and lines that stand behind the instruction it reads stay where
they are (`Reader.next_append`). Every call accounts for the lines it takes (`Reader.next_takes`), and a
malformed line is reported with the number of the last of them (`Reader.next_malformed`).
-/

namespace Transcript

/-- A fault of a script that stands behind `k` lines. -/
def Fault.after (k : Nat) : Fault → Fault
  | .malformed line => .malformed (line + k)
  | f => f

/-- A fault without a line number is the same behind any lines. -/
lemma Fault.after_of_ne {k f} (h : ∀ line, f ≠ Fault.malformed line) : f.after k = f := by
  cases f with
  | malformed line => exact absurd rfl (h line)
  | _ => rfl

namespace Script

open Text (trimEnd)

/-- A reader that has `k` more lines behind it. -/
def Reader.after (k : Nat) (r : Reader) : Reader :=
  { r with line := r.line + k }

/-- A reader with more lines in front of it. -/
def Reader.append (r : Reader) (ls : List (List Char)) : Reader :=
  { r with rest := r.rest ++ ls }

/-- What is read behind `k` lines. -/
def Reading.after {σ α : Type} (k : Nat) (reading : Reading σ α) : Reading σ α :=
  ⟨reading.result.mapError (Fault.after k), reading.reader.after k, reading.state⟩

/-- What is read with more lines in front of the reader. -/
def Reading.append {σ α : Type} (reading : Reading σ α) (ls : List (List Char)) : Reading σ α :=
  ⟨reading.result, reading.reader.append ls, reading.state⟩

/-- No fault of the expansion carries the number of a line. -/
def Expander.Unnumbered {σ : Type} (expand : Expander σ) : Prop :=
  ∀ raw state line, (expand raw state).1 ≠ .error (.malformed line)

/-- A fault of such an expansion is the same behind any lines. -/
lemma Expander.Unnumbered.after {σ : Type} {expand : Expander σ} (h : expand.Unnumbered)
    {raw state f next} (e : expand raw state = (.error f, next)) (k) : f.after k = f := by
  apply Fault.after_of_ne
  intro line ef
  apply h raw state line
  rw [e, ef]

section Forms

/-- A word makes the same limit at any line. -/
lemma timeLimit_after (k w) : (timeLimit w).mapError (Fault.after k) = timeLimit w := by
  unfold timeLimit
  split
  · split <;> rfl
  · rfl

/-- An instruction that is lacking is reported at the line's own number. -/
lemma wholeOr_after (line k i) :
    wholeOr (line + k) i = (wholeOr line i).mapError (Fault.after k) := by
  cases i <;> rfl

/-- The form of a line depends on its number in the report of a malformed line only. -/
lemma readForm_after (line k s) :
    readForm (line + k) s = (readForm line s).mapError (Fault.after k) := by
  unfold readForm
  split
  · rfl
  · split
    · split
      · exact (timeLimit_after k _).symm
      · rfl
    · exact wholeOr_after line k _
    · exact wholeOr_after line k _
    · rfl
    · exact wholeOr_after line k _
    · exact wholeOr_after line k _
    · exact wholeOr_after line k _
    · exact wholeOr_after line k _
    · rfl

end Forms

section Blocks

variable {σ : Type} {expand : Expander σ} {command : List Char} {expected : List (List Char)}
variable {state next : σ} {line : Nat} {raw : List Char} {rest : List (List Char)}

/-- A block ends at its terminator. -/
lemma readBlock_terminator {mode} (m : terminator? (trimEnd raw) = some mode) :
    readBlock expand command expected state line (raw :: rest) =
      ⟨.ok (.runAndCheck command expected.reverse mode), ⟨rest, line + 1⟩, state⟩ := by
  simp only [readBlock, m]

/-- Any other line is expanded and belongs to the block. -/
lemma readBlock_line {s} (m : terminator? (trimEnd raw) = none)
    (e : expand (trimEnd raw) state = (.ok s, next)) :
    readBlock expand command expected state line (raw :: rest) =
      readBlock expand command (s :: expected) next (line + 1) rest := by
  simp only [readBlock, m, e]

/-- A line that cannot be expanded ends the reading of a block. -/
lemma readBlock_fault {f} (m : terminator? (trimEnd raw) = none)
    (e : expand (trimEnd raw) state = (.error f, next)) :
    readBlock expand command expected state line (raw :: rest) =
      ⟨.error f, ⟨rest, line + 1⟩, next⟩ := by
  simp only [readBlock, m, e]

/-- A block takes lines from the front, and counts them. -/
lemma readBlock_takes (expected state line ls) :
    ∃ taken, ls = taken ++ (readBlock expand command expected state line ls).reader.rest ∧
      (readBlock expand command expected state line ls).reader.line = line + taken.length := by
  induction ls generalizing expected state line with
  | nil => exact ⟨[], rfl, rfl⟩
  | cons raw rest ih =>
    cases m : terminator? (trimEnd raw) with
    | some mode =>
      rw [readBlock_terminator m]
      exact ⟨[raw], rfl, rfl⟩
    | none =>
      rcases e : expand (trimEnd raw) state with ⟨f | s, next⟩
      · rw [readBlock_fault m e]
        exact ⟨[raw], rfl, rfl⟩
      · rw [readBlock_line m e]
        obtain ⟨taken, split, count⟩ := ih (s :: expected) next (line + 1)
        refine ⟨raw :: taken, ?_, ?_⟩
        · rw [List.cons_append, ← split]
        · rw [count, List.length_cons]
          omega

/-- The fault of a block carries no line number. -/
lemma readBlock_unnumbered (h : expand.Unnumbered) (expected state line ls n) :
    (readBlock expand command expected state line ls).result ≠ .error (.malformed n) := by
  induction ls generalizing expected state line with
  | nil => exact nofun
  | cons raw rest ih =>
    cases m : terminator? (trimEnd raw) with
    | some mode =>
      rw [readBlock_terminator m]
      exact nofun
    | none =>
      rcases e : expand (trimEnd raw) state with ⟨f | s, next⟩
      · rw [readBlock_fault m e]
        intro same
        apply h (trimEnd raw) state n
        rw [e, Except.error.inj same]
      · rw [readBlock_line m e]
        exact ih _ _ _

/-- Lines before a block shift what it reports. -/
lemma readBlock_after (h : expand.Unnumbered) (k expected state line ls) :
    readBlock expand command expected state (line + k) ls =
      (readBlock expand command expected state line ls).after k := by
  induction ls generalizing expected state line with
  | nil => rfl
  | cons raw rest ih =>
    have comm : line + k + 1 = line + 1 + k := by omega
    cases m : terminator? (trimEnd raw) with
    | some mode =>
      rw [readBlock_terminator m, readBlock_terminator m, comm]
      rfl
    | none =>
      rcases e : expand (trimEnd raw) state with ⟨f | s, next⟩
      · rw [readBlock_fault m e, readBlock_fault m e, comm]
        simp only [Reading.after, Reader.after, Except.mapError, h.after e k]
      · rw [readBlock_line m e, readBlock_line m e, comm]
        exact ih _ _ _

/-- Lines behind a block that is read to its end stay where they are. -/
lemma readBlock_append {expected state line ls}
    (h : (readBlock expand command expected state line ls).result ≠ .error (.unterminated command))
    (more) :
    readBlock expand command expected state line (ls ++ more) =
      (readBlock expand command expected state line ls).append more := by
  induction ls generalizing expected state line with
  | nil => exact absurd rfl h
  | cons raw rest ih =>
    rw [List.cons_append]
    cases m : terminator? (trimEnd raw) with
    | some mode =>
      rw [readBlock_terminator m, readBlock_terminator m]
      rfl
    | none =>
      rcases e : expand (trimEnd raw) state with ⟨f | s, next⟩
      · rw [readBlock_fault m e, readBlock_fault m e]
        rfl
      · rw [readBlock_line m e] at h ⊢
        rw [readBlock_line m e]
        exact ih h

end Blocks

section Instructions

variable {σ : Type} {expand : Expander σ} {state next : σ} {line : Nat}
variable {raw s : List Char} {rest : List (List Char)}

/-- A comment is passed over as it stands. -/
lemma Reader.next_comment (c : isComment raw = true) :
    Reader.next ⟨raw :: rest, line⟩ expand state = ⟨.ok (some .comment), ⟨rest, line + 1⟩, state⟩ := by
  simp only [Reader.next, c, if_true]

/-- A line that cannot be expanded is read alone. -/
lemma Reader.next_fault {f} (c : isComment raw = false) (e : expand raw state = (.error f, next)) :
    Reader.next ⟨raw :: rest, line⟩ expand state = ⟨.error f, ⟨rest, line + 1⟩, next⟩ := by
  simp only [Reader.next, c, e, Bool.false_eq_true, if_false]

/-- A line without a form is read alone. -/
lemma Reader.next_noForm {f} (c : isComment raw = false) (e : expand raw state = (.ok s, next))
    (o : readForm (line + 1) s = .error f) :
    Reader.next ⟨raw :: rest, line⟩ expand state = ⟨.error f, ⟨rest, line + 1⟩, next⟩ := by
  simp only [Reader.next, c, e, o, Bool.false_eq_true, if_false]

/-- A line that is a whole instruction is read alone. -/
lemma Reader.next_whole {i} (c : isComment raw = false) (e : expand raw state = (.ok s, next))
    (o : readForm (line + 1) s = .ok (.whole i)) :
    Reader.next ⟨raw :: rest, line⟩ expand state = ⟨.ok (some i), ⟨rest, line + 1⟩, next⟩ := by
  simp only [Reader.next, c, e, o, Bool.false_eq_true, if_false]

/-- A command is read with the block behind it. -/
lemma Reader.next_command {text} (c : isComment raw = false) (e : expand raw state = (.ok s, next))
    (o : readForm (line + 1) s = .ok (.command text)) :
    Reader.next ⟨raw :: rest, line⟩ expand state =
      let block := readBlock expand text [] next (line + 1) rest
      ⟨block.result.map some, block.reader, block.state⟩ := by
  simp only [Reader.next, c, e, o, Bool.false_eq_true, if_false]

/-- A call takes lines from the front, at least one as long as there is one, and counts them. -/
lemma Reader.next_takes (expand : Expander σ) (raw rest line) (state : σ) :
    ∃ taken, rest = taken ++ (Reader.next ⟨raw :: rest, line⟩ expand state).reader.rest ∧
      (Reader.next ⟨raw :: rest, line⟩ expand state).reader.line = line + 1 + taken.length := by
  cases c : isComment raw with
  | true =>
    rw [Reader.next_comment c]
    exact ⟨[], rfl, rfl⟩
  | false =>
    rcases e : expand raw state with ⟨f | s, next⟩
    · rw [Reader.next_fault c e]
      exact ⟨[], rfl, rfl⟩
    · rcases o : readForm (line + 1) s with f | i | text
      · rw [Reader.next_noForm c e o]
        exact ⟨[], rfl, rfl⟩
      · rw [Reader.next_whole c e o]
        exact ⟨[], rfl, rfl⟩
      · rw [Reader.next_command c e o]
        exact readBlock_takes _ _ _ _

/-- Where something is read, lines are taken from the front and counted. -/
lemma Reader.next_taken {r : Reader} {state : σ} (e : (r.next expand state).result ≠ .ok none) :
    ∃ taken, taken ≠ [] ∧ r.rest = taken ++ (r.next expand state).reader.rest ∧
      (r.next expand state).reader.line = r.line + taken.length := by
  obtain ⟨_ | ⟨raw, rest⟩, line⟩ := r
  · exact absurd rfl e
  · obtain ⟨taken, split, count⟩ := Reader.next_takes expand raw rest line state
    refine ⟨raw :: taken, List.cons_ne_nil _ _, ?_, ?_⟩
    · rw [List.cons_append, ← split]
    · rw [count, List.length_cons, Nat.add_assoc, Nat.add_comm 1]

/-- A malformed line is reported with the number of the last line that was read. -/
theorem Reader.next_malformed (h : expand.Unnumbered) {r : Reader} {state : σ} {n}
    (malformed : (r.next expand state).result = .error (.malformed n)) :
    n = (r.next expand state).reader.line := by
  obtain ⟨_ | ⟨raw, rest⟩, line⟩ := r
  · cases malformed
  · cases c : isComment raw with
    | true =>
      rw [Reader.next_comment c] at malformed
      cases malformed
    | false =>
      rcases e : expand raw state with ⟨f | s, next⟩
      · rw [Reader.next_fault c e] at malformed
        apply absurd _ (h raw state n)
        rw [e, Except.error.inj malformed]
      · rcases o : readForm (line + 1) s with f | i | text
        · rw [Reader.next_noForm c e o] at malformed ⊢
          cases malformed
          rcases readForm_error o with same | ⟨w, other⟩
          · exact Fault.malformed.inj same
          · cases other
        · rw [Reader.next_whole c e o] at malformed
          cases malformed
        · rw [Reader.next_command c e o] at malformed
          simp only at malformed
          cases b : (readBlock expand text [] next (line + 1) rest).result with
          | error f =>
            rw [b] at malformed
            cases malformed
            exact absurd b (readBlock_unnumbered h _ _ _ _ n)
          | ok i =>
            rw [b] at malformed
            cases malformed

/-- A call leaves fewer lines than there were. -/
lemma Reader.next_shorter (raw rest line) (state : σ) :
    (Reader.next ⟨raw :: rest, line⟩ expand state).reader.rest.length < (raw :: rest).length := by
  obtain ⟨taken, split, _⟩ := Reader.next_takes expand raw rest line state
  have length := congrArg List.length split
  rw [List.length_append] at length
  rw [List.length_cons]
  omega

/-- Where an instruction is read, a line is taken. -/
lemma Reader.next_some_shorter {r : Reader} {state : σ} {i}
    (e : (r.next expand state).result = .ok (some i)) :
    (r.next expand state).reader.rest.length < r.rest.length := by
  obtain ⟨_ | ⟨raw, rest⟩, line⟩ := r
  · cases e
  · exact Reader.next_shorter raw rest line state

/-- Where there is a line, an instruction or a fault is read. -/
lemma Reader.next_ne_end (raw rest line) (state : σ) :
    (Reader.next ⟨raw :: rest, line⟩ expand state).result ≠ .ok none := by
  cases c : isComment raw with
  | true =>
    rw [Reader.next_comment c]
    exact nofun
  | false =>
    rcases e : expand raw state with ⟨f | s, next⟩
    · rw [Reader.next_fault c e]
      exact nofun
    · rcases o : readForm (line + 1) s with f | i | text
      · rw [Reader.next_noForm c e o]
        exact nofun
      · rw [Reader.next_whole c e o]
        exact nofun
      · rw [Reader.next_command c e o]
        simp only
        cases (readBlock expand text [] next (line + 1) rest).result <;> exact nofun

/-- Lines before the reader shift what it reports. -/
lemma Reader.next_after (h : expand.Unnumbered) (k) (r : Reader) (state : σ) :
    (r.after k).next expand state = (r.next expand state).after k := by
  obtain ⟨_ | ⟨raw, rest⟩, line⟩ := r
  · rfl
  · have comm : line + k + 1 = line + 1 + k := by omega
    rw [Reader.after]
    cases c : isComment raw with
    | true =>
      rw [Reader.next_comment c, Reader.next_comment c, comm]
      rfl
    | false =>
      rcases e : expand raw state with ⟨f | s, next⟩
      · rw [Reader.next_fault c e, Reader.next_fault c e, comm]
        simp only [Reading.after, Reader.after, Except.mapError, h.after e k]
      · have form := readForm_after (line + 1) k s
        rw [← comm] at form
        rcases o : readForm (line + 1) s with f | i | text
        · rw [o] at form
          rw [Reader.next_noForm c e form, Reader.next_noForm c e o, comm]
          rfl
        · rw [o] at form
          rw [Reader.next_whole c e form, Reader.next_whole c e o, comm]
          rfl
        · rw [o] at form
          rw [Reader.next_command c e form, Reader.next_command c e o, comm, readBlock_after h]
          simp only [Reading.after]
          congr 1
          cases (readBlock expand text [] next (line + 1) rest).result <;> rfl

/-- Lines behind an instruction that is read to its end stay where they are. -/
lemma Reader.next_append {raw rest line} {state : σ}
    (h : ∀ command, (Reader.next ⟨raw :: rest, line⟩ expand state).result ≠
      .error (.unterminated command)) (more) :
    Reader.next ⟨raw :: rest ++ more, line⟩ expand state =
      (Reader.next ⟨raw :: rest, line⟩ expand state).append more := by
  rw [List.cons_append]
  cases c : isComment raw with
  | true =>
    rw [Reader.next_comment c, Reader.next_comment c]
    rfl
  | false =>
    rcases e : expand raw state with ⟨f | s, next⟩
    · rw [Reader.next_fault c e, Reader.next_fault c e]
      rfl
    · rcases o : readForm (line + 1) s with f | i | text
      · rw [Reader.next_noForm c e o, Reader.next_noForm c e o]
        rfl
      · rw [Reader.next_whole c e o, Reader.next_whole c e o]
        rfl
      · rw [Reader.next_command c e o] at h
        rw [Reader.next_command c e o, Reader.next_command c e o, readBlock_append]
        · rfl
        -- only a block that is not ended would read on
        · intro unended
          apply h text
          simp only [unended, Except.map]

end Instructions

end Script

end Transcript
