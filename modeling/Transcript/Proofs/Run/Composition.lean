import Mathlib.Tactic.Common
import Transcript.Proofs.Run.Effect
import Transcript.Proofs.Run.Resume
import Transcript.Proofs.Text.Lines

/-!
# Scripts one after the other

A script that ends with a whole line can be carried out in two parts. Where the first part halts, the
second does not matter; where it passes, the second goes on from the session that it leaves, and what
it reports is shifted by the lines of the first (`Scene.execute_append`).
-/

namespace Transcript

open Script (Reader)

/-- The verdict of a script that stands behind `k` lines. -/
def Verdict.after (k : Nat) : Verdict → Verdict
  | .passed => .passed
  | .failed line failure => .failed (line + k) failure
  | .faulty line fault => .faulty (line + k) (fault.after k)

namespace Scene

variable {scene : Scene} {r : Reader} {s s' : Session} {i : Instruction} {halt : Halt}

/-- What comes of two parts: the second is carried out when the first has passed. -/
def andThen (out : Verdict × Session) (next : Session → Verdict × Session) : Verdict × Session :=
  match out with
  | (.passed, s) => next s
  | out => out

/-- No instruction halts a script with a fault that carries a line number. -/
lemma apply_numbered (a : scene.apply s i = (some halt, s')) (line) :
    halt ≠ .fault (.malformed line) := by
  intro same
  rw [same] at a
  generalize e : Fault.malformed line = f at a
  cases apply_obstacle a with
  | copyFile dest src => cases e
  | runAndCheck command expected mode mishap => cases mishap <;> cases e
  | checkContent name reference => cases e
  | define unresolved =>
    rw [← e] at unresolved
    cases Variables.substitute_error unresolved

/-- An instruction halts a script behind `k` lines by the verdict of those lines. -/
lemma apply_verdict_after (a : scene.apply s i = (some halt, s')) (line k) :
    halt.verdict (line + k) = (halt.verdict line).after k := by
  cases halt with
  | failure f => rfl
  | fault f =>
    have same : f.after k = f := by
      apply Fault.after_of_ne
      intro n e
      exact apply_numbered a n (e ▸ rfl)
    simp only [Halt.verdict, Verdict.after, same]

/-- Lines before a run shift what it reports. -/
theorem resume_after (scene : Scene) (k r s) :
    scene.resume (r.after k) s = ((scene.resume r s).1.after k, (scene.resume r s).2) := by
  induction r, s using run_induction scene with
  | step r s ih =>
    have shift : s.read (r.after k) = (s.read r).after k :=
      Reader.next_after s.expander_unnumbered k r ()
    cases e : (s.read r).result with
    | error f =>
      have e' : (s.read (r.after k)).result = .error (f.after k) := by
        rw [shift, Script.Reading.after, e]
        rfl
      rw [resume_fault e', resume_fault e, shift]
      rfl
    | ok read =>
      have e' : (s.read (r.after k)).result = .ok read := by
        rw [shift, Script.Reading.after, e]
        rfl
      cases read with
      | none =>
        rw [resume_end e', resume_end e]
        rfl
      | some i =>
        rcases a : scene.apply s i with ⟨_ | halt, s'⟩
        · rw [resume_goOn e' a, resume_goOn e a, shift]
          exact ih i s' e a
        · rw [resume_halt e' a, resume_halt e a, shift, ← apply_verdict_after a]
          rfl

/-- A run goes on behind the lines of its first part. -/
theorem resume_append (scene : Scene) (more r s)
    (ended : ∀ line command, (scene.resume r s).1 ≠ .faulty line (.unterminated command)) :
    scene.resume (r.append more) s =
      andThen (scene.resume r s) (scene.resume ⟨more, r.line + r.rest.length⟩) := by
  induction r, s using run_induction scene with
  | step r s ih =>
    obtain ⟨_ | ⟨raw, rest⟩, line⟩ := r
    -- where the first part is read to its end, the second one begins at the next line
    · rfl
    · have count : (s.read ⟨raw :: rest, line⟩).reader.line +
          (s.read ⟨raw :: rest, line⟩).reader.rest.length = line + (raw :: rest).length := by
        obtain ⟨taken, split, count⟩ := Reader.next_takes s.expander raw rest line ()
        have length := congrArg List.length split
        rw [List.length_append] at length
        rw [List.length_cons, Session.read, count]
        omega
      have frame (h : ∀ command, (s.read ⟨raw :: rest, line⟩).result ≠
          .error (.unterminated command)) :
          s.read (Reader.append ⟨raw :: rest, line⟩ more) =
            (s.read ⟨raw :: rest, line⟩).append more := Reader.next_append h more
      cases e : (s.read ⟨raw :: rest, line⟩).result with
      | error f =>
        -- a block that is cut off here would go on in the second part
        have apart : ∀ command, f ≠ .unterminated command := by
          rintro command rfl
          apply ended _ command
          rw [resume_fault e]
        have same := frame (by
          intro command h
          rw [e] at h
          exact apart command (Except.error.inj h))
        rw [resume_fault e, resume_fault (f := f) (by rw [same]; exact e), same]
        rfl
      | ok read =>
        have same := frame (by
          intro command h
          rw [e] at h
          cases h)
        cases read with
        | none => exact absurd (s.read_none e) (List.cons_ne_nil raw rest)
        | some i =>
          have e' : (s.read (Reader.append ⟨raw :: rest, line⟩ more)).result = .ok (some i) := by
            rw [same]
            exact e
          rcases a : scene.apply s i with ⟨_ | halt, s'⟩
          · rw [resume_goOn e a] at ended ⊢
            rw [resume_goOn e' a, same, ← count]
            exact ih i s' e a ended
          · rw [resume_halt e a, resume_halt e' a, same]
            cases halt <;> rfl

/-- A script is carried out part by part: a first part that halts decides, unless a block of it is
cut off, and behind one that passes the second part goes on. -/
theorem execute_append (scene : Scene) {first} (closed : Text.IsClosed first) (second s) :
    ((scene.execute first s).1 ≠ .passed →
      (∀ line command, (scene.execute first s).1 ≠ .faulty line (.unterminated command)) →
      scene.execute (first ++ second) s = scene.execute first s) ∧
    (∀ s', scene.execute first s = (.passed, s') →
      scene.execute (first ++ second) s =
        ((scene.execute second s').1.after (Text.lines first).length,
          (scene.execute second s').2)) := by
  have whole : Reader.ofText (first ++ second) =
      (Reader.ofText first).append (Text.lines second) := by
    rw [Reader.ofText, Text.lines_append closed]
    rfl
  have parts := resume_append scene (Text.lines second) (.ofText first) s
  rw [← whole, ← execute_eq_resume, ← execute_eq_resume] at parts
  constructor
  · intro halted ended
    rw [parts ended]
    rcases out : scene.execute first s with ⟨_ | _ | _, s'⟩
    · exact absurd (congrArg Prod.fst out) halted
    · rfl
    · rfl
  · intro s' out
    rw [out] at parts
    rw [parts nofun]
    have behind := resume_after scene (Text.lines first).length (.ofText second) s'
    rw [← execute_eq_resume] at behind
    rw [← behind, andThen, Reader.after, Reader.ofText, Reader.ofText, Nat.add_comm]

/-- A line that is no instruction, behind a block that passes and behind a check that fails. -/
theorem execute_append_malformed :
    echo.execute ("> a\na\n<<<\n".toList ++ "x\n".toList) blank = (.faulty 4 (.malformed 4), blank) ∧
    echo.execute ("E f\n".toList ++ "x\n".toList) blank = (.failed 1 (.fileMissing ['f']), blank) := by
  constructor
  · rw [(execute_append echo (.inr (by decide)) _ _).2 blank (by decide)]
    decide
  · have first : echo.execute "E f\n".toList blank = (.failed 1 (.fileMissing ['f']), blank) := by
      decide
    rw [(execute_append echo (.inr (by decide)) _ _).1 (by rw [first]; nofun) (by rw [first]; nofun)]
    exact first

end Scene

end Transcript
