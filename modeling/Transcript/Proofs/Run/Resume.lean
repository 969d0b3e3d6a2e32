import Mathlib.Tactic.Common
import Transcript.Proofs.Script.Reading
import Transcript.Proofs.Variables.Expansion
import Transcript.Session

/-!
# Runs from the middle of a script

A run that goes on from a reader and a session. It has one equation for each of the four things that
can come of a call of the reader, none of which mentions how many instructions are allowed, and an
induction principle that follows the instructions that are carried out (`Scene.run_induction`).
-/

namespace Transcript

open Script (Reader Reading Expander)

/-- How a session expands the lines of a script. -/
def Session.expander (s : Session) : Expander Unit :=
  .ofFunction s.vars.substitute

/-- What is read next with the variables of a session. -/
def Session.read (s : Session) (r : Reader) : Reading Unit (Option Instruction) :=
  r.next s.expander ()

/-- References lead to no fault with a line number. -/
lemma Session.expander_unnumbered (s : Session) : s.expander.Unnumbered := by
  intro raw state line e
  cases Variables.substitute_error (show s.vars.substitute raw = .error (.malformed line) from e)

/-- Where an instruction is read, a line is taken. -/
lemma Session.read_shorter {s : Session} {r : Reader} {i}
    (e : (s.read r).result = .ok (some i)) : (s.read r).reader.rest.length < r.rest.length :=
  Reader.next_some_shorter e

/-- Where something is read, lines are taken from the front and counted. -/
lemma Session.read_taken {s : Session} {r : Reader} (e : (s.read r).result ≠ .ok none) :
    ∃ taken, taken ≠ [] ∧ r.rest = taken ++ (s.read r).reader.rest ∧
      (s.read r).reader.line = r.line + taken.length :=
  Reader.next_taken e

/-- Nothing can be read only where no line is left. -/
lemma Session.read_none {s : Session} {r : Reader} (e : (s.read r).result = .ok none) :
    r.rest = [] := by
  obtain ⟨_ | ⟨raw, rest⟩, line⟩ := r
  · rfl
  · exact absurd e (Reader.next_ne_end raw rest line ())

namespace Scene

variable {scene : Scene} {r : Reader} {s s' : Session} {i : Instruction}

/-- Goes on with a script from a reader and a session. -/
def resume (scene : Scene) (r : Reader) (s : Session) : Verdict × Session :=
  scene.executeFrom (r.rest.length + 1) r s

/-- More instructions than there are lines are never needed. -/
lemma executeFrom_of_lt {m n} (hm : r.rest.length < m) (hn : r.rest.length < n) :
    scene.executeFrom m r s = scene.executeFrom n r s := by
  induction m generalizing n r s with
  | zero => exact absurd hm (Nat.not_lt_zero _)
  | succ m ih =>
    cases n with
    | zero => exact absurd hn (Nat.not_lt_zero _)
    | succ n =>
      rw [executeFrom, executeFrom]
      cases e : (r.next (Expander.ofFunction s.vars.substitute) ()).result with
      | error f => rfl
      | ok read =>
        cases read with
        | none => rfl
        | some i =>
          have shorter := s.read_shorter e
          rw [Session.read, Session.expander] at shorter
          rcases a : scene.apply s i with ⟨_ | halt, s'⟩
          · simp only [a]
            exact ih (by omega) (by omega)
          · simp only [a]

/-- A script is carried out from its beginning. -/
lemma execute_eq_resume (text) : scene.execute text s = scene.resume (.ofText text) s := rfl

/-- A run ends where nothing can be read. -/
lemma resume_fault {f} (e : (s.read r).result = .error f) :
    scene.resume r s = (.faulty (s.read r).reader.line f, s) := by
  rw [Session.read, Session.expander] at e
  rw [resume, executeFrom]
  simp only [e, Session.read, Session.expander]

/-- A run passes where no instruction is left. -/
lemma resume_end (e : (s.read r).result = .ok none) : scene.resume r s = (.passed, s) := by
  rw [Session.read, Session.expander] at e
  rw [resume, executeFrom]
  simp only [e]

/-- A run ends at the line of an instruction that halts it. -/
lemma resume_halt {halt} (e : (s.read r).result = .ok (some i))
    (a : scene.apply s i = (some halt, s')) :
    scene.resume r s = (halt.verdict (s.read r).reader.line, s') := by
  rw [Session.read, Session.expander] at e
  rw [resume, executeFrom]
  simp only [e, a, Session.read, Session.expander]

/-- A run goes on behind an instruction that does not halt it. -/
lemma resume_goOn (e : (s.read r).result = .ok (some i)) (a : scene.apply s i = (none, s')) :
    scene.resume r s = scene.resume (s.read r).reader s' := by
  have shorter := s.read_shorter e
  rw [resume, resume, executeFrom_of_lt (Nat.lt_succ_self _) shorter]
  rw [Session.read, Session.expander] at e
  rw [executeFrom]
  simp only [e, a, Session.read, Session.expander]

/-- A scene in which nothing is configured and the program under test writes its command line. -/
def echo : Scene where
  config := { subject := {}, references := [], workRoot := [], timeout := .of 5 0, keep := false }
  behaviour inv t := (.ok (.success (inv.line ++ ['\n'])), t)
  here := []
  work := []

/-- A session in which nothing is defined and there are no files. -/
def blank : Session := { timeout := echo.config.timeout, vars := {}, tree := {} }

/-- What holds of a run when it holds of the run behind its first instruction holds of every run. -/
theorem run_induction (scene : Scene) {motive : Reader → Session → Prop}
    (step : ∀ r s, (∀ i s', (s.read r).result = .ok (some i) → scene.apply s i = (none, s') →
      motive (s.read r).reader s') → motive r s)
    (r : Reader) (s : Session) : motive r s := by
  -- every instruction takes a line
  generalize h : r.rest.length = n
  induction n using Nat.strongRecOn generalizing r s with
  | ind n ih =>
    apply step
    intro i s' e _
    exact ih _ (h ▸ s.read_shorter e) _ _ rfl

end Scene

end Transcript
