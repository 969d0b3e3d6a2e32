import Mathlib.Tactic.Common
import Transcript.Session

/-!
# What instructions do

What an instruction that does not halt a script has found, and what it leaves of the session. Every
instruction has one rule, and a rule changes one of the three parts of a session at most, but for the
one of commands, which may change the file tree and the groups (`Scene.apply_effect`). What an instruction
halts a script with has its rules too (`Scene.apply_stop`): the variables stay, and the faults are few
(`Scene.apply_obstacle`).
-/

namespace Transcript.Scene

/-- What becomes of a session by an instruction that does not halt the script. -/
inductive Effect (scene : Scene) (s : Session) : Instruction → Session → Prop where
  | comment :
    Effect scene s .comment s
  | setTimeout (secs) :
    Effect scene s (.setTimeout secs) { s with timeout := .ofSeconds secs }
  | copyFile {dest src t} :
    (scene.delete dest s.tree).copy (scene.referencePath src) (scene.workPath dest) = .ok t →
    Effect scene s (.copyFile dest src) { s with tree := t }
  | deleteFile (name) :
    Effect scene s (.deleteFile name) { s with tree := scene.delete name s.tree }
  | runAndCheck {command expected mode output t groups} :
    scene.behaviour (scene.invocation command s) s.tree = (.ok (.success output), t) →
    Expectation.compare expected output mode = .accepted groups →
    Effect scene s (.runAndCheck command expected mode)
      { s with vars := groups.elim s.vars s.vars.recordGroups, tree := t }
  | checkContent {name reference} :
    scene.checkContent name reference s = none →
    Effect scene s (.checkContent name reference) s
  | checkAbsent {name} :
    s.tree.pathExists (scene.workPath name) = false →
    Effect scene s (.checkAbsent name) s
  | checkExists {name} :
    s.tree.pathExists (scene.workPath name) = true →
    Effect scene s (.checkExists name) s
  | define {name raw value} :
    s.vars.substitute raw = .ok value →
    Effect scene s (.define name raw) { s with vars := s.vars.set name value }

variable {scene : Scene} {s s' : Session} {i : Instruction}

/-- An output that is accepted leaves its groups, if it has any. -/
lemma checkOutput_none {expected mode output} (a : checkOutput expected mode output s = (none, s')) :
    ∃ groups, Expectation.compare expected output mode = .accepted groups ∧
      s' = { s with vars := groups.elim s.vars s.vars.recordGroups } := by
  unfold checkOutput at a
  split at a
  · rename_i e
    cases a
    exact ⟨none, e, rfl⟩
  · rename_i groups e
    cases a
    exact ⟨some groups, e, rfl⟩
  · cases a

/-- An instruction that does not halt the script has its effect. -/
theorem apply_effect (a : scene.apply s i = (none, s')) : scene.Effect s i s' := by
  cases i with
  | comment =>
    cases a
    exact .comment
  | setTimeout secs =>
    cases a
    exact .setTimeout secs
  | copyFile dest src =>
    simp only [apply, copyReference] at a
    split at a
    · rename_i t e
      cases a
      exact .copyFile e
    · cases a
  | deleteFile name =>
    cases a
    exact .deleteFile name
  | runAndCheck command expected mode =>
    rw [apply, runAndCheck] at a
    rcases run : scene.behaviour (scene.invocation command s) s.tree with ⟨outcome, t⟩
    rw [run] at a
    rcases outcome with mishap | output | code | number | _
    · cases a
    · obtain ⟨groups, accepted, rfl⟩ := checkOutput_none a
      exact .runAndCheck run accepted
    · cases a
    · cases a
    · cases a
  | checkContent name reference =>
    simp only [apply, Prod.mk.injEq] at a
    obtain ⟨e, rfl⟩ := a
    exact .checkContent e
  | checkAbsent name =>
    simp only [apply] at a
    split at a
    · cases a
    · rename_i e
      cases a
      exact .checkAbsent (Bool.eq_false_iff.2 e)
  | checkExists name =>
    simp only [apply] at a
    split at a
    · rename_i e
      cases a
      exact .checkExists e
    · cases a
  | define name raw =>
    simp only [apply, Variables.define] at a
    cases e : s.vars.substitute raw with
    | error f =>
      rw [e] at a
      cases a
    | ok value =>
      rw [e] at a
      cases a
      exact .define e

/-- What an instruction halts the script with, and what it leaves of the session. -/
inductive Stop (scene : Scene) (s : Session) : Instruction → Halt → Session → Prop where
  | notCopied {dest src e} :
    (scene.delete dest s.tree).copy (scene.referencePath src) (scene.workPath dest) = .error e →
    Stop scene s (.copyFile dest src) (.fault (.notCopied src dest))
      { s with tree := scene.delete dest s.tree }
  | mishap {command mishap t} (expected mode) :
    scene.behaviour (scene.invocation command s) s.tree = (.error mishap, t) →
    Stop scene s (.runAndCheck command expected mode) (.fault mishap) { s with tree := t }
  | timedOut {command t} (expected mode) :
    scene.behaviour (scene.invocation command s) s.tree = (.ok .timedOut, t) →
    Stop scene s (.runAndCheck command expected mode) (.failure .timeout) { s with tree := t }
  | exited {command code t} (expected mode) :
    scene.behaviour (scene.invocation command s) s.tree = (.ok (.exited code), t) →
    Stop scene s (.runAndCheck command expected mode) (.failure (.exitCode code)) { s with tree := t }
  | signalled {command number t} (expected mode) :
    scene.behaviour (scene.invocation command s) s.tree = (.ok (.signalled number), t) →
    Stop scene s (.runAndCheck command expected mode) (.failure (.signal number)) { s with tree := t }
  | incorrectOutput {command expected mode output t} :
    scene.behaviour (scene.invocation command s) s.tree = (.ok (.success output), t) →
    (Expectation.compare expected output mode).isAccepted = false →
    Stop scene s (.runAndCheck command expected mode)
      (.failure (.incorrectOutput (Expectation.compare expected output mode).describe))
      { s with tree := t }
  | missingReference {reference} (name) :
    plainContent? s.tree (scene.referencePath reference) = none →
    Stop scene s (.checkContent name reference) (.fault (.missingReference reference)) s
  | fileContent {name reference expected} :
    plainContent? s.tree (scene.referencePath reference) = some expected →
    plainContent? s.tree (scene.workPath name) ≠ some expected →
    Stop scene s (.checkContent name reference) (.failure (.fileContent name)) s
  | filePresent {name} :
    s.tree.pathExists (scene.workPath name) = true →
    Stop scene s (.checkAbsent name) (.failure (.filePresent name)) s
  | fileMissing {name} :
    s.tree.pathExists (scene.workPath name) = false →
    Stop scene s (.checkExists name) (.failure (.fileMissing name)) s
  | unresolved {raw f} (name) :
    s.vars.substitute raw = .error f →
    Stop scene s (.define name raw) (.fault f) s

variable {halt : Halt}

/-- An output that halts the script is not accepted. -/
lemma checkOutput_some {expected mode output}
    (a : checkOutput expected mode output s = (some halt, s')) :
    (Expectation.compare expected output mode).isAccepted = false ∧
      halt = .failure (.incorrectOutput (Expectation.compare expected output mode).describe) ∧
      s' = s := by
  unfold checkOutput at a
  cases e : Expectation.compare expected output mode with
  | accepted groups =>
    rw [e] at a
    cases groups <;> cases a
  | lineCount expected actual =>
    rw [e] at a
    cases a
    exact ⟨rfl, rfl, rfl⟩
  | lineDiffers index expected actual =>
    rw [e] at a
    cases a
    exact ⟨rfl, rfl, rfl⟩

/-- An instruction that halts the script has come to a stop. -/
theorem apply_stop (a : scene.apply s i = (some halt, s')) : scene.Stop s i halt s' := by
  cases i with
  | comment => cases a
  | setTimeout secs => cases a
  | copyFile dest src =>
    simp only [apply, copyReference] at a
    split at a
    · cases a
    · rename_i e
      cases a
      exact .notCopied e
  | deleteFile name => cases a
  | runAndCheck command expected mode =>
    rw [apply, runAndCheck] at a
    rcases run : scene.behaviour (scene.invocation command s) s.tree with ⟨outcome, t⟩
    rw [run] at a
    rcases outcome with mishap | output | code | number | _
    · cases a
      exact .mishap expected mode run
    · obtain ⟨differs, rfl, rfl⟩ := checkOutput_some a
      exact .incorrectOutput run differs
    · cases a
      exact .exited expected mode run
    · cases a
      exact .signalled expected mode run
    · cases a
      exact .timedOut expected mode run
  | checkContent name reference =>
    simp only [apply, checkContent, Prod.mk.injEq] at a
    obtain ⟨found, rfl⟩ := a
    split at found
    · rename_i e
      cases found
      exact .missingReference name e
    · rename_i expected e
      split at found
      · cases found
      · rename_i differs
        cases found
        exact .fileContent e differs
  | checkAbsent name =>
    simp only [apply] at a
    split at a
    · rename_i e
      cases a
      exact .filePresent e
    · cases a
  | checkExists name =>
    simp only [apply] at a
    split at a
    · cases a
    · rename_i e
      cases a
      exact .fileMissing (Bool.eq_false_iff.2 e)
  | define name raw =>
    simp only [apply, Variables.define] at a
    cases e : s.vars.substitute raw with
    | error f =>
      rw [e] at a
      cases a
      exact .unresolved name e
    | ok value =>
      rw [e] at a
      cases a

/-- An instruction that halts the script leaves the variables as they are. -/
lemma Stop.vars_eq (st : scene.Stop s i halt s') : s'.vars = s.vars := by
  cases st <;> rfl

/-- The faults that instructions meet with. -/
inductive Obstacle (s : Session) : Instruction → Fault → Prop where
  | copyFile (dest src) :
    Obstacle s (.copyFile dest src) (.notCopied src dest)
  | runAndCheck (command expected mode) (mishap : Mishap) :
    Obstacle s (.runAndCheck command expected mode) mishap
  | checkContent (name reference) :
    Obstacle s (.checkContent name reference) (.missingReference reference)
  | define {name raw f} :
    s.vars.substitute raw = .error f →
    Obstacle s (.define name raw) f

/-- An instruction that halts the script with a fault has met with it. -/
theorem apply_obstacle {f} (a : scene.apply s i = (some (.fault f), s')) : Obstacle s i f := by
  cases apply_stop a with
  | notCopied => exact .copyFile _ _
  | mishap => exact .runAndCheck _ _ _ _
  | missingReference => exact .checkContent _ _
  | unresolved _ e => exact .define e

end Transcript.Scene
