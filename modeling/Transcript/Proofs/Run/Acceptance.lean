import Mathlib.Tactic.Common
import Transcript.Proofs.Run.Validation
import Transcript.Proofs.Script.Standing

/-!
# Validation of scripts that pass

Validation takes references as they stand. So a script that passes is valid exactly when each of its lines
with a reference is an instruction in its own words (`Scene.validate_isOk_iff_of_passed`); a script may
pass that is not (`Scene.not_valid_of_passed`).
-/

namespace Transcript

open Script (Reader HasOwnForms)

/-- An instruction that halts a script keeps it from passing. -/
lemma Halt.verdict_ne_passed (halt : Halt) (line) : halt.verdict line ≠ .passed := by
  cases halt <;> exact nofun

section Results

variable {ε δ α β : Type} {x : Except ε α}

/-- A result is there when the one it is made from is. -/
lemma exists_map_ok_iff {f : α → β} : (∃ y, x.map f = .ok y) ↔ ∃ y, x = .ok y := by
  cases x <;> simp [Except.map]

/-- A result is there whatever is made from an error. -/
lemma exists_mapError_ok_iff {f : ε → δ} : (∃ y, x.mapError f = .ok y) ↔ ∃ y, x = .ok y := by
  cases x <;> simp [Except.mapError]

end Results

namespace Scene

variable {scene : Scene} {r : Reader} {s : Session}

/-- What a run that passes still has to read is all read without replacing references, exactly when it
consists of instructions in their own words. -/
lemma all_isOk_iff (passed : (scene.resume r s).1 = .passed) :
    (∃ is, r.all .ok = .ok is) ↔ HasOwnForms false r.rest := by
  induction r, s using run_induction scene with
  | step r s ih =>
    rcases e : (s.read r).result with f | _ | i
    · rw [resume_fault e] at passed
      cases passed
    · have nothing := s.read_none e
      have ended : (r.next (.ofFunction .ok) ()).result = .ok none := by rw [Reader.next, nothing]
      rw [Reader.all_end ended, nothing]
      exact iff_of_true ⟨[], rfl⟩ trivial
    · rcases a : scene.apply s i with ⟨_ | halt, s'⟩
      · rw [resume_goOn e a] at passed
        rcases Reader.next_own e with ⟨⟨f, fault⟩, none⟩ | ⟨⟨j, own⟩, same, forms⟩
        · refine iff_of_false ?_ none
          rintro ⟨is, all⟩
          rw [Reader.all_fault fault] at all
          cases all
        · rw [Reader.all_goOn own, same, forms]
          exact exists_map_ok_iff.trans (ih i s' e a passed)
      · rw [resume_halt e a] at passed
        exact absurd passed (halt.verdict_ne_passed _)

/-- A script that passes, under whatever circumstances, is valid exactly when every line of it that holds
a reference is an instruction in its own words, but for comments and the lines of blocks. -/
theorem validate_isOk_iff_of_passed {behaviour here config name text t disk base path}
    (stored : disk.readText (FileTree.absolute base path) = .ok (String.ofList text))
    (passed : (runText behaviour here config name text t).verdict = .passed) :
    (∃ n, Suite.validate disk base path = .ok n) ↔ HasOwnForms false (Text.lines text) := by
  rw [validate_of_stored stored, Script.count_eq]
  cases made : Scratch.create t (Path.join here config.workRoot) name with
  | error f =>
    rw [runText, made] at passed
    cases passed
  | ok pair =>
    obtain ⟨work, t₁⟩ := pair
    let scene : Scene := { config, behaviour, here, work }
    have created : Scratch.create t (Path.join scene.here scene.config.workRoot) name =
        .ok (scene.work, t₁) := made
    have verdict : (scene.resume (.ofText text) (scene.start t₁)).1 = .passed := by
      have ran : runText behaviour here config name text t = _ := runText_of_create created text
      rw [ran] at passed
      exact passed
    exact exists_mapError_ok_iff.trans (exists_map_ok_iff.trans (all_isOk_iff verdict))

/-- A reference may stand for a command. -/
theorem validate_isOk_of_passed_command :
    let text := "D X \"a\"\n> ${X}\na\n<<<\n".toList
    let disk : FileTree := ⟨[([['f']], .file
      [68, 32, 88, 32, 34, 97, 34, 10, 62, 32, 36, 123, 88, 125, 10, 97, 10, 60, 60, 60, 10] false)]⟩
    (runText echo.behaviour ['/'] echo.config ['t'] text disk).verdict = .passed ∧
      ∃ n, Suite.validate disk ['/'] ['f'] = .ok n := by
  intro text disk
  have stored : disk.readText (FileTree.absolute ['/'] ['f']) = .ok (String.ofList text) := rfl
  have passed : (runText echo.behaviour ['/'] echo.config ['t'] text disk).verdict = .passed := by
    decide +kernel
  refine ⟨passed, (validate_isOk_iff_of_passed stored passed).2 ?_⟩
  decide +kernel

/-- A script passes and is not valid: its time limit is a definition. -/
theorem not_valid_of_passed :
    let text := "D X \"5\"\nT ${X}\n".toList
    let disk : FileTree := ⟨[([['f']], .file
      [68, 32, 88, 32, 34, 53, 34, 10, 84, 32, 36, 123, 88, 125, 10] false)]⟩
    disk.readText (FileTree.absolute ['/'] ['f']) = .ok (String.ofList text) ∧
    (runText echo.behaviour ['/'] echo.config ['t'] text disk).verdict = .passed ∧
    Suite.validate disk ['/'] ['f'] =
      .error (.misread ⟨2, .badTimeout ['$', '{', 'X', '}']⟩) := by
  decide +kernel

end Scene

end Transcript
