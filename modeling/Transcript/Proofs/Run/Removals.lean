import Mathlib.Tactic.Common
import Transcript.Proofs.FileTree.Copying
import Transcript.Proofs.Run.Resume
import Transcript.Proofs.Run.Scratch

/-!
# Checks of removed files

Removing a file never halts a script. Right after it the name is free, whatever stood there, unless it leads to a
directory (`FileTree.pathExists_removed_iff`); a directory stays, and the checks find it
(`Scene.checks_of_deleted`).
-/

namespace Transcript

open Path (Name)

namespace FileTree

variable {t : FileTree} {path : List Char} {names : List Name}

/-- A path leads to a directory, and not by a link at its end. -/
def LeadsToDirectory (t : FileTree) (path : List Char) : Prop :=
  ∃ names, t.locate false path = .ok (.taken names .directory)

lemma pathExists_iff : t.pathExists path = true ↔ ∃ names node, t.locate true path = .ok (.taken names node) := by
  rw [pathExists]
  constructor
  · intro there
    cases found : t.find path with
    | error e =>
      rw [found] at there
      cases there
    | ok place => exact ⟨place.1, place.2, find_ok_iff.1 found⟩
  · intro ⟨names, node, located⟩
    rw [find_ok_iff.2 located]
    rfl

/-- A directory is found where a path leads to it. -/
lemma LeadsToDirectory.pathExists (leads : t.LeadsToDirectory path) : t.pathExists path = true := by
  obtain ⟨names, located⟩ := leads
  obtain ⟨isPath, leads⟩ := locate_ok_iff.1 located
  exact pathExists_iff.2 ⟨names, .directory, locate_ok_iff.2 ⟨isPath, leads.follow nofun⟩⟩

/-- A directory is not removed as a file. -/
lemma LeadsToDirectory.removeFile_eq (leads : t.LeadsToDirectory path) :
    t.removeFile path = .error .isDirectory := by
  obtain ⟨names, located⟩ := leads
  rw [removeFile, located]

/-- A path that leads to a directory after a file was removed has led to it before. -/
lemma leadsToDirectory_of_removed (leads : ((t.removeFile path).toOption.getD t).LeadsToDirectory path) :
    t.LeadsToDirectory path := by
  obtain ⟨names, located⟩ := leads
  cases removed : t.removeFile path with
  | error e =>
    rw [removed] at located
    exact ⟨names, located⟩
  | ok u =>
    rw [removed] at located
    obtain ⟨place, _, _, rfl⟩ := removeFile_ok removed
    exact ⟨names, locate_of_erase located⟩

/-- What a path leads to after a file was removed there, if one could be, is a directory. -/
lemma leadsToDirectory_of_found {node}
    (located : ((t.removeFile path).toOption.getD t).locate true path = .ok (.taken names node)) :
    t.LeadsToDirectory path := by
  have directory : node = .directory := by
    by_contra other
    obtain ⟨_, free⟩ := free_of_removed located fun same => other (Option.some.inj same)
    cases free
  subst directory
  obtain ⟨isPath, leads⟩ := locate_ok_iff.1 located
  rcases leads.unfollow with leads | ⟨names, target, leads⟩
  · exact leadsToDirectory_of_removed ⟨names, locate_ok_iff.2 ⟨isPath, leads⟩⟩
  · -- a link at the end would have been removed
    exact absurd (locate_ok_iff.2 ⟨isPath, leads⟩) (not_taken_of_removed nofun)

/-- After a file was removed, if one could be, something stands at the path only where it leads to a
directory. -/
theorem pathExists_removed_iff :
    ((t.removeFile path).toOption.getD t).pathExists path = true ↔ t.LeadsToDirectory path := by
  constructor
  · intro there
    obtain ⟨names, node, located⟩ := pathExists_iff.1 there
    exact leadsToDirectory_of_found located
  · intro leads
    rw [leads.removeFile_eq]
    exact leads.pathExists

end FileTree

namespace Scene

variable {scene : Scene} {s : Session} {name : List Char}

/-- A name of which something stands: the check that it does not exist halts, the other one goes on. -/
lemma checks_of_pathExists (there : s.tree.pathExists (scene.workPath name) = true) :
    scene.apply s (.checkAbsent name) = (some (.failure (.filePresent name)), s) ∧
      scene.apply s (.checkExists name) = (none, s) := by
  rw [apply, apply, there]
  exact ⟨rfl, rfl⟩

lemma checks_of_not_pathExists (free : ¬ s.tree.pathExists (scene.workPath name) = true) :
    scene.apply s (.checkAbsent name) = (none, s) ∧
      scene.apply s (.checkExists name) = (some (.failure (.fileMissing name)), s) := by
  rw [apply, apply, if_neg free, if_neg free]
  exact ⟨rfl, rfl⟩

/-- Removing a file goes on in every session. Unless the name leads to a directory, the check that it does not
exist goes on afterwards, and the check that it exists halts with the name missing. A directory stays with all the
rest, so that the first check halts with the name present and the other one goes on. -/
theorem checks_of_deleted (scene : Scene) (s : Session) (name : List Char) :
    ∃ s', scene.apply s (.deleteFile name) = (none, s') ∧
      (¬ s.tree.LeadsToDirectory (scene.workPath name) ↔
        scene.apply s' (.checkAbsent name) = (none, s') ∧
        scene.apply s' (.checkExists name) = (some (.failure (.fileMissing name)), s')) ∧
      (s.tree.LeadsToDirectory (scene.workPath name) ↔
        s' = s ∧ scene.apply s' (.checkAbsent name) = (some (.failure (.filePresent name)), s') ∧
        scene.apply s' (.checkExists name) = (none, s')) := by
  refine ⟨_, rfl, ?_⟩
  have stays : (scene.delete name s.tree).pathExists (scene.workPath name) = true ↔ _ :=
    FileTree.pathExists_removed_iff
  by_cases directory : s.tree.LeadsToDirectory (scene.workPath name)
  · have same : scene.delete name s.tree = s.tree := by
      rw [delete, directory.removeFile_eq]
      rfl
    obtain ⟨present, goesOn⟩ := checks_of_pathExists (s := s) directory.pathExists
    rw [same, present, goesOn]
    simp [directory]
  · have free : ¬ (scene.delete name s.tree).pathExists (scene.workPath name) = true :=
      fun there => directory (stays.1 there)
    obtain ⟨goesOn, missing⟩ := checks_of_not_pathExists (s := { s with tree := scene.delete name s.tree }) free
    rw [goesOn, missing]
    simp [directory]

/-- A directory that the program under test has made in the scratch directory is still there behind an instruction
that removes it: a script that checks so fails, and one that checks the opposite passes. -/
theorem not_deleted :
    let making : Behaviour := fun _ t => (.ok (.success []), t.put [['t', '_', '0'], ['d']] .directory)
    runText making ['/'] echo.config ['t'] "> x\n<<<\n- d\n* d\n".toList {} =
      ⟨.failed 4 (.filePresent ['d']), none, {}⟩ ∧
    runText making ['/'] echo.config ['t'] "> x\n<<<\n- d\nE d\n".toList {} = ⟨.passed, none, {}⟩ := by
  decide +kernel

end Scene

end Transcript
