import Mathlib.Tactic.Common
import Transcript.Proofs.Run.Resume
import Transcript.Proofs.Run.Scratch

/-!
# What instructions can write

A script's instructions write and remove files under names that stay inside the scratch directory, and
then nothing else changes (`Scene.apply_node?_eq`); or else under any other name, since no name is
looked at (`Scene.not_confined`).
-/

namespace Transcript

open FileTree (IsBelow ChangesBelow IsInside)
open Path (Name IsBare)

/-- The name of the file that an instruction writes or removes itself. -/
def Instruction.written? : Instruction → Option (List Char)
  | .copyFile dest _ => some dest
  | .deleteFile name => some name
  | _ => none

namespace Scene

variable {scene : Scene} {t : FileTree} {s : Session} {i : Instruction} {W : List Name}
variable {name dest src : List Char}

/-- What is removed under a name in the scratch directory was below it. -/
lemma delete_changesBelow (bare : IsBare scene.work) (inside : IsInside t scene.work W name) :
    ChangesBelow W t (scene.delete name t) := by
  rw [delete, workPath]
  cases removed : t.removeFile (Path.join scene.work name) with
  | error f => exact .refl W t
  | ok u => exact inside.removeFile bare removed

/-- A name in the scratch directory is one when the file under the name was removed. -/
lemma isInside_delete (inside : IsInside t scene.work W name) :
    IsInside (scene.delete name t) scene.work W name := by
  rw [delete, workPath]
  cases removed : t.removeFile (Path.join scene.work name) with
  | error f => exact inside
  | ok u =>
    obtain ⟨place, _, _, rfl⟩ := FileTree.removeFile_ok removed
    exact inside.erase

/-- What is copied to a name in the scratch directory is put below it, in the place of what was there. -/
lemma copyReference_changesBelow (bare : IsBare scene.work)
    (inside : IsInside s.tree scene.work W dest) :
    ChangesBelow W s.tree (scene.copyReference dest src s).2.tree := by
  have removed := delete_changesBelow bare inside
  rw [copyReference]
  split
  · rename_i t copied
    have not_link : ∀ names target, (scene.delete dest s.tree).locate false (Path.join scene.work dest) ≠
        .ok (.taken names (.link target)) := fun _ _ => FileTree.not_taken_of_removed nofun
    exact removed.trans ((isInside_delete inside).copy bare not_link copied)
  · exact removed

/-- An instruction that writes under a name in the scratch directory changes the tree below it only. -/
lemma apply_changesBelow (bare : IsBare scene.work) (writes : i.written? = some name)
    (inside : IsInside s.tree scene.work W name) :
    ChangesBelow W s.tree (scene.apply s i).2.tree := by
  cases i with
  | copyFile dest src =>
    cases writes
    exact copyReference_changesBelow bare inside
  | deleteFile name =>
    cases writes
    exact delete_changesBelow bare inside
  | _ => cases writes

/-- An instruction that copies or removes a file leaves everything as it is that is not below the scratch
directory made for the run, as long as the directory's path leads nowhere else, and the name is a relative
path that never climbs above the directory and comes upon a link in the last place only. Such a link is
removed before a file is copied to its place; in a tree with permissions this could be refused, and the copy
would be written where the link leads. -/
theorem apply_node?_eq {t₁}
    (made : Scratch.create t (Path.join scene.here scene.config.workRoot) name =
      .ok (scene.work, t₁)) :
    ∃ W, t.locate false scene.work = .ok (.free W) ∧ t₁ = t.put W .directory ∧
      ∀ s i written, i.written? = some written → IsInside s.tree scene.work W written →
        ∀ names, ¬ IsBelow W names → (scene.apply s i).2.tree.node? names = s.tree.node? names := by
  obtain ⟨W, new, same⟩ := Scratch.create_ok made
  refine ⟨W, new.free, same, ?_⟩
  intro s i written writes inside names not_below
  exact (apply_changesBelow new.bare writes inside).node?_eq not_below

/-- A file beside the scratch directory outlives the removal of one that has its name. -/
theorem apply_node?_eq_up :
    let disk : FileTree := ⟨[([['a']], .file [120] false)]⟩
    let scene : Scene := { echo with here := ['/'], work := ['/', 't', '_', '0'] }
    let left : FileTree := ⟨disk.entries ++
      [([['t', '_', '0']], .directory), ([['t', '_', '0'], ['d']], .directory),
        ([['t', '_', '0'], ['a']], .file [121] false)]⟩
    let instruction := Instruction.deleteFile "d/../a".toList
    (scene.apply (scene.start left) instruction).2.tree.node? [['a']] = some (.file [120] false) := by
  intro disk scene left instruction
  have made : Scratch.create disk (Path.join scene.here scene.config.workRoot) ['t'] =
    .ok (scene.work, disk.put [['t', '_', '0']] .directory) := rfl
  obtain ⟨W, free, _, kept⟩ := apply_node?_eq made
  have there : disk.locate false scene.work = .ok (.free [['t', '_', '0']]) := rfl
  rw [there] at free
  cases free
  have inside : IsInside left scene.work [['t', '_', '0']] "d/../a".toList := by
    constructor
    · intro V found
      have there : left.find scene.work = .ok ([['t', '_', '0']], .directory) := rfl
      rw [there] at found
      cases found
      rfl
    · decide
    · have names : FileTree.pathNames "d/../a".toList = [['d'], ['.', '.'], ['a']] := by decide
      have directory : left.node? [['t', '_', '0'], ['d']] = some .directory := rfl
      rw [names]
      simp [FileTree.StaysBelow, directory]
  have not_below : ¬ IsBelow [['t', '_', '0']] [['a']] := by
    rw [IsBelow]
    decide
  rw [kept (scene.start left) instruction _ rfl inside _ not_below]
  rfl

/-- A script removes a file beside its scratch directory under a name that climbs out of it, under an
absolute one, through a link that the program under test has made, and from where the program under test
has put a link in place of the directory. -/
theorem not_confined :
    let disk : FileTree := ⟨[([['a']], .file [120] false)]⟩
    let linking : Behaviour := fun _ t =>
      (.ok (.success []), t.put [['t', '_', '0'], ['l']] (.link ['.', '.']))
    let replacing : Behaviour := fun _ t =>
      (.ok (.success []), (t.erase [['t', '_', '0']]).put [['t', '_', '0']] (.link ['/']))
    Scratch.create disk ['/'] ['t'] =
      .ok (['/', 't', '_', '0'], disk.put [['t', '_', '0']] .directory) ∧
    ¬ IsBelow [['t', '_', '0']] [['a']] ∧
    runText echo.behaviour ['/'] echo.config ['t'] "- ../a\n".toList disk = ⟨.passed, none, {}⟩ ∧
    runText echo.behaviour ['/'] echo.config ['t'] "- /a\n".toList disk = ⟨.passed, none, {}⟩ ∧
    runText linking ['/'] echo.config ['t'] "> x\n<<<\n- l/a\n".toList disk = ⟨.passed, none, {}⟩ ∧
    runText replacing ['/'] echo.config ['t'] "> x\n<<<\n- a\n".toList disk = ⟨.passed, none, {}⟩ := by
  rw [IsBelow]
  decide +kernel

end Scene

end Transcript
