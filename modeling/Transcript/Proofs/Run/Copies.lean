import Mathlib.Tactic.Common
import Transcript.Proofs.FileTree.Copying
import Transcript.Proofs.Run.Effect
import Transcript.Proofs.Run.Resume
import Transcript.Proofs.Run.Scratch

/-!
# Checks of copied files

A file check reads the tree and changes nothing (`Scene.apply_checkContent`). Right after a file was
copied, its checks come out as the checks of its source would: it exists, and it has the content of all reference
files that differ from the source in carriage returns only (`Scene.checks_of_copied`).
-/

namespace Transcript.Scene

open Text (Bytes)

/-- Carriage returns are left out. -/
def dropReturns (content : Bytes) : Bytes :=
  content.filter (· ≠ 13)

variable {scene : Scene} {s s' : Session} {name dest src reference : List Char} {content : Bytes}

lemma plainContent?_ok {t : FileTree} {path} (read : t.read path = .ok content) :
    plainContent? t path = some (dropReturns content) := by
  rw [plainContent?, read]
  rfl

lemma pathExists_of_read {t : FileTree} {path} (read : t.read path = .ok content) : t.pathExists path = true := by
  rw [FileTree.pathExists]
  cases found : t.find path with
  | error e =>
    rw [FileTree.read, found] at read
    cases read
  | ok place => rfl

/-- What the check of a file that can be read comes to. -/
lemma apply_checkContent (read : s.tree.read (scene.workPath name) = .ok content) :
    scene.apply s (.checkContent name reference) =
      (match s.tree.read (scene.referencePath reference) with
        | .error _ => some (.fault (.missingReference reference))
        | .ok expected =>
          if dropReturns content = dropReturns expected then none else some (.failure (.fileContent name)), s) := by
  rw [apply, checkContent, plainContent?_ok read]
  cases e : s.tree.read (scene.referencePath reference) with
  | error f => simp only [plainContent?, e, Except.toOption, Option.map_none]
  | ok expected => simp only [plainContent?_ok e, Option.some.injEq]

/-- Right after a file was copied it exists and has the content of its source, as both are then. Compared
with any reference file it passes when that file can be read and has the content of the source but for carriage
returns; a reference file that cannot be read is missing, and any other content is incorrect. -/
theorem checks_of_copied (copied : scene.apply s (.copyFile dest src) = (none, s')) :
    scene.apply s' (.checkContent dest src) = (none, s') ∧
    scene.apply s' (.checkExists dest) = (none, s') ∧
    scene.apply s' (.checkAbsent dest) = (some (.failure (.filePresent dest)), s') ∧
    ∀ reference,
      (scene.apply s' (.checkContent dest reference) = (none, s') ↔
        ∃ content expected, s'.tree.read (scene.referencePath src) = .ok content ∧
          s'.tree.read (scene.referencePath reference) = .ok expected ∧
          dropReturns content = dropReturns expected) ∧
      (scene.apply s' (.checkContent dest reference) = (some (.fault (.missingReference reference)), s') ↔
        ∃ e, s'.tree.read (scene.referencePath reference) = .error e) ∧
      (scene.apply s' (.checkContent dest reference) = (some (.failure (.fileContent dest)), s') ↔
        ∃ content expected, s'.tree.read (scene.referencePath src) = .ok content ∧
          s'.tree.read (scene.referencePath reference) = .ok expected ∧
          dropReturns content ≠ dropReturns expected) := by
  obtain ⟨content, source, target⟩ : ∃ content,
      s'.tree.read (scene.referencePath src) = .ok content ∧ s'.tree.read (scene.workPath dest) = .ok content := by
    cases apply_effect copied with
    | copyFile made => exact FileTree.read_copied made
  have there := pathExists_of_read target
  refine ⟨?_, ?_, ?_, fun reference => ?_⟩
  · simp only [apply_checkContent target, source, if_true]
  · rw [apply, there]
    rfl
  · rw [apply, there]
    rfl
  · rw [apply_checkContent target, source]
    cases s'.tree.read (scene.referencePath reference) with
    | error e => simp
    | ok expected => by_cases same : dropReturns content = dropReturns expected <;> simp [same]

/-- A link to the source is replaced by a file of its own, which has the content of a reference file with other
line ends. -/
theorem checks_of_copied_link :
    let disk : FileTree := ⟨[([['a']], .file [120, 13, 10] false), ([['b']], .file [120, 10] false),
      ([['t', '_', '0']], .directory), ([['t', '_', '0'], ['l']], .link ['/', 'a'])]⟩
    let scene : Scene := { echo with here := ['/'], work := ['/', 't', '_', '0'] }
    let left := (scene.apply (scene.start disk) (.copyFile ['l'] ['a'])).2
    left.tree.node? [['t', '_', '0'], ['l']] = some (.file [120, 13, 10] false) ∧
      scene.apply left (.checkContent ['l'] ['b']) = (none, left) := by
  intro disk scene left
  have copied : scene.apply (scene.start disk) (.copyFile ['l'] ['a']) = (none, left) := by decide
  obtain ⟨-, -, -, against⟩ := checks_of_copied copied
  refine ⟨by decide, (against ['b']).1.2 ⟨[120, 13, 10], [120, 10], by decide, by decide, by decide⟩⟩

end Transcript.Scene
