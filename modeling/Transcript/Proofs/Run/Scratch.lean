import Mathlib.Tactic.Common
import Transcript.Proofs.Run.Creation

/-!
# Runs in a scratch directory

A script that has got a scratch directory is carried out there, from a session in which nothing is
defined (`runText_of_create`). The directory is new (`Scratch.create_ok`): as long as the tree changes
below it only, its path leads to it, it holds no links, and without it the tree is the one before
(`Scratch.IsNew.finish_eq`).
-/

namespace Transcript

open FileTree (IsTree IsBelow ChangesBelow IsInside locate_ok_iff find_ok_iff)
open Path (Name IsInner)

/-- The session that a script begins with. -/
def Scene.start (scene : Scene) (t : FileTree) : Session :=
  { timeout := scene.config.timeout, vars := {}, tree := t }

/-- A run in the scratch directory that was made for it. -/
lemma runText_of_create {scene : Scene} {name t t₁}
    (made : Scratch.create t (Path.join scene.here scene.config.workRoot) name =
      .ok (scene.work, t₁)) (text) :
    runText scene.behaviour scene.here scene.config name text t =
      ⟨(scene.execute text (scene.start t₁)).1, if scene.config.keep then some scene.work else none,
        Scratch.finish (scene.execute text (scene.start t₁)).2.tree scene.work scene.config.keep⟩ := by
  rw [runText, made]
  rfl

namespace Scratch

variable {t u : FileTree} {work : List Char} {W names : List Name}

namespace IsNew

/-- A tree that has changed below the new directory only, compared with the one in which it was made. -/
lemma node?_top (new : IsNew t work W) (changed : ChangesBelow W (t.put W .directory) u) :
    u.node? W = some .directory := by
  rw [changed.top, FileTree.node?_put_self new.ne_nil]

/-- The path of the new directory leads to it. -/
lemma locate_eq (new : IsNew t work W) (tree : t.IsTree)
    (changed : ChangesBelow W (t.put W .directory) u) (followLast) :
    u.locate followLast work = .ok (.taken W .directory) := by
  apply new.locate_of_kept _ (new.node?_top changed)
  intro names node found
  have apart := tree.not_prefix_of_free new.ne_nil new.node?_eq found
  have other : names ≠ W := fun same => apart (same ▸ List.prefix_rfl)
  rw [changed.node?_eq fun below => apart below.1, FileTree.node?_put_of_ne other]
  exact found

/-- There are no links below the new directory. -/
lemma not_link (new : IsNew t work W) (tree : t.IsTree)
    (changed : ChangesBelow W (t.put W .directory) u) (below : IsBelow W names) (target) :
    u.node? names ≠ some (.link target) := by
  intro found
  have before := changed.links names target found
  rw [FileTree.node?_put_of_ne below.2] at before
  exact tree.not_prefix_of_free new.ne_nil new.node?_eq before below.1

/-- A relative path that never names the directory above names something in the new directory. -/
lemma isInside (new : IsNew t work W) (tree : t.IsTree)
    (changed : ChangesBelow W (t.put W .directory) u) {written} (inner : IsInner written) :
    IsInside u work W written where
  led V found := by
    have there := new.locate_eq tree changed true
    rw [find_ok_iff.1 found] at there
    cases there
    rfl
  relative := inner.relative
  stays := FileTree.staysBelow_of_no_links [] (FileTree.not_up_mem_pathNames inner) fun _ target below =>
    new.not_link tree changed below target

/-- Without the new directory the tree is the one in which it was made. -/
lemma eraseBelow_eq (new : IsNew t work W) (tree : t.IsTree)
    (changed : ChangesBelow W (t.put W .directory) u) : u.eraseBelow W = t := by
  rw [changed.outside, FileTree.eraseBelow_put List.prefix_rfl,
    tree.eraseBelow_of_free new.ne_nil new.node?_eq]

/-- The new directory is removed with all that is below it. -/
lemma finish_eq (new : IsNew t work W) (tree : t.IsTree)
    (changed : ChangesBelow W (t.put W .directory) u) : finish u work false = t := by
  have removed : u.removeAll work = .ok t := by
    rw [FileTree.removeAll, new.locate_eq tree changed false]
    exact congrArg _ (new.eraseBelow_eq tree changed)
  rw [finish, removed]
  rfl

end IsNew

end Scratch

/-- A script that has got no scratch directory is not begun. -/
lemma runText_of_error {behaviour here config name t f}
    (failed : Scratch.create t (Path.join here config.workRoot) name = .error f) (text) :
    runText behaviour here config name text t = ⟨.faulty 0 (.noScratch name), none, t⟩ := by
  rw [runText, failed, (Scratch.create_error_iff.1 failed).2]

end Transcript
