import Mathlib.Tactic.Common
import Transcript.Proofs.Computation
import Transcript.Proofs.FileTree.Files

/-!
# Copies

A copy to a path from which a file was removed before, if it could be removed, is a new file: where the path
still led to a file, that file would have been removed. So a copy never overwrites its own source, and both can
be read afterwards with the same content (`FileTree.read_copied`).
-/

namespace Transcript.FileTree

open Path (Name)
open Text (Bytes)

variable {t u : FileTree} {src path : List Char} {names : List Name} {place : Place}

/-- A copy that can be made has read a file and has a place to write to. -/
lemma copy_inv (copied : t.copy src path = .ok u) :
    ∃ from_ node content executable names old, t.find src = .ok (from_, node) ∧
      node.content? = .ok content ∧ t.writable path = .ok (names, old) ∧
      (old = none → u = t.put names (.file (if names = from_ then [] else content) executable)) := by
  rw [copy] at copied
  split at copied
  · cases copied
  · rename_i from_ node found
    cases node with
    | file content executable =>
      obtain ⟨⟨names, old⟩, writable, rfl⟩ := map_eq_ok.1 copied
      refine ⟨from_, _, content, executable, names, old, found, rfl, writable, ?_⟩
      rintro rfl
      rfl
    | program name =>
      obtain ⟨⟨names, old⟩, writable, rfl⟩ := map_eq_ok.1 copied
      refine ⟨from_, _, _, true, names, old, found, rfl, writable, ?_⟩
      rintro rfl
      rfl
    | _ => cases copied

/-- Where a path led to a file that could be removed, it leads to a free name or to a directory. -/
lemma free_of_removed (located : ((t.removeFile path).toOption.getD t).locate true path = .ok place)
    (not_directory : place.node? ≠ some .directory) : ∃ names, place = .free names := by
  cases place with
  | free names => exact ⟨names, rfl⟩
  | taken names node =>
    obtain ⟨isPath, leads⟩ := locate_ok_iff.1 located
    have other : node ≠ .directory := fun same => not_directory (congrArg some same)
    rcases leads.unfollow with leads | ⟨names, target, leads⟩
    · exact absurd (locate_ok_iff.2 ⟨isPath, leads⟩) (not_taken_of_removed other)
    · exact absurd (locate_ok_iff.2 ⟨isPath, leads⟩) (not_taken_of_removed nofun)

/-- A copy to a free name is read as its source is, and the source as it was. -/
lemma read_copied_free (copied : t.copy src path = .ok u) (located : t.locate true path = .ok (.free names)) :
    ∃ content, u.read src = .ok content ∧ u.read path = .ok content := by
  obtain ⟨from_, node, content, executable, names', old, found, stored, writable, put⟩ :=
    copy_inv copied
  rw [FileTree.writable, located] at writable
  cases writable
  have sourceAt := locate_ok_iff.1 (find_ok_iff.1 found)
  have targetAt := locate_ok_iff.1 located
  have not_directory : some node ≠ some .directory := by
    rintro ⟨⟩
    cases stored
  have source := sourceAt.2.node?_eq not_directory
  have free := targetAt.2.free_eq
  have ne : names ≠ [] := by
    rintro rfl
    cases free
  -- the source has an entry, so it is not the file that the copy makes under the free name
  have apart : names ≠ from_ := by
    rintro rfl
    cases free.symm.trans source
  have filled := put rfl
  rw [if_neg apart] at filled
  have kept : ∀ other node, t.node? other = some node → u.node? other = some node := by
    intro other node there
    have other_ne : other ≠ names := by
      rintro rfl
      cases free.symm.trans there
    rw [filled, node?_put_of_ne other_ne, there]
  have new : u.node? names = some (.file content executable) := by
    rw [filled, node?_put_self ne]
  have source' : u.find src = .ok (from_, node) := by
    apply find_ok_iff.2
    refine locate_ok_iff.2 ⟨sourceAt.1, sourceAt.2.extend kept ?_⟩
    intro names same
    cases same
  have target' : u.find path = .ok (names, .file content executable) :=
    find_ok_iff.2 (locate_ok_iff.2 ⟨targetAt.1, targetAt.2.fill kept new⟩)
  refine ⟨content, ?_, ?_⟩
  · rw [read, source']
    exact stored
  · rw [read, target']
    rfl

/-- A copy in the place of a file that was removed before, if it could be, is read as its source is. -/
theorem read_copied (copied : ((t.removeFile path).toOption.getD t).copy src path = .ok u) :
    ∃ content, u.read src = .ok content ∧ u.read path = .ok content := by
  obtain ⟨_, _, _, _, names, old, -, -, writable, -⟩ := copy_inv copied
  obtain ⟨place, located, not_directory, rfl⟩ := writable_ok writable
  obtain ⟨names, rfl⟩ := free_of_removed located not_directory
  exact read_copied_free copied located

end Transcript.FileTree
