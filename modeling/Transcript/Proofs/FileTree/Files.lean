import Mathlib.Tactic.Common
import Transcript.FileTree.Files
import Transcript.Proofs.FileTree.Paths

/-!
# Files in a directory

What is removed or copied under a name that stays inside a directory changes the tree below the
directory only (`FileTree.IsInside.removeFile`, `FileTree.IsInside.copy`).
-/

namespace Transcript.FileTree

open Path (Name IsBare)

variable {t u : FileTree} {followLast : Bool} {dir name path src : List Char}
variable {W names : List Name} {place : Place}

section Results

/-- What can be removed is no directory. -/
lemma removeFile_ok (removed : t.removeFile path = .ok u) :
    ∃ place, t.locate false path = .ok place ∧ place.node? ≠ some .directory ∧
      u = t.erase place.names := by
  rw [removeFile] at removed
  split at removed
  · cases removed
  · rename_i names node not_directory e
    cases removed
    refine ⟨.taken names node, e, ?_, rfl⟩
    intro directory
    exact not_directory (Option.some.inj directory)
  · cases removed
  · cases removed

/-- What can be written is no directory. -/
lemma writable_ok {old} (writable : t.writable path = .ok (names, old)) :
    ∃ place, t.locate true path = .ok place ∧ place.node? ≠ some .directory ∧ place.names = names := by
  rw [FileTree.writable] at writable
  split at writable
  · cases writable
  · rename_i names' node not_directory e
    cases writable
    refine ⟨_, e, ?_, rfl⟩
    intro directory
    exact not_directory (Option.some.inj directory)
  · rename_i names' e
    cases writable
    exact ⟨_, e, nofun, rfl⟩
  · split at writable <;> cases writable
  · cases writable

/-- A copy puts a file where its path leads, or it changes nothing. -/
lemma copy_ok (copied : t.copy src path = .ok u) :
    u = t ∨ ∃ place content executable, t.locate true path = .ok place ∧
      place.node? ≠ some .directory ∧ u = t.put place.names (.file content executable) := by
  rw [copy] at copied
  split at copied
  · cases copied
  · rename_i from_ node found
    extract_lets read at copied
    rcases content : read with f | ⟨content, executable⟩
    · rw [content] at copied
      cases copied
    · rw [content, Except.bind] at copied
      cases e : t.writable path with
      | error f =>
        rw [e] at copied
        cases copied
      | ok written =>
        obtain ⟨names, old⟩ := written
        obtain ⟨place, located, not_directory, rfl⟩ := writable_ok e
        rw [e] at copied
        simp only [Except.map, Except.ok.injEq] at copied
        split at copied
        · exact .inr ⟨place, _, _, located, not_directory, copied.symm⟩
        · exact .inr ⟨place, _, _, located, not_directory, copied.symm⟩
        · exact .inl copied.symm

/-- A directory is made where its path leads to a free name. -/
lemma makeDirectory_ok_iff (bare : IsBare path) :
    t.makeDirectory path = .ok u ↔ ∃ W, t.locate false path = .ok (.free W) ∧ u = t.put W .directory := by
  have kept : ¬ (path.length > 1 && path.getLast? == some '/') = true := by
    simp [bare.not_slash]
  rw [makeDirectory, if_neg kept]
  constructor
  · intro made
    split at made
    · rename_i W free
      cases made
      exact ⟨W, free, rfl⟩
    · cases made
    · cases made
  · intro ⟨W, free, same⟩
    simp only [free, same]

/-- A path that leads to an entry after another one was removed has led there before. -/
lemma locate_of_erase {node} (located : (t.erase names).locate followLast path = .ok (.taken W node)) :
    t.locate followLast path = .ok (.taken W node) := by
  obtain ⟨isPath, leads⟩ := locate_ok_iff.1 located
  exact locate_ok_iff.2 ⟨isPath, leads.extend (fun _ _ => node?_of_erase) nofun⟩

/-- After the file that a path leads to was removed, if it can be removed, the path leads to no entry but a
directory. -/
lemma not_taken_of_removed {node} (not_directory : node ≠ .directory) :
    ((t.removeFile path).toOption.getD t).locate false path ≠ .ok (.taken names node) := by
  intro located
  cases removed : t.removeFile path with
  | error f =>
    rw [removed] at located
    have here : t.locate false path = .ok (.taken names node) := located
    rw [FileTree.removeFile, here] at removed
    cases node with
    | directory => exact not_directory rfl
    | _ => cases removed
  | ok u =>
    rw [removed] at located
    obtain ⟨place, before, _, rfl⟩ := removeFile_ok removed
    -- the entry would be the one that was removed
    have there : (t.erase place.names).locate false path = .ok (.taken names node) := located
    have found := (locate_ok_iff.1 there).2.node?_eq fun same => not_directory (Option.some.inj same)
    cases before.symm.trans (locate_of_erase there)
    have ne : names ≠ [] := by
      intro root
      subst root
      exact not_directory (Option.some.inj found).symm
    rw [Place.names, node?_erase_self ne] at found
    cases found

end Results

/-- A name in a directory: the directory's path leads nowhere but to `W`, and the name is a relative path
that stays below. -/
structure IsInside (t : FileTree) (dir : List Char) (W : List Name) (name : List Char) : Prop where
  led : ∀ V, t.find dir = .ok (V, .directory) → V = W
  relative : Path.isAbsolute name = false
  stays : t.StaysBelow W [] (pathNames name)

namespace IsInside

/-- A name in a directory leads from the directory. -/
lemma leads (inside : IsInside t dir W name) (bare : IsBare dir)
    (located : t.locate followLast (Path.join dir name) = .ok place) :
    ∃ fewer, Enters t 40 [] (pathNames dir) fewer W ∧
      Leads t followLast fewer (W ++ []) (pathNames ('/' :: name)) place := by
  obtain ⟨isPath, fewer, V, enters, leads⟩ := (locate_join_iff bare inside.relative).1 located
  rw [bare.join_eq inside.relative] at isPath
  have found := locate_ok_iff.2 ⟨isPath.of_append bare.ne_nil, enters_iff.1 ⟨fewer, enters⟩⟩
  cases inside.led V (find_ok_iff.2 found)
  rw [List.append_nil]
  exact ⟨fewer, enters, leads⟩

/-- A name in a directory leads to a directory, or to a place below. -/
lemma isBelow (inside : IsInside t dir W name) (bare : IsBare dir)
    (located : t.locate false (Path.join dir name) = .ok place)
    (not_directory : place.node? ≠ some .directory) : IsBelow W place.names := by
  obtain ⟨_, _, leads⟩ := inside.leads bare located
  exact (leads.stays inside.stays.slash).resolve_left not_directory

/-- A name in a directory leads to the same place whether a link at the end is followed or not, if there
is none. -/
lemma unfollow (inside : IsInside t dir W name) (bare : IsBare dir)
    (located : t.locate true (Path.join dir name) = .ok place)
    (not_link : ∀ names target, t.locate false (Path.join dir name) ≠ .ok (.taken names (.link target))) :
    t.locate false (Path.join dir name) = .ok place := by
  obtain ⟨fewer, enters, leads⟩ := inside.leads bare located
  have goOn : ∀ {place}, Leads t false fewer (W ++ []) (pathNames ('/' :: name)) place →
      t.locate false (Path.join dir name) = .ok place := by
    intro place leads
    rw [List.append_nil] at leads
    have isPath := ((locate_join_iff bare inside.relative).1 located).1
    exact (locate_join_iff bare inside.relative).2 ⟨isPath, fewer, W, enters, leads⟩
  rcases leads.unfollow with leads | ⟨names, target, leads⟩
  · exact goOn leads
  · exact absurd (goOn leads) (not_link names target)

/-- A name in a directory is one when another entry was removed. -/
lemma erase (inside : IsInside t dir W name) : IsInside (t.erase names) dir W name where
  led V found := inside.led V (find_ok_iff.2 (locate_of_erase (find_ok_iff.1 found)))
  relative := inside.relative
  stays := inside.stays.of_fewer_links fun _ _ => node?_of_erase

/-- What is removed in a directory was below it. -/
theorem removeFile (inside : IsInside t dir W name) (bare : IsBare dir)
    (removed : t.removeFile (Path.join dir name) = .ok u) : ChangesBelow W t u := by
  obtain ⟨place, located, not_directory, rfl⟩ := removeFile_ok removed
  exact .erase (inside.isBelow bare located not_directory)

/-- What is copied to a name in a directory is put below, if there is no link under the name. -/
theorem copy (inside : IsInside t dir W name) (bare : IsBare dir)
    (not_link : ∀ names target, t.locate false (Path.join dir name) ≠ .ok (.taken names (.link target)))
    (copied : t.copy src (Path.join dir name) = .ok u) : ChangesBelow W t u := by
  rcases copy_ok copied with rfl | ⟨place, content, executable, located, not_directory, rfl⟩
  · exact .refl W u
  · have there := inside.unfollow bare located not_link
    exact .put (inside.isBelow bare there not_directory) nofun

end IsInside

end Transcript.FileTree
