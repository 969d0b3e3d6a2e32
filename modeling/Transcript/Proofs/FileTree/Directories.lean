import Mathlib.Tactic.Common
import Transcript.Proofs.FileTree.Files

/-!
# Directories that stay

Files and links may come and go all over a tree while its directories stay where they are
(`FileTree.KeepsDirectories`), as they do under everything that writes or removes single files. A path that
leads to a directory then still leads there, or to no directory at all (`KeepsDirectories.leads_eq`).
-/

namespace Transcript.FileTree

open Path (Name)

/-- But for what is below `W`, a tree has its directories where another one has them, and no link that the other
one has not. -/
structure KeepsDirectories (W : List Name) (t u : FileTree) : Prop where
  directory_iff : ∀ names, ¬ IsBelow W names →
    (u.node? names = some .directory ↔ t.node? names = some .directory)
  links : ∀ names target, ¬ IsBelow W names →
    u.node? names = some (.link target) → t.node? names = some (.link target)

/-- All names that lead to a directory from the root lead to directories on the way. -/
def Stands (t : FileTree) (dir : List Name) : Prop :=
  ∀ above, above <+: dir → t.node? above = some .directory

variable {t u v : FileTree} {W dir dir' p p' names : List Name} {n : Name} {links links' : Nat}
variable {followLast : Bool} {path src : List Char} {place : Place}

namespace KeepsDirectories

lemma refl (W t) : KeepsDirectories W t t :=
  ⟨fun _ _ => Iff.rfl, fun _ _ _ found => found⟩

lemma trans (h : KeepsDirectories W t u) (h' : KeepsDirectories W u v) : KeepsDirectories W t v where
  directory_iff names apart := (h'.directory_iff names apart).trans (h.directory_iff names apart)
  links names target apart found := h.links names target apart (h'.links names target apart found)

lemma of_node?_eq (same : ∀ names, ¬ IsBelow W names → u.node? names = t.node? names) :
    KeepsDirectories W t u where
  directory_iff names apart := by rw [same names apart]
  links names target apart found := by rwa [same names apart] at found

/-- A file may be put where no directory is. -/
lemma put {content executable} (other : t.node? names ≠ some .directory) :
    KeepsDirectories W t (t.put names (.file content executable)) := by
  have ne : names ≠ [] := by
    rintro rfl
    exact other rfl
  constructor
  · intro names' _
    by_cases same : names' = names
    · subst same
      rw [node?_put_self ne]
      exact iff_of_false nofun other
    · rw [node?_put_of_ne same]
  · intro names' target _ found
    by_cases same : names' = names
    · subst same
      rw [node?_put_self ne] at found
      cases found
    · rwa [node?_put_of_ne same] at found

/-- What is no directory may be removed. -/
lemma erase (other : t.node? names ≠ some .directory) : KeepsDirectories W t (t.erase names) := by
  have ne : names ≠ [] := by
    rintro rfl
    exact other rfl
  constructor
  · intro names' _
    by_cases same : names' = names
    · subst same
      rw [node?_erase_self ne]
      exact iff_of_false nofun other
    · rw [node?_erase_of_ne same]
  · intro names' target _ found
    exact node?_of_erase found

lemma removeFile (W) (removed : t.removeFile path = .ok u) : KeepsDirectories W t u := by
  obtain ⟨place, located, not_directory, rfl⟩ := removeFile_ok removed
  apply erase
  rw [(locate_ok_iff.1 located).2.node?_eq not_directory]
  exact not_directory

lemma copy (W) (copied : t.copy src path = .ok u) : KeepsDirectories W t u := by
  rcases copy_ok copied with rfl | ⟨place, content, executable, located, not_directory, rfl⟩
  · exact refl W u
  · apply put
    rw [(locate_ok_iff.1 located).2.node?_eq not_directory]
    exact not_directory

end KeepsDirectories

section Walks

/-- A name on the way to a directory is that of a directory or of a link. -/
lemma Leads.passes {V} (leads : Leads t true links dir (n :: p) (.taken V .directory)) (name : IsEntryName n) :
    t.node? (dir ++ [n]) = some .directory ∨ ∃ target, t.node? (dir ++ [n]) = some (.link target) := by
  cases leads with
  | stop stops =>
    cases stops with
    | file _ _ not_directory => exact absurd rfl not_directory
  | step step _ =>
    cases step with
    | here => exact absurd rfl name.not_here
    | up => exact absurd rfl name.not_up
    | directory _ found => exact .inl found
    | link _ found => exact .inr ⟨_, found⟩

lemma stands_nil (t : FileTree) : Stands t [] := by
  intro above root
  rw [List.prefix_nil.1 root]
  rfl

lemma Stands.concat (standing : Stands t dir) (found : t.node? (dir ++ [n]) = some .directory) :
    Stands t (dir ++ [n]) := by
  intro above le
  rcases List.prefix_concat_iff.1 le with rfl | le
  · exact found
  · exact standing above le

lemma Stands.dropLast (standing : Stands t dir) : Stands t dir.dropLast :=
  fun above le => standing above (le.trans (List.dropLast_prefix dir))

variable (keeps : KeepsDirectories W (t.put W .directory) u) (free : t.node? W = none)

include free

/-- What stands in a directory that can be reached is not below a name that is free. -/
lemma Stands.apart {node} (standing : Stands t dir) (found : t.node? (dir ++ [n]) = some node) :
    ¬ IsBelow W (dir ++ [n]) ∧ (t.put W .directory).node? (dir ++ [n]) = some node := by
  have apart : ¬ W <+: dir ++ [n] := by
    intro le
    rcases List.prefix_concat_iff.1 le with rfl | le
    · cases free.symm.trans found
    · cases free.symm.trans (standing W le)
  refine ⟨fun below => apart below.1, ?_⟩
  rw [node?_put_of_ne, found]
  rintro rfl
  exact apart List.prefix_rfl

include keeps

/-- A walk that comes to a directory takes the steps that it took before. -/
lemma KeepsDirectories.step {V} (step : Step t true links dir p links' dir' p') (standing : Stands t dir)
    (there : Leads u true links dir p (.taken V .directory)) :
    Stands t dir' ∧ Leads u true links' dir' p' (.taken V .directory) := by
  cases step with
  | here => exact ⟨standing, Step.here.leads_iff.1 there⟩
  | up => exact ⟨standing.dropLast, Step.up.leads_iff.1 there⟩
  | directory name found =>
    obtain ⟨apart, kept⟩ := standing.apart free found
    have found' := (keeps.directory_iff _ apart).2 kept
    exact ⟨standing.concat found, (Step.directory name found').leads_iff.1 there⟩
  | link name found goOn ne =>
    obtain ⟨apart, kept⟩ := standing.apart free found
    -- the link is still there: a directory would have been one before, and nothing else is passed
    rcases there.passes name with directory | ⟨target, link⟩
    · cases kept.symm.trans ((keeps.directory_iff _ apart).1 directory)
    · cases kept.symm.trans (keeps.links _ target apart link)
      refine ⟨?_, (Step.link name link goOn ne).leads_iff.1 there⟩
      split
      · exact stands_nil t
      · exact standing

/-- In a tree that was made from one in which a name is free by making a directory there and keeping the others, a
path that led to a directory, or to the free name, leads to no other directory. -/
lemma KeepsDirectories.leads_eq {V V'} (leads : Leads t true links dir p place) (standing : Stands t dir)
    (last : place = .taken V .directory ∨ place = .free V ∧ V = W)
    (there : Leads u true links dir p (.taken V' .directory)) : V' = V := by
  induction leads with
  | stop stops =>
    rcases last with rfl | ⟨rfl, rfl⟩
    · cases stops with
      | arrived =>
        cases there.eq_of_nil
        rfl
      | file _ _ not_directory => exact absurd rfl not_directory
    · cases stops with
      | free name =>
        have made := (keeps.directory_iff _ fun below => below.2 rfl).2 (node?_put_self (by simp))
        cases ((Step.directory name made).leads_iff.1 there).eq_of_nil
        rfl
  | step step _ ih =>
    obtain ⟨standing', there'⟩ := keeps.step free step standing there
    exact ih standing' last there'

/-- A path that led to a directory leads to no other one. -/
lemma KeepsDirectories.find_eq {R V} (before : t.find path = .ok (R, .directory))
    (there : u.find path = .ok (V, .directory)) : V = R := by
  have led := (locate_ok_iff.1 (find_ok_iff.1 before)).2
  exact keeps.leads_eq free led (stands_nil t) (.inl rfl) (locate_ok_iff.1 (find_ok_iff.1 there)).2

/-- The path under which the directory was made leads to no other one. -/
lemma KeepsDirectories.find_made {V} (before : t.locate false path = .ok (.free W))
    (there : u.find path = .ok (V, .directory)) : V = W := by
  have led := (locate_ok_iff.1 before).2.follow nofun
  exact keeps.leads_eq free led (stands_nil t) (.inr ⟨rfl, rfl⟩) (locate_ok_iff.1 (find_ok_iff.1 there)).2

end Walks

end Transcript.FileTree
