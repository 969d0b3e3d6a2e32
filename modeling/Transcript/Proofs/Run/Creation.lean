import Mathlib.Tactic.Common
import Transcript.Proofs.FileTree.Files
import Transcript.Session

/-!
# Making a scratch directory

A script gets the first of its numbered directories whose path leads to a free name
(`Scratch.create_ok_iff`), and none when there is no such path among those that are tried
(`Scratch.create_error_iff`). Such a path leads to the directory's name in the directory for all of them
(`Scratch.isNew_iff`).
-/

namespace Transcript.Scratch

open FileTree (IsPath IsEntryName nameLimit byteLength locate_ok_iff find_ok_iff)
open Path (Name IsBare)

variable {t t₁ u : FileTree} {root name work : List Char} {W names : List Name}

/-- The path of a directory that is not there leads to a free name. -/
structure IsNew (t : FileTree) (work : List Char) (W : List Name) : Prop where
  bare : IsBare work
  free : t.locate false work = .ok (.free W)

namespace IsNew

/-- Nothing stands where the directory is to be. -/
lemma node?_eq (new : IsNew t work W) : t.node? W = none :=
  (locate_ok_iff.1 new.free).2.free_eq

lemma ne_nil (new : IsNew t work W) : W ≠ [] := by
  intro root
  have free := new.node?_eq
  rw [root] at free
  cases free

/-- The path leads to the directory once it is made, as long as nothing else goes. -/
lemma locate_of_kept (new : IsNew t work W)
    (kept : ∀ names node, t.node? names = some node → u.node? names = some node)
    (made : u.node? W = some .directory) (followLast) :
    u.locate followLast work = .ok (.taken W .directory) := by
  obtain ⟨isPath, leads⟩ := locate_ok_iff.1 new.free
  have there : FileTree.Leads u false 40 [] (FileTree.pathNames work) (.taken W .directory) := by
    apply leads.extend kept
    intro names same
    cases same
    exact made
  apply locate_ok_iff.2 ⟨isPath, _⟩
  cases followLast with
  | false => exact there
  | true => exact there.follow nofun

lemma find_eq (new : IsNew t work W) : (t.put W .directory).find work = .ok (W, .directory) := by
  apply find_ok_iff.2
  apply new.locate_of_kept _ (FileTree.node?_put_self new.ne_nil)
  intro names node found
  rw [FileTree.node?_put_of_ne, found]
  rintro rfl
  cases found.symm.trans new.node?_eq

end IsNew

/-- The path of a scratch directory ends in a digit. -/
lemma isBare_path (root name n) : IsBare (path root name n) := by
  obtain ⟨digits, d, same⟩ := (List.eq_nil_or_concat (Nat.toDigits 10 n)).resolve_left Nat.toDigits_ne_nil
  rw [List.concat_eq_append] at same
  have digit : d.isDigit := by
    apply Nat.isDigit_of_mem_toDigits (b := 10) (n := n) (by decide) (by decide)
    rw [same]
    exact List.mem_append_right _ List.mem_cons_self
  have last : (path root name n).getLast? = some d := by
    rw [path, Path.getLast?_join (by simp), same, ← List.cons_append, ← List.append_assoc,
      List.getLast?_concat]
  constructor
  · intro none
    rw [none] at last
    cases last
  · intro slash
    rw [last] at slash
    cases slash
    cases digit

/-- The name of the scratch directory with a number. -/
def entry (name : List Char) (n : Nat) : Name :=
  name ++ '_' :: Nat.toDigits 10 n

lemma slash_not_mem_entry (single : '/' ∉ name) (n) : '/' ∉ entry name n := by
  intro mem
  rcases List.mem_append.1 mem with mem | mem
  · exact single mem
  · rcases List.mem_cons.1 mem with same | mem
    · cases same
    · cases Nat.isDigit_of_mem_toDigits (by decide) (by decide) mem

lemma pieces_path (single : '/' ∉ name) (n) :
    Path.pieces (path root name n) = Path.pieces root ++ [entry name n] := by
  have single := slash_not_mem_entry single n
  rw [show path root name n = Path.join root (entry name n) from rfl,
    Path.pieces_join (Path.relative_of_name single), Path.pieces_of_name (by simp [entry]) single]

lemma isEntryName_entry {n} :
    IsEntryName (entry name n) ↔ ¬ nameLimit < byteLength (entry name n) := by
  have underscore : '_' ∈ entry name n := List.mem_append_right name List.mem_cons_self
  constructor
  · exact IsEntryName.short
  · intro short
    constructor
    · intro here
      rw [here] at underscore
      simp at underscore
    · intro up
      rw [up] at underscore
      simp at underscore
    · exact short

/-- The path of a scratch directory leads to its name in a directory, when the name is free there and the
system can have it. -/
theorem isNew_iff {n} (ne : root ≠ []) (single : '/' ∉ name) :
    IsNew t (path root name n) W ↔
      ∃ R, t.find root = .ok (R, .directory) ∧ W = R ++ [entry name n] ∧ t.node? W = none ∧
        IsPath (path root name n) ∧
        ¬ nameLimit < byteLength (entry name n) := by
  have filled : entry name n ≠ [] := by simp [entry]
  have free := FileTree.locate_free_iff (t := t) (W := W) ne filled (slash_not_mem_entry single n)
  constructor
  · intro new
    obtain ⟨isPath, R, found, written, nothing, rfl⟩ := free.1 new.free
    exact ⟨R, found, rfl, nothing, isPath, written.short⟩
  · intro ⟨R, found, same, nothing, isPath, short⟩
    refine ⟨isBare_path root name n, free.2 ⟨isPath, R, found, isEntryName_entry.2 short, ?_, same⟩⟩
    rw [← same]
    exact nothing

/-- Of `attempts` numbers from `n` on, `k` is the first whose path leads to a free name, which is `W`. -/
structure IsFirst (t : FileTree) (root name : List Char) (n attempts k : Nat) (W : List Name) : Prop where
  from_le : n ≤ k
  tried : k < n + attempts
  new : IsNew t (path root name k) W
  first : ∀ m V, n ≤ m → m < k → ¬ IsNew t (path root name m) V

section Search

variable {n attempts k : Nat} {V : List Name}

lemma isFirst_self (new : IsNew t (path root name n) W) : IsFirst t root name n (attempts + 1) n W where
  from_le := Nat.le_refl n
  tried := by omega
  new := new
  first m V le lt := absurd lt (Nat.not_lt.2 le)

lemma IsFirst.eq_of_new (least : IsFirst t root name n attempts k V)
    (new : IsNew t (path root name n) W) : k = n ∧ V = W := by
  have here : k = n := by
    by_contra other
    have later := least.from_le
    exact least.first n W (Nat.le_refl n) (by omega) new
  subst here
  cases least.new.free.symm.trans new.free
  exact ⟨rfl, rfl⟩

lemma isFirst_succ_iff (taken : ∀ V, ¬ IsNew t (path root name n) V) :
    IsFirst t root name n (attempts + 1) k W ↔ IsFirst t root name (n + 1) attempts k W := by
  constructor
  · intro ⟨le, tried, new, first⟩
    have later : n ≠ k := by
      rintro rfl
      exact taken W new
    exact ⟨by omega, by omega, new, fun m V le => first m V (by omega)⟩
  · intro ⟨le, tried, new, first⟩
    refine ⟨by omega, by omega, new, ?_⟩
    intro m V le lt
    rcases Nat.eq_or_lt_of_le le with rfl | le
    · exact taken V
    · exact first m V le lt

/-- Where there is a number whose path leads to a free name, there is a first one. -/
lemma exists_isFirst (le : n ≤ k) (tried : k < n + attempts) (new : IsNew t (path root name k) W) :
    ∃ k W, IsFirst t root name n attempts k W := by
  induction attempts generalizing n with
  | zero => omega
  | succ attempts ih =>
    by_cases here : ∃ V, IsNew t (path root name n) V
    · obtain ⟨V, new⟩ := here
      exact ⟨n, V, isFirst_self new⟩
    · have taken := not_exists.1 here
      have later : n ≠ k := by
        rintro rfl
        exact taken W new
      obtain ⟨k, W, least⟩ := ih (n := n + 1) (by omega) (by omega)
      exact ⟨k, W, (isFirst_succ_iff taken).2 least⟩

lemma makeDirectory_path_iff :
    t.makeDirectory (path root name n) = .ok u ↔
      ∃ W, IsNew t (path root name n) W ∧ u = t.put W .directory := by
  have bare := isBare_path root name n
  rw [FileTree.makeDirectory_ok_iff bare]
  constructor
  · intro ⟨W, free, same⟩
    exact ⟨W, ⟨bare, free⟩, same⟩
  · intro ⟨W, new, same⟩
    exact ⟨W, new.free, same⟩

lemma createFrom_eq_some_iff :
    createFrom t root name n attempts = some (work, t₁) ↔
      ∃ k W, IsFirst t root name n attempts k W ∧ work = path root name k ∧
        t₁ = t.put W .directory := by
  induction attempts generalizing n with
  | zero =>
    constructor
    · intro made
      cases made
    · intro ⟨k, W, least, _⟩
      exact absurd least.tried (Nat.not_lt.2 least.from_le)
  | succ attempts ih =>
    rw [createFrom]
    cases made : t.makeDirectory (path root name n) with
    | ok t' =>
      obtain ⟨W, new, rfl⟩ := makeDirectory_path_iff.1 made
      constructor
      · intro same
        cases same
        exact ⟨n, W, isFirst_self new, rfl, rfl⟩
      · intro ⟨k, V, least, work_eq, tree_eq⟩
        obtain ⟨rfl, rfl⟩ := least.eq_of_new new
        rw [work_eq, tree_eq]
    | error e =>
      have taken : ∀ V, ¬ IsNew t (path root name n) V := by
        intro V new
        cases made.symm.trans (makeDirectory_path_iff.2 ⟨V, new, rfl⟩)
      simp only [isFirst_succ_iff taken]
      exact ih

end Search

/-- A scratch directory is made under the first number whose path leads to a free name. -/
theorem create_ok_iff :
    create t root name = .ok (work, t₁) ↔
      ∃ n W, IsFirst t root name 0 maxAttempts n W ∧ work = path root name n ∧
        t₁ = t.put W .directory := by
  rw [← createFrom_eq_some_iff, create]
  cases createFrom t root name 0 maxAttempts <;> simp

lemma create_ok (made : create t root name = .ok (work, t₁)) :
    ∃ W, IsNew t work W ∧ t₁ = t.put W .directory := by
  obtain ⟨n, W, least, rfl, rfl⟩ := create_ok_iff.1 made
  exact ⟨W, least.new, rfl⟩

lemma eq_of_create_error {f} (failed : create t root name = .error f) : f = .noScratch name := by
  rw [create] at failed
  split at failed
  · cases failed
  · cases failed
    rfl

/-- No scratch directory is made when no path that is tried leads to a free name. -/
theorem create_error_iff {f} :
    create t root name = .error f ↔
      (∀ n W, n < maxAttempts → ¬ IsNew t (path root name n) W) ∧ f = .noScratch name := by
  constructor
  · intro failed
    refine ⟨?_, eq_of_create_error failed⟩
    intro n W tried new
    rw [← Nat.zero_add maxAttempts] at tried
    obtain ⟨k, V, least⟩ := exists_isFirst (Nat.zero_le n) tried new
    cases failed.symm.trans (create_ok_iff.2 ⟨k, V, least, rfl, rfl⟩)
  · intro ⟨taken, same⟩
    cases made : create t root name with
    | ok pair =>
      obtain ⟨n, W, least, _⟩ := create_ok_iff.1 made
      have tried := least.tried
      exact absurd least.new (taken n W (by omega))
    | error f' => rw [eq_of_create_error made, same]

/-- No scratch directory is made for a name that no entry can have with a number behind it. -/
lemma create_of_long (ne : root ≠ []) (single : '/' ∉ name) (long : nameLimit < name.length + 2) :
    create t root name = .error (.noScratch name) := by
  rw [create_error_iff]
  refine ⟨?_, rfl⟩
  intro n W _ new
  obtain ⟨_, _, _, _, _, short⟩ := (isNew_iff ne single).1 new
  apply short
  have digit : 0 < (Nat.toDigits 10 n).length := List.length_pos_iff.2 Nat.toDigits_ne_nil
  have bytes := FileTree.length_le_byteLength (entry name n)
  have length : (entry name n).length = name.length + (1 + (Nat.toDigits 10 n).length) := by
    simp [entry, Nat.add_comm]
  omega

/-- Nothing stands in the root, and still no directory is made there for a long name. -/
theorem create_overlong :
    let name := List.replicate 254 'a'
    '/' ∉ name ∧ ({} : FileTree).find ['/'] = .ok ([], .directory) ∧
      (∀ n, ({} : FileTree).node? [entry name n] = none) ∧
      create {} ['/'] name = .error (.noScratch name) := by
  intro name
  have single : '/' ∉ name := fun mem => nomatch List.eq_of_mem_replicate mem
  have long : nameLimit < name.length + 2 := by
    rw [List.length_replicate]
    decide
  exact ⟨single, rfl, fun _ => rfl, create_of_long (by decide) single long⟩

end Transcript.Scratch
