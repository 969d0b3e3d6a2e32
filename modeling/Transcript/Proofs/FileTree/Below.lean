import Mathlib.Data.List.Nodup
import Mathlib.Data.List.Perm.Subperm
import Mathlib.Tactic.Common
import Transcript.Proofs.FileTree.Paths

/-!
# What is below a directory

Names under a directory are spelled as the directory's path with the names behind it, whose steps are those of the
directory and the names (`Path.components_under`). In a tree without links such a path leads to what stands under
the names (`FileTree.IsPlain.find_join`), and no names are longer than there are entries
(`FileTree.IsTree.length_le`).
-/

namespace Transcript

namespace FileTree

open Path (Name)

/-- A name under which an entry can stand. -/
structure IsFileName (n : Name) : Prop where
  filled : n ≠ []
  single : '/' ∉ n
  no_nul : '\x00' ∉ n
  entry : IsEntryName n

instance (n : Name) : Decidable (IsEntryName n) :=
  decidable_of_iff (n ≠ ['.'] ∧ n ≠ ['.', '.'] ∧ ¬ nameLimit < byteLength n)
    ⟨fun ⟨h, h', h''⟩ => ⟨h, h', h''⟩, fun h => ⟨h.not_here, h.not_up, h.short⟩⟩

instance (n : Name) : Decidable (IsFileName n) :=
  decidable_of_iff (n ≠ [] ∧ '/' ∉ n ∧ '\x00' ∉ n ∧ IsEntryName n)
    ⟨fun ⟨h, h', h'', h'''⟩ => ⟨h, h', h'', h'''⟩, fun h => ⟨h.filled, h.single, h.no_nul, h.entry⟩⟩

end FileTree

namespace Path

open FileTree (IsFileName)

variable {p q dir : List Char} {n : Name} {names : List Name}

/-- The path of names under a directory. -/
def under (dir : List Char) (names : List Name) : List Char :=
  join dir (List.intercalate ['/'] names)

section Joining

lemma isAbsolute_append (ne : p ≠ []) (q) : isAbsolute (p ++ q) = isAbsolute p := by
  rw [isAbsolute, isAbsolute, List.head?_append_of_ne_nil p ne]

/-- What stands behind the path of a directory is the same behind every directory that ends as it does. -/
lemma join_eq_append (ne : p ≠ []) (relative : isAbsolute q = false) :
    join p q = p ++ if p.getLast? = some '/' then q else '/' :: q := by
  rw [join, relative, List.isEmpty_eq_false_iff.2 ne]
  by_cases slash : p.getLast? = some '/' <;> simp [slash]

lemma join_append (ne : p ≠ []) (relative : isAbsolute p = false) (q) : join dir (p ++ q) = join dir p ++ q := by
  by_cases root : dir = []
  · subst root
    simp [join]
  · rw [join_eq_append root ((isAbsolute_append ne q).trans relative), join_eq_append root relative]
    split <;> simp

lemma join_ne_nil_of_right (ne : q ≠ []) (p) : join p q ≠ [] := by
  intro none
  have last := getLast?_join (p := p) ne
  rw [none, List.getLast?_nil] at last
  exact ne (List.getLast?_eq_none_iff.1 last.symm)

/-- A path in a directory of a directory. -/
lemma join_join (ne : dir ≠ []) (relative : isAbsolute q = false) (here) :
    join here (join dir q) = join (join here dir) q := by
  cases absolute : isAbsolute dir with
  | true =>
    obtain ⟨s, joined⟩ := exists_join_eq (p := dir) relative
    have same : isAbsolute (join dir q) = true := by
      rw [joined, isAbsolute_append ne, absolute]
    simp [join.eq_def here, absolute, same]
  | false =>
    rw [join_eq_append ne relative, join_append ne absolute,
      join_eq_append (join_ne_nil_of_right ne here) relative, getLast?_join ne]

end Joining

section Steps

/-- A name in a directory is one more step. -/
lemma components_join (ne : p ≠ []) (name : IsFileName n) : components (join p n) = components p ++ [.name n] := by
  have relative := relative_of_name name.single
  have rooted : isAbsolute (join p n) = isAbsolute p := by
    rw [join_eq_append ne relative, isAbsolute_append ne]
  have step : component? n = some (.name n) := by
    rw [component?, if_neg name.entry.not_here, if_neg name.entry.not_up]
  have here : (pieces (join p n)).head? = some ['.'] ↔ (pieces p).head? = some ['.'] := by
    rw [pieces_join relative, pieces_of_name name.filled name.single]
    cases pieces p with
    | nil => simpa using name.entry.not_here
    | cons m ps => rfl
  have steps : (pieces (join p n)).filterMap component? = (pieces p).filterMap component? ++ [.name n] := by
    rw [pieces_join relative, pieces_of_name name.filled name.single, List.filterMap_append]
    simp [step]
  simp only [components, rooted, steps, beq_iff_eq, here]
  split
  · rfl
  · split <;> rfl

lemma fileName?_join (ne : p ≠ []) (name : IsFileName n) : fileName? (join p n) = some n := by
  rw [fileName?, components_join ne name, List.getLast?_concat]

/-- A name has an extension without dots when it ends in a dot and the extension, with something in front. -/
lemma splitName_eq_some_iff {ext : List Char} (dotless : '.' ∉ ext) :
    (splitName n).2 = some ext ↔ ∃ stem, stem ≠ [] ∧ n = stem ++ '.' :: ext := by
  rw [splitName, List.span_eq_takeWhile_dropWhile]
  have whole : n.reverse.takeWhile (· ≠ '.') ++ n.reverse.dropWhile (· ≠ '.') = n.reverse :=
    List.takeWhile_append_dropWhile
  constructor
  · intro cut
    have first := List.head?_dropWhile_not (fun c : Char => decide (c ≠ '.')) n.reverse
    cases rest : n.reverse.dropWhile (· ≠ '.') with
    | nil =>
      simp only [rest] at cut
      cases cut
    | cons a before =>
      cases before with
      | nil =>
        simp only [rest] at cut
        cases cut
      | cons b before =>
        simp only [rest] at cut first whole
        cases cut
        have dot : a = '.' := by simpa using first
        subst dot
        have back := congrArg List.reverse whole
        rw [List.reverse_reverse, List.reverse_append, List.reverse_cons, List.append_assoc] at back
        exact ⟨(b :: before).reverse, by simp, back.symm⟩
  · rintro ⟨stem, filled, rfl⟩
    have free : ∀ c ∈ ext.reverse, decide (c ≠ '.') = true := by
      intro c mem
      have other : c ≠ '.' := fun dot => dotless (dot ▸ List.mem_reverse.1 mem)
      exact decide_eq_true other
    have reversed : (stem ++ '.' :: ext).reverse = ext.reverse ++ '.' :: stem.reverse := by simp
    rw [reversed, List.takeWhile_append_of_pos free, List.dropWhile_append_of_pos free]
    cases behind : stem.reverse with
    | nil => exact absurd (List.reverse_eq_nil_iff.1 behind) filled
    | cons b before => simp

end Steps

section Under

lemma under_singleton (dir n) : under dir [n] = join dir n := by
  rw [under]
  simp [List.intercalate]

/-- Names under a directory in a directory. -/
lemma under_cons (ne : dir ≠ []) (name : IsFileName n) (filled : names ≠ [])
    (named : ∀ m ∈ names, IsFileName m) : under dir (n :: names) = under (join dir n) names := by
  obtain ⟨m, rest, rfl⟩ := List.exists_cons_of_ne_nil filled
  have first := named m List.mem_cons_self
  have relative : isAbsolute (List.intercalate ['/'] (m :: rest)) = false := by
    obtain ⟨s, written⟩ : ∃ s, List.intercalate ['/'] (m :: rest) = m ++ s := by
      cases rest with
      | nil => exact ⟨[], by simp [List.intercalate]⟩
      | cons k rest => exact ⟨_, List.intercalate_cons_cons.trans (List.append_assoc _ _ _)⟩
    rw [written, isAbsolute_append first.filled, relative_of_name first.single]
  have bare := isBare_join ne name.filled name.single
  rw [under, under, List.intercalate_cons_cons, List.append_assoc,
    join_append name.filled (relative_of_name name.single), bare.join_eq relative]
  rfl

/-- The steps of names under a directory are the steps of the directory and the names. -/
theorem components_under (ne : dir ≠ []) (filled : names ≠ []) (named : ∀ n ∈ names, IsFileName n) :
    components (under dir names) = components dir ++ names.map .name := by
  induction names generalizing dir with
  | nil => exact absurd rfl filled
  | cons n names ih =>
    have name := named n List.mem_cons_self
    have others : ∀ m ∈ names, IsFileName m := fun m hm => named m (List.mem_cons_of_mem n hm)
    by_cases last : names = []
    · subst last
      rw [under_singleton, components_join ne name]
      rfl
    · rw [under_cons ne name last others, ih (join_ne_nil ne n) last others, components_join ne name,
        List.append_assoc]
      rfl

end Under

end Path

namespace FileTree

open Path (Name)

variable {t : FileTree} {W rel names : List Name} {node : Node} {n : Name} {dir : List Char}

/-- A tree without links: entries stand in directories, under names of their own. -/
structure IsPlain (t : FileTree) : Prop where
  tree : t.IsTree
  distinct : (t.entries.map Prod.fst).Nodup
  named : ∀ e ∈ t.entries, ∀ n ∈ e.1, IsFileName n
  plain : ∀ e ∈ t.entries, ∀ target, e.2 ≠ .link target

section Entries

/-- What stands in a directory has the directory above it. -/
lemma IsTree.node?_above (tree : t.IsTree) (found : t.node? (names ++ [n]) = some node) :
    t.node? names = some .directory := by
  have above := tree _ (mem_entries_of_node? (by simp) found)
  rwa [List.dropLast_concat] at above

/-- What something stands below is a directory. -/
lemma IsTree.directory_above (tree : t.IsTree) (filled : rel ≠ []) (found : (t.node? (W ++ rel)).isSome) :
    t.node? W = some .directory := by
  induction rel using List.reverseRecOn with
  | nil => exact absurd rfl filled
  | append_singleton rel n ih =>
    obtain ⟨node, found⟩ := Option.isSome_iff_exists.1 found
    rw [← List.append_assoc] at found
    have above := tree.node?_above found
    by_cases last : rel = []
    · rwa [last, List.append_nil] at above
    · exact ih last (Option.isSome_of_mem above)

/-- Something stands under all names with which names begin that something stands under. -/
lemma IsTree.isSome_above (tree : t.IsTree) (found : (t.node? (W ++ rel)).isSome) : (t.node? W).isSome := by
  by_cases last : rel = []
  · rwa [last, List.append_nil] at found
  · exact Option.isSome_of_mem (tree.directory_above last found)

/-- Names that something stands under are at most as many as there are entries. -/
lemma IsTree.length_le (tree : t.IsTree) (found : (t.node? names).isSome) : names.length ≤ t.entries.length := by
  -- each beginning of the names is that of an entry
  have entries : (List.range names.length).map (fun k => names.take (k + 1)) ⊆ t.entries.map Prod.fst := by
    intro above mem
    obtain ⟨k, within, rfl⟩ := List.mem_map.1 mem
    have filled : names.take (k + 1) ≠ [] := by
      intro none
      have lengths := congrArg List.length none
      rw [List.length_take, List.length_nil] at lengths
      rw [List.mem_range] at within
      omega
    rw [← List.take_append_drop (k + 1) names] at found
    obtain ⟨node, stands⟩ := Option.isSome_iff_exists.1 (tree.isSome_above found)
    exact List.mem_map.2 ⟨_, mem_entries_of_node? filled stands, rfl⟩
  have distinct : ((List.range names.length).map fun k => names.take (k + 1)).Nodup := by
    refine List.Nodup.map_on (fun j hj k hk same => ?_) List.nodup_range
    rw [List.mem_range] at hj hk
    have lengths := congrArg List.length same
    rw [List.length_take, List.length_take] at lengths
    omega
  have bound := (distinct.subperm entries).length_le
  rwa [List.length_map, List.length_map, List.length_range] at bound

end Entries

section Names

/-- What a directory's own list says of an entry: the last of its names when the others are the directory's. -/
lemma nameIn_eq_some_iff :
    (if names.dropLast == W && !names.isEmpty then names.getLast? else none) = some n ↔ names = W ++ [n] := by
  rcases List.eq_nil_or_concat names with rfl | ⟨above, m, rfl⟩
  · simp
  · by_cases same : above = W <;> simp [same]

variable (plain : t.IsPlain)

include plain

lemma IsPlain.node?_of_mem (mem : (names, node) ∈ t.entries) (ne : names ≠ []) : t.node? names = some node := by
  obtain ⟨before, behind, split⟩ := List.append_of_mem mem
  rw [node?_eq_lookup ne, List.lookup_eq_some_iff]
  refine ⟨before, behind, split, fun e he => ?_⟩
  have distinct := plain.distinct
  rw [split, List.map_append, List.map_cons, List.nodup_append] at distinct
  exact bne_iff_ne.2 fun same => distinct.2.2 e.1 (List.mem_map_of_mem he) _ List.mem_cons_self same.symm

lemma IsPlain.isFileName (found : (t.node? names).isSome) : ∀ n ∈ names, IsFileName n := by
  intro n mem
  obtain ⟨node, found⟩ := Option.isSome_iff_exists.1 found
  exact plain.named _ (mem_entries_of_node? (List.ne_nil_of_mem mem) found) n mem

lemma IsPlain.node?_ne_link (names target) : t.node? names ≠ some (.link target) := by
  intro found
  by_cases root : names = []
  · subst root
    cases found
  · exact plain.plain _ (mem_entries_of_node? root found) target rfl

/-- A directory has the names under which something stands in it. -/
lemma IsPlain.mem_namesIn : n ∈ t.namesIn W ↔ (t.node? (W ++ [n])).isSome := by
  rw [FileTree.mem_namesIn]
  constructor
  · intro ⟨node, mem⟩
    exact Option.isSome_of_mem (plain.node?_of_mem mem (by simp))
  · intro found
    obtain ⟨node, found⟩ := Option.isSome_iff_exists.1 found
    exact ⟨node, mem_entries_of_node? (by simp) found⟩

/-- No name stands in a directory twice. -/
lemma IsPlain.nodup_namesIn (W) : (t.namesIn W).Nodup := by
  have mapped : t.namesIn W = (t.entries.map Prod.fst).filterMap fun names =>
      if names.dropLast == W && !names.isEmpty then names.getLast? else none := by
    rw [namesIn, List.filterMap_map]
    rfl
  rw [mapped]
  refine plain.distinct.filterMap fun names names' n named named' => ?_
  rw [Option.mem_def, nameIn_eq_some_iff] at named named'
  exact named.trans named'.symm

/-- The path of a name in a directory leads to what stands under the name. -/
theorem IsPlain.find_join (found : t.find dir = .ok (W, .directory)) (there : t.node? (W ++ [n]) = some node)
    (short : byteLength (Path.join dir n) ≤ pathLimit) : t.find (Path.join dir n) = .ok (W ++ [n], node) := by
  have name : IsFileName n := plain.isFileName (Option.isSome_of_mem there) n (by simp)
  have relative := Path.relative_of_name name.single
  rw [find_ok_iff, locate_ok_iff] at found ⊢
  obtain ⟨path, leads⟩ := found
  have bare := Path.isBare_join path.ne_nil name.filled name.single
  refine ⟨⟨?_, bare.ne_nil, Nat.not_lt.2 short⟩, ?_⟩
  · rw [Path.join_eq_append path.ne_nil relative]
    have no_nul := path.no_nul
    simp only [List.contains_eq_mem, decide_eq_false_iff_not] at no_nul ⊢
    split <;> simp [no_nul, name.no_nul]
  · rw [pathNames_of_bare bare, Path.pieces_join relative, Path.pieces_of_name name.filled name.single,
      leads_append_iff (List.cons_ne_nil n [])]
    obtain ⟨fewer, enters⟩ := enters_iff.2 (leads_pathNames_iff.1 leads)
    refine ⟨fewer, W, enters, ?_⟩
    by_cases directory : node = .directory
    · subst directory
      exact .step (.directory name.entry there) (.stop .arrived)
    · refine .stop (.file name.entry there directory fun target link => ?_)
      exact plain.node?_ne_link _ target (link ▸ there)

end Names

end FileTree

end Transcript
