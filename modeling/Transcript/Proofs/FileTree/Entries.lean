import Mathlib.Data.List.Infix
import Mathlib.Tactic.Common
import Transcript.FileTree.Basic

/-!
# Entries of a file tree

What stands under some names after an entry was put or removed. Two trees that differ only below a
directory are related by `FileTree.ChangesBelow`, which every change of an entry below the directory
respects. In a tree whose entries all stand in directories nothing is below a name that is free.
-/

namespace Transcript.FileTree

open Path (Name)

variable {t u v : FileTree} {W names other : List Name} {node : Node}

section Lookup

variable {es : List (List Name × Node)}

/-- What is found under names when entries were removed by their names. -/
lemma lookup_filter (keep : List Name → Bool) :
    (es.filter fun e => keep e.1).lookup names = if keep names then es.lookup names else none := by
  induction es with
  | nil =>
    rw [List.filter_nil, List.lookup_nil, ite_self]
  | cons e es ih =>
    obtain ⟨k, n⟩ := e
    rw [List.filter_cons]
    by_cases same : names = k
    · subst same
      cases kept : keep names with
      | true => rw [if_pos rfl, if_pos rfl, List.lookup_cons_self, List.lookup_cons_self]
      | false => rw [if_neg Bool.false_ne_true, if_neg Bool.false_ne_true, ih, kept,
          if_neg Bool.false_ne_true]
    · have ne : (names == k) = false := beq_false_of_ne same
      cases keep k with
      | true => rw [if_pos rfl, List.lookup_cons, List.lookup_cons, ne, ih]
      | false => rw [if_neg Bool.false_ne_true, List.lookup_cons, ne, ih]

/-- A node in the place of others is found where one of them was found. -/
lemma lookup_replace_self :
    (es.map fun e => if e.1 == names then (names, node) else e).lookup names =
      (es.lookup names).map fun _ => node := by
  induction es with
  | nil => rfl
  | cons e es ih =>
    obtain ⟨k, n⟩ := e
    by_cases same : k = names
    · subst same
      rw [List.map_cons, if_pos (beq_self_eq_true k), List.lookup_cons_self, List.lookup_cons_self]
      rfl
    · have ne : (names == k) = false := beq_false_of_ne (Ne.symm same)
      rw [List.map_cons, if_neg (by simpa using same), List.lookup_cons, List.lookup_cons, ne, ih]

lemma lookup_replace_of_ne (h : other ≠ names) :
    (es.map fun e => if e.1 == names then (names, node) else e).lookup other = es.lookup other := by
  induction es with
  | nil => rfl
  | cons e es ih =>
    obtain ⟨k, n⟩ := e
    by_cases same : k = names
    · subst same
      have ne : (other == k) = false := beq_false_of_ne h
      rw [List.map_cons, if_pos (beq_self_eq_true k), List.lookup_cons, List.lookup_cons, ne, ih]
    · rw [List.map_cons, if_neg (by simpa using same), List.lookup_cons, List.lookup_cons, ih]

end Lookup

section Nodes

lemma node?_eq_lookup (h : names ≠ []) : t.node? names = t.entries.lookup names := by
  rw [node?, List.isEmpty_eq_false_iff.2 h]
  rfl

/-- What stands under names other than the root's has an entry. -/
lemma mem_entries_of_node? (ne : names ≠ []) (found : t.node? names = some node) : (names, node) ∈ t.entries := by
  rw [node?_eq_lookup ne] at found
  obtain ⟨before, behind, split, _⟩ := List.lookup_eq_some_iff.1 found
  rw [split]
  exact List.mem_append_right _ List.mem_cons_self

/-- What was put stands under its names. -/
lemma node?_put_self (h : names ≠ []) : (t.put names node).node? names = some node := by
  rw [node?_eq_lookup h, put]
  split
  · rename_i taken
    rw [lookup_replace_self]
    cases found : t.entries.lookup names with
    | some n => rfl
    | none =>
      obtain ⟨e, he, same⟩ := List.any_eq_true.1 taken
      have ne := List.lookup_eq_none_iff.1 found e he
      rw [bne_iff_ne] at ne
      exact absurd (beq_iff_eq.1 same).symm ne
  · rename_i free
    have found : t.entries.lookup names = none := by
      rw [List.lookup_eq_none_iff]
      intro e he
      rw [bne_iff_ne]
      intro same
      apply free
      exact List.any_eq_true.2 ⟨e, he, beq_iff_eq.2 same.symm⟩
    rw [List.lookup_append, found, Option.none_or, List.lookup_cons_self]

lemma node?_put_of_ne (h : other ≠ names) : (t.put names node).node? other = t.node? other := by
  by_cases root : other = []
  · rw [root]
    rfl
  · rw [node?_eq_lookup root, node?_eq_lookup root, put]
    split
    · exact lookup_replace_of_ne h
    · have ne : (other == names) = false := beq_false_of_ne h
      rw [List.lookup_append, List.lookup_cons, ne, List.lookup_nil, Option.or_none]

/-- Nothing stands under names that were removed. -/
lemma node?_erase_self (h : names ≠ []) : (t.erase names).node? names = none := by
  rw [node?_eq_lookup h, erase, lookup_filter (· != names), bne_self_eq_false, if_neg Bool.false_ne_true]

lemma node?_erase_of_ne (h : other ≠ names) : (t.erase names).node? other = t.node? other := by
  by_cases root : other = []
  · rw [root]
    rfl
  · rw [node?_eq_lookup root, node?_eq_lookup root, erase, lookup_filter (· != names),
      if_pos (bne_iff_ne.2 h)]

/-- What is left when an entry was removed was there before. -/
lemma node?_of_erase (found : (t.erase names).node? other = some node) : t.node? other = some node := by
  by_cases same : other = names
  · subst same
    by_cases root : other = []
    · subst root
      exact found
    · rw [node?_erase_self root] at found
      cases found
  · rwa [node?_erase_of_ne same] at found

/-- What is not below a directory stays when the directory is removed. -/
lemma node?_eraseBelow (h : ¬ W <+: names) : (t.eraseBelow W).node? names = t.node? names := by
  by_cases root : names = []
  · rw [root]
    rfl
  · have kept : (!W.isPrefixOf names) = true := by
      rw [Bool.not_eq_true', ← Bool.not_eq_true, List.isPrefixOf_iff_prefix]
      exact h
    rw [node?_eq_lookup root, node?_eq_lookup root, eraseBelow, lookup_filter (!W.isPrefixOf ·),
      if_pos kept]

/-- An entry that was put is removed with the directory above it. -/
lemma eraseBelow_put (h : W <+: names) : (t.put names node).eraseBelow W = t.eraseBelow W := by
  have gone : W.isPrefixOf names = true := List.isPrefixOf_iff_prefix.2 h
  rw [put, eraseBelow, eraseBelow]
  split
  · congr 1
    induction t.entries with
    | nil => rfl
    | cons e es ih =>
      obtain ⟨k, n⟩ := e
      rw [List.map_cons]
      by_cases same : k = names
      · subst same
        rw [if_pos (beq_self_eq_true k), List.filter_cons_of_neg (by simp [gone]),
          List.filter_cons_of_neg (by simp [gone]), ih]
      · rw [if_neg (by simpa using same), List.filter_cons, List.filter_cons, ih]
  · rw [List.filter_append, List.filter_singleton, gone]
    simp

lemma eraseBelow_erase (h : W <+: names) : (t.erase names).eraseBelow W = t.eraseBelow W := by
  have gone : W.isPrefixOf names = true := List.isPrefixOf_iff_prefix.2 h
  rw [erase, eraseBelow, eraseBelow, List.filter_filter]
  congr 1
  apply List.filter_congr
  intro e _
  by_cases same : e.1 = names
  · rw [same, gone]
    rfl
  · rw [bne_iff_ne.2 same, Bool.and_true]

end Nodes

/-- Names that lead to a place below a directory. -/
def IsBelow (W names : List Name) : Prop :=
  W <+: names ∧ names ≠ W

/-- The names of an entry of a directory below `W`, or of `W` itself, are below `W`. -/
lemma isBelow_append (below : List Name) (n : Name) : IsBelow W (W ++ below ++ [n]) := by
  constructor
  · rw [List.append_assoc]
    exact List.prefix_append W _
  · intro same
    have lengths := congrArg List.length same
    simp only [List.length_append, List.length_singleton] at lengths
    omega

lemma IsBelow.ne_nil (h : IsBelow W names) : names ≠ [] := by
  intro root
  subst root
  exact h.2 (List.prefix_nil.1 h.1).symm

/-- A tree differs from another one only below a directory, and it has no link that the other one has
not. -/
structure ChangesBelow (W : List Name) (t u : FileTree) : Prop where
  outside : u.eraseBelow W = t.eraseBelow W
  top : u.node? W = t.node? W
  links : ∀ names target, u.node? names = some (.link target) → t.node? names = some (.link target)

namespace ChangesBelow

lemma refl (W : List Name) (t : FileTree) : ChangesBelow W t t :=
  ⟨rfl, rfl, fun _ _ h => h⟩

lemma trans (h : ChangesBelow W t u) (h' : ChangesBelow W u v) : ChangesBelow W t v :=
  ⟨h'.outside.trans h.outside, h'.top.trans h.top, fun names target found =>
    h.links names target (h'.links names target found)⟩

/-- What is not below the directory is the same. -/
lemma node?_eq (h : ChangesBelow W t u) (not_below : ¬ IsBelow W names) :
    u.node? names = t.node? names := by
  by_cases same : names = W
  · rw [same]
    exact h.top
  · have apart : ¬ W <+: names := fun above => not_below ⟨above, same⟩
    rw [← node?_eraseBelow apart, h.outside, node?_eraseBelow apart]

/-- What is no link may be put below the directory. -/
lemma put (h : IsBelow W names) (plain : ∀ target, node ≠ .link target) :
    ChangesBelow W t (t.put names node) where
  outside := eraseBelow_put h.1
  top := node?_put_of_ne (Ne.symm h.2)
  links other target found := by
    by_cases same : other = names
    · rw [same, node?_put_self h.ne_nil] at found
      exact absurd (Option.some.inj found) (plain target)
    · rwa [node?_put_of_ne same] at found

/-- What is below the directory may be removed. -/
lemma erase (h : IsBelow W names) : ChangesBelow W t (t.erase names) where
  outside := eraseBelow_erase h.1
  top := node?_erase_of_ne (Ne.symm h.2)
  links _ _ := node?_of_erase

end ChangesBelow

/-- Every entry stands in a directory. -/
def IsTree (t : FileTree) : Prop :=
  ∀ e ∈ t.entries, t.node? e.1.dropLast = some .directory

instance (t : FileTree) : Decidable t.IsTree :=
  List.decidableBAll _ t.entries

/-- Nothing is below names that stand for nothing. -/
lemma IsTree.not_mem_of_free (tree : t.IsTree) (ne : W ≠ []) (free : t.node? W = none) (rest node) :
    (W ++ rest, node) ∉ t.entries := by
  rw [node?_eq_lookup ne, List.lookup_eq_none_iff] at free
  -- from below: what stands there stands in a directory, which would stand below `W` as well
  induction rest using List.reverseRecOn generalizing node with
  | nil =>
    intro mem
    have other := free _ mem
    rw [List.append_nil, bne_self_eq_false] at other
    cases other
  | append_singleton rest n ih =>
    intro mem
    have above := tree _ mem
    rw [← List.append_assoc, List.dropLast_concat] at above
    exact ih .directory (mem_entries_of_node? (by simp [ne]) above)

lemma mem_namesIn {n} : n ∈ t.namesIn W ↔ ∃ node, (W ++ [n], node) ∈ t.entries := by
  rw [namesIn, List.mem_filterMap]
  constructor
  · intro ⟨e, mem, last⟩
    split at last
    · rename_i here
      rw [Bool.and_eq_true, beq_iff_eq] at here
      refine ⟨e.2, ?_⟩
      rw [← here.1, List.dropLast_append_getLast? n last]
      exact mem
    · cases last
  · intro ⟨node, mem⟩
    exact ⟨_, mem, by simp⟩

/-- A directory that was made under a free name is empty. -/
lemma IsTree.namesIn_put (tree : t.IsTree) (ne : W ≠ []) (free : t.node? W = none) :
    (t.put W .directory).namesIn W = [] := by
  rw [List.eq_nil_iff_forall_not_mem]
  intro n mem
  obtain ⟨node, mem⟩ := mem_namesIn.1 mem
  rw [put, if_neg] at mem
  · rcases List.mem_append.1 mem with mem | mem
    · exact tree.not_mem_of_free ne free [n] node mem
    · simp at mem
  · intro taken
    obtain ⟨e, mem, same⟩ := List.any_eq_true.1 taken
    apply tree.not_mem_of_free ne free [] e.2
    rw [List.append_nil, ← beq_iff_eq.1 same]
    exact mem

/-- What stands for something is not below names that stand for nothing. -/
lemma IsTree.not_prefix_of_free (tree : t.IsTree) (ne : W ≠ []) (free : t.node? W = none)
    (found : t.node? names = some node) : ¬ W <+: names := by
  intro above
  obtain ⟨rest, rfl⟩ := above
  exact tree.not_mem_of_free ne free rest node (mem_entries_of_node? (by simp [ne]) found)

/-- Removing what stands for nothing changes nothing. -/
lemma IsTree.eraseBelow_of_free (tree : t.IsTree) (ne : W ≠ []) (free : t.node? W = none) :
    t.eraseBelow W = t := by
  have kept : ∀ e ∈ t.entries, (!W.isPrefixOf e.1) = true := by
    intro e mem
    rw [Bool.not_eq_true', ← Bool.not_eq_true, List.isPrefixOf_iff_prefix]
    intro above
    obtain ⟨rest, same⟩ := above
    apply tree.not_mem_of_free ne free rest e.2
    rw [same]
    exact mem
  rw [eraseBelow, List.filter_eq_self.2 kept]

end Transcript.FileTree
