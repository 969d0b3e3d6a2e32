import Mathlib.Tactic.Common
import Transcript.Unicode.CharSet

/-!
# Members of sets of characters

What the operations of `CharSet` do to the members. Intervals that are inserted may be in any order and
may be empty.
-/

namespace Transcript.Unicode.CharSet

/-- Some interval of several has a number between its ends. -/
def Within (is : List (Nat × Nat)) (n : Nat) : Prop :=
  ∃ i ∈ is, i.1 ≤ n ∧ n ≤ i.2

/-- Membership is to lie in an interval. -/
lemma containsCode_iff {s : CharSet} {n} : s.containsCode n = true ↔ Within s.intervals n := by
  simp only [containsCode, List.any_eq_true, Bool.and_eq_true, decide_eq_true_eq, Within]

/-- The first interval of several decides, or one of the others. -/
lemma within_cons {i is n} : Within (i :: is) n ↔ (i.1 ≤ n ∧ n ≤ i.2) ∨ Within is n := by
  simp only [Within, List.mem_cons, exists_eq_or_imp]

/-- An interval that is inserted adds its numbers. -/
lemma within_insertInterval {a b n} {is : List (Nat × Nat)} :
    Within (insertInterval a b is) n ↔ (a ≤ n ∧ n ≤ b) ∨ Within is n := by
  induction is generalizing a b with
  | nil => rw [insertInterval, within_cons]
  | cons i is ih =>
    obtain ⟨c, d⟩ := i
    rw [insertInterval]
    split
    · rw [within_cons]
    · split
      · rw [within_cons, ih, within_cons]
        tauto
      · -- Intervals that touch cover no more than the two of them, even where one is empty.
        have joined : (min a c ≤ n ∧ n ≤ max b d) ↔ (a ≤ n ∧ n ≤ b) ∨ (c ≤ n ∧ n ≤ d) := by
          omega
        rw [ih, within_cons, joined, or_assoc]

/-- Several intervals that are inserted add their numbers. -/
lemma within_foldl_insertInterval {n} {is js : List (Nat × Nat)} :
    Within (js.foldl (fun acc i => insertInterval i.1 i.2 acc) is) n ↔ Within is n ∨ Within js n := by
  induction js generalizing is with
  | nil =>
    simp only [List.foldl_nil, Within, List.not_mem_nil, false_and, exists_false, or_false]
  | cons j js ih =>
    rw [List.foldl_cons, ih, within_insertInterval, within_cons]
    tauto

/-- The members of a union. -/
lemma contains_union {s t : CharSet} {c} :
    (s.union t).contains c = true ↔ s.contains c = true ∨ t.contains c = true := by
  rw [contains, contains, contains, containsCode_iff, containsCode_iff, containsCode_iff]
  exact within_foldl_insertInterval

/-- The empty set has no members. -/
lemma contains_empty (c) : empty.contains c = false := rfl

/-- The members of intervals. -/
lemma contains_ofIntervals {is c} :
    (ofIntervals is).contains c = true ↔ Within is c.toNat := by
  rw [ofIntervals, contains_union, contains_empty, contains, containsCode_iff]
  simp only [Bool.false_eq_true, false_or]

/-- A union of several sets has the members of each. -/
lemma contains_foldl_union {ss : List CharSet} {s c} :
    (ss.foldl union s).contains c = true ↔ s.contains c = true ∨ ∃ t ∈ ss, t.contains c = true := by
  induction ss generalizing s with
  | nil => simp only [List.foldl_nil, List.not_mem_nil, false_and, exists_false, or_false]
  | cons t ss ih =>
    rw [List.foldl_cons, ih, contains_union, or_assoc]
    simp only [List.mem_cons, exists_eq_or_imp]

/-- The only member of a set of one character is a member, and no other character is. -/
lemma contains_of_singleton? {s : CharSet} {c d} (h : s.singleton? = some c) :
    s.contains d = true ↔ c = d := by
  unfold singleton? at h
  split at h
  · rename_i a b e
    split at h
    · rename_i valid
      obtain ⟨rfl, valid⟩ := valid
      cases h
      rw [contains, containsCode_iff, e, within_cons]
      simp only [Within, List.not_mem_nil, false_and, exists_false, or_false]
      constructor
      · rintro ⟨low, high⟩
        rw [Nat.le_antisymm low high, Char.ofNat_toNat]
      · rintro rfl
        have code : (Char.ofNat a).toNat = a := by
          rw [Char.ofNat, dif_pos valid]
          rfl
        rw [code]
        exact ⟨Nat.le_refl a, Nat.le_refl a⟩
    · cases h
  · cases h

end Transcript.Unicode.CharSet
