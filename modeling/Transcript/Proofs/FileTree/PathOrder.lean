import Mathlib.Data.List.Lex
import Mathlib.Data.List.Nodup
import Mathlib.Tactic.Common
import Mathlib.Tactic.SplitIfs
import Transcript.Proofs.FileTree.Paths

/-!
# Order of paths

Paths are compared step by step and names by their bytes (`Path.Precedes`). A smaller code point has smaller bytes,
so that comparing names by code points comes to the same (`Path.nameLe_iff`), and sorting paths without duplicates
puts them in a strictly increasing order (`Path.pairwise_mergeSort`), of which there is one for the same paths
(`Path.eq_of_precedes`).
-/

namespace Transcript

namespace Text

/-- The bytes of a text. -/
def byteValues (s : List Char) : List Nat :=
  s.flatMap fun c => (String.utf8EncodeChar c).map UInt8.toNat

/-- The bytes of the character with a code point. -/
def codeBytes (v : Nat) : List Nat :=
  if v ≤ 0x7F then [v]
  else if v ≤ 0x7FF then [v / 64 + 192, v % 64 + 128]
  else if v ≤ 0xFFFF then [v / 4096 + 224, v / 64 % 64 + 128, v % 64 + 128]
  else [v / 262144 + 240, v / 4096 % 64 + 128, v / 64 % 64 + 128, v % 64 + 128]

variable {v w : Nat} {m n : List Char}

lemma toNat_lt (c : Char) : c.toNat < 0x110000 := by
  have valid := c.valid
  simp only [UInt32.isValidChar, Nat.isValidChar] at valid
  rw [Char.toNat]
  omega

lemma map_utf8EncodeChar (c : Char) : (String.utf8EncodeChar c).map UInt8.toNat = codeBytes c.toNat := by
  have bound := toNat_lt c
  rw [Char.toNat] at bound ⊢
  unfold String.utf8EncodeChar codeBytes
  generalize c.val.toNat = v at bound
  dsimp only
  split_ifs <;> simp <;> omega

lemma byteValues_cons (c n) : byteValues (c :: n) = codeBytes c.toNat ++ byteValues n := by
  rw [byteValues, List.flatMap_cons, map_utf8EncodeChar]
  rfl

/-- A smaller code point has smaller bytes, whatever follows. -/
lemma codeBytes_lt (lt : v < w) (x y) : codeBytes v ++ x < codeBytes w ++ y := by
  unfold codeBytes
  split_ifs <;> simp only [List.cons_append, List.nil_append, List.cons_lt_cons_iff] <;> omega

lemma byteValues_lt {a b : Char} (lt : a.toNat < b.toNat) (m n) :
    byteValues (a :: m) < byteValues (b :: n) := by
  rw [byteValues_cons, byteValues_cons]
  exact codeBytes_lt lt _ _

lemma append_lt_append_iff {l x y : List Nat} : l ++ x < l ++ y ↔ x < y := by
  induction l with
  | nil => exact Iff.rfl
  | cons a l ih => simp [ih]

lemma byteValues_nil_lt (c n) : byteValues [] < byteValues (c :: n) := by
  rw [byteValues_cons, codeBytes]
  split_ifs <;> exact List.nil_lt_cons _ _

/-- Texts that differ have bytes of which one comes before the other. -/
lemma eq_of_byteValues_eq (same : byteValues m = byteValues n) : m = n := by
  induction m generalizing n with
  | nil =>
    cases n with
    | nil => rfl
    | cons b n => exact absurd same (byteValues_nil_lt b n).ne
  | cons a m ih =>
    cases n with
    | nil => exact absurd same (byteValues_nil_lt a m).ne'
    | cons b n =>
      rcases Nat.lt_trichotomy a.toNat b.toNat with lt | values | gt
      · exact absurd same (byteValues_lt lt m n).ne
      · cases Char.toNat_inj.1 values
        rw [byteValues_cons, byteValues_cons] at same
        rw [ih (List.append_cancel_left same)]
      · exact absurd same (byteValues_lt gt n m).ne'

end Text

namespace Path

open Text (byteValues byteValues_cons byteValues_lt byteValues_nil_lt)

variable {m n : Name} {c d : Component} {cs ds : List Component} {p q : List Char}

/-- Names are compared by code points as they are by bytes. -/
lemma nameLe_iff : nameLe m n = true ↔ ¬ byteValues n < byteValues m := by
  induction m generalizing n with
  | nil => exact iff_of_true rfl (List.not_lt_nil _)
  | cons a m ih =>
    cases n with
    | nil => exact iff_of_false Bool.false_ne_true (not_not_intro (byteValues_nil_lt a m))
    | cons b n =>
      rw [nameLe]
      by_cases same : a = b
      · subst same
        rw [if_pos rfl, ih, byteValues_cons, byteValues_cons, Text.append_lt_append_iff]
      · rw [if_neg same, decide_eq_true_iff]
        have differ : a.toNat ≠ b.toNat := fun values => same (Char.toNat_inj.1 values)
        rcases Nat.lt_or_gt_of_ne differ with lt | gt
        · exact iff_of_true lt (byteValues_lt lt m n).asymm
        · exact iff_of_false (Nat.lt_asymm gt) (not_not_intro (byteValues_lt gt n m))

/-- What a step is compared by: its kind, and then the bytes of its name. -/
def Component.key (c : Component) : List Nat :=
  c.rank :: match c with
    | .name n => byteValues n
    | _ => []

/-- One path comes before another one: the first steps that differ decide, and a beginning comes first. -/
def Precedes (p q : List Char) : Prop :=
  (components p).map Component.key < (components q).map Component.key

lemma Component.eq_of_key_eq (same : c.key = d.key) : c = d := by
  cases c <;> cases d <;> simp [key, rank] at same ⊢
  exact Text.eq_of_byteValues_eq same

lemma Component.le_iff : c.le d = true ↔ ¬ d.key < c.key := by
  cases c <;> cases d <;> simp [le, key, rank, List.cons_lt_cons_iff, nameLe_iff]

/-- Rows of steps are compared by what their steps are compared by. -/
lemma componentsLe_iff :
    componentsLe cs ds = true ↔ ¬ ds.map Component.key < cs.map Component.key := by
  induction cs generalizing ds with
  | nil => exact iff_of_true rfl (List.not_lt_nil _)
  | cons c cs ih =>
    cases ds with
    | nil => exact iff_of_false Bool.false_ne_true (not_not_intro (List.nil_lt_cons _ _))
    | cons d ds =>
      rw [componentsLe, List.map_cons, List.map_cons, List.cons_lt_cons_iff]
      by_cases same : c = d
      · subst same
        rw [if_pos rfl, ih]
        simp
      · have differ : d.key ≠ c.key := fun keys => same (Component.eq_of_key_eq keys).symm
        rw [if_neg same, Component.le_iff]
        simp [differ]

lemma le_iff : le p q = true ↔ ¬ Precedes q p :=
  componentsLe_iff

lemma Precedes.asymm (h : Precedes p q) : ¬ Precedes q p :=
  lt_asymm h

lemma le_trans {r} (h : le p q = true) (h' : le q r = true) : le p r = true := by
  rw [le_iff] at h h' ⊢
  exact not_lt.2 ((not_lt.1 h).trans (not_lt.1 h'))

lemma le_total (p q) : (le p q || le q p) = true := by
  rw [Bool.or_eq_true, le_iff, le_iff, ← not_and_or]
  exact fun both => both.1.asymm both.2

/-- Sorted paths of which no two have the same steps are in a strictly increasing order. -/
theorem pairwise_mergeSort {ps : List (List Char)} (distinct : (ps.map components).Nodup) :
    (ps.mergeSort le).Pairwise Precedes := by
  have sorted : (ps.mergeSort le).Pairwise fun p q => le p q = true :=
    @List.pairwise_mergeSort _ le (fun _ _ _ => le_trans) le_total ps
  have apart : (ps.mergeSort le).Pairwise fun p q => components p ≠ components q :=
    List.pairwise_map.1 (((List.mergeSort_perm ps le).map components).nodup_iff.2 distinct)
  refine (sorted.and apart).imp fun ⟨order, differ⟩ => ?_
  rw [le_iff] at order
  refine lt_of_le_of_ne (not_lt.1 order) fun keys => differ ?_
  exact List.map_injective_iff.2 (fun _ _ => Component.eq_of_key_eq) keys

/-- There is one strictly increasing order of the same paths. -/
theorem eq_of_precedes {ps qs : List (List Char)} (hp : ps.Pairwise Precedes) (hq : qs.Pairwise Precedes)
    (same : ∀ p, p ∈ ps ↔ p ∈ qs) : ps = qs := by
  have distinct {l : List (List Char)} (h : l.Pairwise Precedes) : l.Nodup :=
    h.imp fun {p q} before same => by
      subst same
      exact before.asymm before
  have perm : ps.Perm qs := (List.perm_ext_iff_of_nodup (distinct hp) (distinct hq)).2 same
  exact perm.eq_of_pairwise (fun _ _ _ _ before after => absurd after before.asymm) hp hq

end Path

end Transcript
