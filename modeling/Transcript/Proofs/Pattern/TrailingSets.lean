import Mathlib.Tactic.Common
import Transcript.Proofs.Pattern.Trailing

/-!
# Reading sets in front of more text

A set in brackets is read in the same way where an end of the line or a closing parenthesis follows. Its
parts may take of what follows as members (`openItems_trails`, `readSetItem_trails`), but a set ends with a
bracket, so that it loses nothing as a whole (`readBracket_trails`).
-/

namespace Transcript.Pattern

section Sets

variable {t s s' : List Char} {v : Bool}

/-- A cut before a tail is the same cut. -/
lemma cutAt_append {sep} (apart : sep ∉ t) (s) :
    cutAt sep (s ++ t) = (cutAt sep s).map fun p => (p.1, p.2 ++ t) := by
  induction s with
  | nil =>
    have none (u : List Char) (hu : sep ∉ u) : cutAt sep u = none := by
      induction u with
      | nil => rfl
      | cons c u ih =>
        rw [List.mem_cons, not_or] at hu
        rw [cutAt, if_neg (Ne.symm hu.1), ih hu.2]
        rfl
    exact none t apart
  | cons c s ih =>
    rw [List.cons_append, cutAt, cutAt]
    split
    · rfl
    · rw [ih]
      cases cutAt sep s <;> rfl

/-- Names of ASCII classes are the same before a tail. -/
lemma readAsciiName?_append (ht : IsTail t) (negated s) :
    readAsciiName? negated (s ++ t) = (readAsciiName? negated s).map fun p => (p.1, p.2 ++ t) := by
  have apart : ':' ∉ t := fun inside => by
    rcases ht.subset _ inside with e | e <;> cases e
  rw [readAsciiName?, readAsciiName?, cutAt_append apart]
  rcases cutAt ':' s with _ | ⟨name, _ | ⟨c, rest⟩⟩
  · rfl
  · obtain ⟨c, u, rfl, rfl | rfl⟩ := ht.cons <;> rfl
  · by_cases h : c = ']'
    · subst h
      simp only [Option.map_some, List.cons_append]
      cases asciiClass? (String.ofList name) <;> rfl
    · simp [h]

/-- ASCII classes are the same before a tail. -/
lemma readAsciiClass?_append (ht : IsTail t) (s) :
    readAsciiClass? (s ++ t) = (readAsciiClass? s).map fun p => (p.1, p.2 ++ t) := by
  have name := readAsciiName?_append ht
  rcases s with _ | ⟨c, _ | ⟨d, r⟩⟩
  · obtain ⟨c, u, rfl, rfl | rfl⟩ := ht.cons <;> rfl
  · by_cases colon : c = ':'
    · subst colon
      have sign : readAsciiClass? (':' :: t) = readAsciiName? false t := by
        obtain ⟨c, u, rfl, rfl | rfl⟩ := ht.cons <;> rfl
      rw [List.singleton_append, sign]
      exact name false []
    · simp [readAsciiClass?, colon]
  · by_cases colon : c = ':'
    · subst colon
      by_cases hat : d = '^'
      · subst hat
        exact name true r
      · have sign (q) : readAsciiClass? (':' :: d :: q) = readAsciiName? false (d :: q) := by
          simp [readAsciiClass?, hat]
        rw [List.cons_append, List.cons_append, sign, sign]
        exact name false (d :: r)
    · simp [readAsciiClass?, colon]

/-- Hyphens leave nothing longer. -/
lemma length_readHyphens_le (v items n s) : (readHyphens v items n s).2.length ≤ s.length := by
  fun_induction readHyphens v items n s with
  | case1 items n r ih => exact Nat.le_succ_of_le (Nat.le_trans ih (length_skipIgnored_le v r))
  | case2 => exact Nat.le_refl _

/-- What follows a cut is no longer. -/
lemma length_cutAt_le {sep p} (h : cutAt sep s = some p) : p.2.length ≤ s.length := by
  induction s generalizing p with
  | nil => cases h
  | cons c r ih =>
    rw [cutAt] at h
    split at h
    · cases h
      exact Nat.le_succ _
    · obtain ⟨⟨name, rest⟩, inner, rfl⟩ := Option.map_eq_some_iff.1 h
      have short : rest.length ≤ r.length := ih inner
      exact Nat.le_succ_of_le short

/-- What follows the name of an ASCII class is no longer. -/
lemma length_readAsciiName?_le {negated p} (h : readAsciiName? negated s = some p) :
    p.2.length ≤ s.length := by
  unfold readAsciiName? at h
  split at h
  · rename_i name rest cut
    obtain ⟨cls, -, rfl⟩ := Option.map_eq_some_iff.1 h
    exact Nat.le_of_succ_le (length_cutAt_le cut)
  · cases h

/-- What follows an ASCII class is no longer. -/
lemma length_readAsciiClass?_le {p} (h : readAsciiClass? s = some p) : p.2.length ≤ s.length := by
  unfold readAsciiClass? at h
  split at h
  · exact Nat.le_succ_of_le (Nat.le_succ_of_le (length_readAsciiName?_le h))
  · exact Nat.le_succ_of_le (length_readAsciiName?_le h)
  · cases h

/-- Hyphens at the start of a set end before a tail. -/
lemma readHyphens_trailed (ht : IsTail t) (h : Trailed t s s') (v items) {m n} (hm : s.length ≤ m)
    (hn : s'.length ≤ n) :
    (readHyphens v items n s').1 = (readHyphens v items m s).1 ∧
      Trailed t (readHyphens v items m s).2 (readHyphens v items n s').2 := by
  -- however many steps are left, nothing happens at the end and in front of the tail
  have nothing (items k) : readHyphens v items k [] = (items, []) := by
    cases k <;> rfl
  have tail (items k) : readHyphens v items k t = (items, t) := by
    obtain ⟨c, u, rfl, rfl | rfl⟩ := ht.cons <;> cases k <;> rfl
  have empty {r items m n} (h : Trailed t [] r) :
      (readHyphens v items n r).1 = (readHyphens v items m []).1 ∧
        Trailed t (readHyphens v items m []).2 (readHyphens v items n r).2 := by
    rcases h.nil with rfl | rfl
    · rw [nothing, tail]
      exact ⟨rfl, .behind []⟩
    · rw [nothing, nothing]
      exact ⟨rfl, .skipped⟩
  induction m generalizing n s s' items with
  | zero =>
    cases List.length_eq_zero_iff.1 (Nat.le_zero.1 hm)
    exact empty h
  | succ m ih =>
    cases s with
    | nil => exact empty h
    | cons c r =>
      cases h.cons
      cases n with
      | zero => exact absurd hn (Nat.not_succ_le_zero _)
      | succ n =>
        by_cases hyphen : c = '-'
        · subst hyphen
          have left := (Trailed.behind (t := t) r).skipIgnored ht v
          have shorter := length_skipIgnored_le v r
          have shorter' := length_skipIgnored_le v (r ++ t)
          rw [List.length_cons] at hm hn
          exact ih left (n := n) _ (by omega) (by omega)
        · have other (k q) : readHyphens v items k (c :: q) = (items, c :: q) := by
            cases k <;> simp [readHyphens, hyphen]
          rw [other, other]
          exact ⟨rfl, .behind (c :: r)⟩

/-- What is left of a tail, or all of it. -/
def Ended {α : Type} (t : List Char) (_ : α) (r : List Char) : Prop :=
  r <:+ t

/-- The first members of a set are read before a tail too. -/
lemma openItems_trails (ht : IsTail t) (h : Trailed t s s') (v negated) :
    Trails t s.length (Ended t) (openItems v negated s) (openItems v negated s') := by
  obtain ⟨same, rest⟩ := readHyphens_trailed ht h v [] (Nat.le_refl _) (Nat.le_refl _)
  have short := length_readHyphens_le v [] s.length s
  unfold openItems
  generalize readHyphens v [] s.length s = x at same rest short
  generalize readHyphens v [] s'.length s' = y at same rest
  obtain ⟨items, r⟩ := x
  obtain ⟨_, r'⟩ := y
  cases same
  simp only at rest short
  cases r with
  | nil =>
    rcases rest.nil with rfl | rfl
    · obtain ⟨c, u, rfl, hc⟩ := ht.cons
      have ended {α : Type} {a : α} : Ended (c :: u) a (c :: u) := List.suffix_rfl
      rcases hc with rfl | rfl <;> cases items <;> exact .lost ended
    · exact .refused
  | cons c r =>
    cases rest.cons
    by_cases close : items = [] ∧ c = ']'
    · obtain ⟨rfl, rfl⟩ := close
      have left := (Trailed.behind (t := t) r).skipIgnored ht v
      have shorter := Nat.le_trans (length_skipIgnored_le v r) (Nat.le_of_succ_le short)
      simp only
      generalize skipIgnored v r = u at left shorter
      generalize skipIgnored v (r ++ t) = u' at left
      cases u with
      | nil =>
        rcases left.nil with rfl | rfl
        · have ended {α : Type} {a : α} : Ended u' a u' := List.suffix_rfl
          obtain ⟨c, u, rfl, -⟩ := ht.cons
          exact .lost ended
        · exact .refused
      | cons d u =>
        cases left.cons
        exact .read (.behind (d :: u)) shorter
    · split
      · rename_i e
        cases e
      · rename_i e
        cases e
        exact absurd ⟨rfl, rfl⟩ close
      · rename_i e
        cases e
        split
        · rename_i e
          cases e
        · rename_i e
          cases e
          exact absurd ⟨rfl, rfl⟩ close
        · rename_i e
          cases e
          exact .read (.behind (c :: r)) short

/-- What opens a set is read before a tail too. -/
lemma openSet_trails (ht : IsTail t) (h : Trailed t s s') (v) :
    Trails t s.length (Ended t) (openSet v s) (openSet v s') := by
  have left := h.skipIgnored ht v
  have short := length_skipIgnored_le v s
  unfold openSet
  generalize skipIgnored v s = u at left short
  generalize skipIgnored v s' = u' at left
  split
  · rename_i r
    rw [left.cons]
    exact (openItems_trails ht ((Trailed.behind r).skipIgnored ht v) v true).mono
      (Nat.le_trans (length_skipIgnored_le v r) (Nat.le_of_succ_le short))
  · rename_i hat
    split
    · obtain ⟨p, rfl⟩ := left.of_cons ht (by decide)
      exact absurd rfl (hat p)
    · exact (openItems_trails ht left v false).mono short

/-- Ends of ranges are read before a tail too. -/
lemma readSetAtom_trails (ht : IsTail t) (v c r) :
    Trails t r.length (Escaped.Lost t v) (readSetAtom v (c :: r)) (readSetAtom v (c :: (r ++ t))) := by
  by_cases slash : c = '\\'
  · subst slash
    exact readEscape_trails ht (.behind r) v
  · simp only [readSetAtom]
    exact .read (.behind r) (Nat.le_refl _)

/-- A character of a tail is a member of its own. -/
lemma readSetAtom_tail {c} (hc : c = '$' ∨ c = ')') (v u) :
    readSetAtom v (c :: u) = .ok (.literal ⟨c, false⟩, u) := by
  rcases hc with rfl | rfl <;> rfl

/-- A member of its own leaves what it has left. -/
lemma item_trails {n lost} (h : Trailed t s s') (short : s.length ≤ n) (e : Escaped) :
    Trails t n lost (e.item.map fun i => (i, s)) (e.item.map fun i => (i, s')) := by
  cases e.item with
  | error => exact .refused
  | ok i => exact .read h short

/-- Ranges are read before a tail too. -/
lemma readRange_trails (ht : IsTail t) (h : Trailed t s s') (v first) :
    Trails t (s.length + 1) (Ended t) (readRange v first s) (readRange v first s') := by
  have left := h.skipIgnored ht v
  have short := length_skipIgnored_le v s
  simp only [readRange, Bool.or_eq_true, decide_eq_true_eq,
    peekPast_trailed ht h v (show ']' ≠ '$' by decide) (show ']' ≠ ')' by decide),
    peekPast_trailed ht h v (show '-' ≠ '$' by decide) (show '-' ≠ ')' by decide)]
  split
  · rename_i next
    cases h with
    | behind => exact item_trails (.behind ('-' :: s)) (Nat.le_refl _) first
    | skipped => cases v <;> rcases next with e | e <;> cases e
  · generalize skipIgnored v s = u at left short
    generalize skipIgnored v s' = u' at left
    cases u with
    | nil =>
      rcases left.nil with rfl | rfl
      · obtain ⟨c, u, rfl, hc⟩ := ht.cons
        have ended {α : Type} {a : α} : Ended (c :: u) a u := List.suffix_cons c u
        have atom := readSetAtom_tail hc v u
        rcases hc with rfl | rfl
        all_goals
          cases first with
          | literal a =>
            simp only [atom, Except.bind]
            split
            · exact .lost ended
            · exact .refused
          | _ => exact .refused
      · exact .refused
    | cons c u =>
      cases left.cons
      refine (readSetAtom_trails ht v c u).bind (fun last r r' h shorter => ?_) fun last r' e gone => ?_
      · have shorter := Nat.le_succ_of_le (Nat.le_trans shorter (Nat.le_of_succ_le short))
        simp only
        split
        · split
          · exact .read h shorter
          · exact .refused
        · exact .refused
      · cases gone with
        | torn torn =>
          simp only
          split
          · split
            · exact .lost torn.suffix
            · exact .refused
          · exact .refused
        | braced => cases first <;> exact .refused

/-- Members of sets are read before a tail too. -/
lemma readSetItem_trails (ht : IsTail t) (v c r) :
    Trails t r.length (Ended t) (readSetItem v (c :: r)) (readSetItem v (c :: (r ++ t))) := by
  refine (readSetAtom_trails ht v c r).bind (fun first q q' h short => ?_) fun first q' e gone => ?_
  · have left := h.skipIgnored ht v
    have short := Nat.le_trans (length_skipIgnored_le v q) short
    simp only
    generalize skipIgnored v q = u at left short
    generalize skipIgnored v q' = u' at left
    cases u with
    | nil =>
      rcases left.nil with rfl | rfl
      · have ended {α : Type} {a : α} : Ended u' a u' := List.suffix_rfl
        obtain ⟨c, u, rfl, hc⟩ := ht.cons
        rcases hc with rfl | rfl
        all_goals
          simp only
          cases first.item with
          | error => exact .refused
          | ok i => exact .lost ended
      · exact .refused
    | cons c u =>
      cases left.cons
      by_cases hyphen : c = '-'
      · subst hyphen
        exact (readRange_trails ht (.behind u) v first).mono short
      · split
        · rename_i e
          cases e
        · rename_i e
          cases e
          exact absurd rfl hyphen
        · split
          · rename_i e
            cases e
          · rename_i e
            cases e
            exact absurd rfl hyphen
          · exact item_trails (.behind (c :: u)) short first
  · cases gone with
    | torn torn =>
      simp only
      rw [ht.skipIgnored_suffix v torn.suffix]
      cases q' with
      | nil => exact .refused
      | cons c u =>
        rcases ht.mem_suffix torn.suffix c List.mem_cons_self with rfl | rfl
        all_goals
          cases first.item with
          | error => exact .refused
          | ok i => exact .lost torn.suffix
    | braced braced =>
      obtain ⟨q, rfl, -⟩ := braced
      cases v <;> exact .refused

/-- A doubled sign is not one of which the tail is the second half. -/
lemma IsTail.of_doubled (ht : IsTail t) {c d u r} (hd : d ≠ '$' ∧ d ≠ ')')
    (e : c :: (u ++ t) = d :: d :: r) : ∃ q, c :: u = d :: d :: q := by
  obtain ⟨x, w, rfl, hx⟩ := ht.cons
  cases u with
  | nil =>
    cases e
    rcases hx with rfl | rfl
    · exact absurd rfl hd.1
    · exact absurd rfl hd.2
  | cons y u =>
    cases e
    exact ⟨u, rfl⟩

/-- A tail ends no set. -/
lemma readSet_tail (ht : IsTail t) (v items stack n) (h : s <:+ t) :
    ∃ e, readSet v items stack n s = .error e := by
  induction n generalizing s items with
  | zero => exact ⟨_, rfl⟩
  | succ n ih =>
    have here := ht.skipIgnored_suffix v h
    cases s with
    | nil =>
      rw [readSet, here]
      exact ⟨_, rfl⟩
    | cons c u =>
      have rest : u <:+ t := (List.suffix_cons c u).trans h
      have step : readSet v items stack (n + 1) (c :: u) =
          (readSetItem v (c :: u)).bind fun p => readSet v (p.1 :: items) stack n p.2 := by
        rw [readSet, here]
        rcases ht.mem_suffix h c List.mem_cons_self with rfl | rfl <;> rfl
      have item : readSetItem v (c :: u) =
          if u = [] then .error .unclosedSet else .ok (.literal ⟨c, false⟩, u) := by
        have atom := readSetAtom_tail (ht.mem_suffix h c List.mem_cons_self) v u
        simp only [readSetItem, atom, Except.bind, ht.skipIgnored_suffix v rest]
        cases u with
        | nil => rfl
        | cons d w => rcases ht.mem_suffix rest d List.mem_cons_self with rfl | rfl <;> rfl
      rw [step, item]
      split
      · exact ⟨_, rfl⟩
      · exact ih _ rest

/-- Sets are read before a tail too. -/
lemma readSet_trails (ht : IsTail t) (h : Trailed t s s') (v items stack) {m n} (lt : s.length < m)
    (le : m ≤ n) : Trails t s.length Kept (readSet v items stack m s) (readSet v items stack n s') := by
  -- with the tail there may be more steps left, but not fewer
  induction m generalizing n s s' items stack with
  | zero => exact absurd lt (Nat.not_lt_zero _)
  | succ m ih =>
    cases n with
    | zero => exact absurd le (Nat.not_succ_le_zero m)
    | succ n =>
      have short := length_skipIgnored_le v s
      have left := h.skipIgnored ht v
      rw [readSet, readSet]
      generalize skipIgnored v s = u at left short
      generalize skipIgnored v s' = u' at left
      cases u with
      | nil =>
        rcases left.nil with rfl | rfl
        · obtain ⟨e, none⟩ := readSet_tail ht v items stack (n + 1) List.suffix_rfl
          rw [readSet, ht.skipIgnored v] at none
          rw [none]
          exact .refused
        · exact .refused
      | cons c u =>
        cases left.cons
        have more {r r'} (h : Trailed t r r') (shorter : r.length ≤ u.length) (items stack) :
            Trails t s.length Kept (readSet v items stack m r) (readSet v items stack n r') :=
          (ih h items stack
            (Nat.lt_of_le_of_lt shorter (Nat.lt_of_lt_of_le short (Nat.le_of_lt_succ lt)))
            (Nat.le_of_succ_le_succ le)).mono (Nat.le_trans shorter (Nat.le_of_succ_le short))
        have operation (kind) {r r'} (h : Trailed t r r') (shorter : r.length ≤ u.length) :
            Trails t s.length Kept
              (readSet v [] (.op kind (closeOp items stack).1 :: (closeOp items stack).2) m r)
              (readSet v [] (.op kind (closeOp items stack).1 :: (closeOp items stack).2) n r') :=
          more h shorter _ _
        have item {α : Type} {x y : Read α} (h : Trails t u.length (Ended t) x y)
            (items : α → List SetItem) (stack : α → List OpenSet) :
            Trails t s.length Kept (x.bind fun p => readSet v (items p.1) (stack p.1) m p.2)
              (y.bind fun p => readSet v (items p.1) (stack p.1) n p.2) := by
          refine h.bind (fun a r r' left shorter => more left shorter _ _) fun a r' e ended => ?_
          obtain ⟨e', none⟩ := readSet_tail ht v (items a) (stack a) n ended
          simp only [none]
          exact .refused
        split
        · rename_i e
          cases e
        · rename_i r e
          cases e
          simp only [readAsciiClass?_append ht]
          cases cls : readAsciiClass? u with
          | some p => exact more (.behind p.2) (length_readAsciiClass?_le cls) _ _
          | none =>
            exact item (openSet_trails ht (.behind u) v) (fun p => p.2)
              (fun p => .bracket items p.1 :: stack)
        · rename_i r e
          cases e
          simp only
          split
          · exact .read (.behind u) (Nat.le_of_succ_le short)
          · exact more (.behind u) (Nat.le_refl _) _ _
          · exact .refused
        · rename_i r e
          cases e
          exact operation .intersection (.behind r) (Nat.le_succ _)
        · rename_i r e
          cases e
          exact operation .difference (.behind r) (Nat.le_succ _)
        · rename_i r e
          cases e
          exact operation .symmetricDifference (.behind r) (Nat.le_succ _)
        · rename_i opens closes both minus tilde
          -- no sign that is special here can come about at the seam
          split
          · rename_i e
            cases e
          · rename_i e
            cases e
            exact absurd rfl (opens u)
          · rename_i e
            cases e
            exact absurd rfl (closes u)
          · rename_i e
            obtain ⟨q, e⟩ := ht.of_doubled (by decide) e
            exact absurd e (both q)
          · rename_i e
            obtain ⟨q, e⟩ := ht.of_doubled (by decide) e
            exact absurd e (minus q)
          · rename_i e
            obtain ⟨q, e⟩ := ht.of_doubled (by decide) e
            exact absurd e (tilde q)
          · exact item (readSetItem_trails ht v c u) (fun i => i :: items) (fun _ => stack)

/-- Sets in brackets are read before a tail too. -/
lemma readBracket_trails (ht : IsTail t) (h : Trailed t s s') (v) :
    Trails t s.length Kept (readBracket v s) (readBracket v s') := by
  refine (openSet_trails ht h v).bind (fun opened r r' h short => ?_) fun opened r' e ended => ?_
  · exact (readSet_trails ht h v _ _ (Nat.lt_succ_self _) (Nat.succ_le_succ h.length_le)).mono short
  · obtain ⟨e', none⟩ := readSet_tail ht v opened.2 [.bracket [] opened.1] (r'.length + 1) ended
    simp only [none]
    exact .refused

end Sets

end Transcript.Pattern
