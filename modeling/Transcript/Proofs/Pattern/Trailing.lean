import Mathlib.Tactic.Common
import Transcript.Pattern.Reader

/-!
# Reading in front of more text

A part of a pattern is read in the same way where an end of the line or a closing parenthesis follows
(`Trails`), and what cannot be read on its own cannot be read there. What can go wrong does so at the very
end: a comment of a verbose pattern takes what follows along (`Trailed`), something takes a character of
what follows as its own (`Torn`), or a brace is left there that begins no count (`Braced`).
-/

namespace Transcript.Pattern

open Text (isBlank)

/-- Text that can follow a pattern: ends of lines and closing parentheses. -/
structure IsTail (t : List Char) : Prop where
  ne_nil : t ≠ []
  subset : ∀ c ∈ t, c = '$' ∨ c = ')'

/-- A text with a tail behind it, unless nothing is left and the tail was skipped with it. -/
inductive Trailed (t : List Char) : List Char → List Char → Prop where
  | behind (s) : Trailed t s (s ++ t)
  | skipped : Trailed t [] []

/-- What is left of a tail that was taken in part. -/
structure Torn (t r : List Char) : Prop where
  suffix : r <:+ t
  shorter : r.length < t.length

/-- A brace behind which only the tail is left. -/
def Braced (t : List Char) (v : Bool) (r : List Char) : Prop :=
  ∃ q, r = '{' :: q ∧ skipIgnored v q = t

/-- How one reader fares without the tail and another one with it. Both read the same, and what is left
has the tail behind it and `n` characters at most; or both fail; or only the one with the tail reads
something, and `lost` holds of that and of what is left. -/
inductive Trails {α : Type} (t : List Char) (n : Nat) (lost : α → List Char → Prop) :
    Read α → Read α → Prop where
  | read {a r r'} (left : Trailed t r r') (short : r.length ≤ n) :
    Trails t n lost (.ok (a, r)) (.ok (a, r'))
  | refused {e e'} : Trails t n lost (.error e) (.error e')
  | lost {e a r'} (gone : lost a r') : Trails t n lost (.error e) (.ok (a, r'))

/-- Nothing is lost. -/
def Kept {α : Type} (_ : α) (_ : List Char) : Prop := False

section Combinators

variable {α β : Type} {t : List Char} {m n : Nat} {lost : α → List Char → Prop}
  {lost' : β → List Char → Prop} {x y : Read α}

/-- More may be left. -/
lemma Trails.mono (h : Trails t m lost x y) (le : m ≤ n) : Trails t n lost x y := by
  cases h with
  | read left short => exact .read left (Nat.le_trans short le)
  | refused => exact .refused
  | lost gone => exact .lost gone

/-- Readers one after the other. -/
lemma Trails.bind {f g : α × List Char → Read β} (h : Trails t m lost x y)
    (next : ∀ a r r', Trailed t r r' → r.length ≤ m → Trails t n lost' (f (a, r)) (g (a, r')))
    (after : ∀ a r' e, lost a r' → Trails t n lost' (.error e) (g (a, r'))) :
    Trails t n lost' (x.bind f) (y.bind g) := by
  cases h with
  | read left short => exact next _ _ _ left short
  | refused => exact .refused
  | lost gone => exact after _ _ _ gone

/-- Readers one after the other, of which the first one loses nothing. -/
lemma Trails.bind_kept {f g : α × List Char → Read β} (h : Trails t m Kept x y)
    (next : ∀ a r r', Trailed t r r' → r.length ≤ m → Trails t n lost' (f (a, r)) (g (a, r'))) :
    Trails t n lost' (x.bind f) (y.bind g) :=
  h.bind next fun _ _ _ gone => gone.elim

/-- A value that is changed. -/
lemma Trails.map {f : α → β} (h : Trails t n lost x y) (after : ∀ a r', lost a r' → lost' (f a) r') :
    Trails t n lost' (x.map fun p => (f p.1, p.2)) (y.map fun p => (f p.1, p.2)) := by
  cases h with
  | read left short => exact .read left short
  | refused => exact .refused
  | lost gone => exact .lost (after _ _ gone)

end Combinators

section Readers

variable {t s s' : List Char} {v : Bool}

/-- A tail begins with an end of the line or a closing parenthesis. -/
lemma IsTail.cons (ht : IsTail t) : ∃ c u, t = c :: u ∧ (c = '$' ∨ c = ')') := by
  cases t with
  | nil => exact absurd rfl ht.ne_nil
  | cons c u => exact ⟨c, u, rfl, ht.subset c List.mem_cons_self⟩

/-- Behind a first character the tail is there. -/
lemma Trailed.cons {c r} (h : Trailed t (c :: r) s') : s' = c :: (r ++ t) := by
  cases h
  rfl

/-- What follows a first character has the tail behind it. -/
lemma Trailed.tail {c r r'} (h : Trailed t (c :: r) (c :: r')) : Trailed t r r' := by
  cases h.cons
  exact .behind r

/-- Where nothing is left, there is the tail or nothing. -/
lemma Trailed.nil (h : Trailed t [] s') : s' = t ∨ s' = [] := by
  cases h with
  | behind => exact .inl rfl
  | skipped => exact .inr rfl

/-- Any other first character was the first one without the tail. -/
lemma Trailed.of_cons (ht : IsTail t) {c q} (h : Trailed t s (c :: q)) (hc : c ≠ '$' ∧ c ≠ ')') :
    ∃ p, s = c :: p := by
  cases s with
  | nil =>
    obtain ⟨d, u, rfl, hd⟩ := ht.cons
    rcases h.nil with e | e
    · cases e
      rcases hd with rfl | rfl
      · exact absurd rfl hc.1
      · exact absurd rfl hc.2
    · cases e
  | cons d p =>
    cases h.cons
    exact ⟨p, rfl⟩

/-- The text before a tail is no longer. -/
lemma Trailed.length_le (h : Trailed t s s') : s.length ≤ s'.length := by
  cases h with
  | behind =>
    rw [List.length_append]
    exact Nat.le_add_right _ _
  | skipped => exact Nat.le_refl _

/-- A tail without its first character is torn. -/
lemma Torn.cons (c u) : Torn (c :: u) u where
  suffix := List.suffix_cons c u
  shorter := Nat.lt_succ_self _

/-- What is left of a tail has its characters. -/
lemma IsTail.mem_suffix (ht : IsTail t) {u} (h : u <:+ t) : ∀ c ∈ u, c = '$' ∨ c = ')' :=
  fun c hc => ht.subset c (h.subset hc)

/-! ## Blanks and comments -/

/-- A comment takes a tail along. -/
lemma skipComments_tail (h : ∀ c ∈ t, c = '$' ∨ c = ')') : skipComments true t = [] := by
  induction t with
  | nil => rfl
  | cons c u ih =>
    obtain ⟨hc, hu⟩ := List.forall_mem_cons.1 h
    have more : decide (c ≠ '\n') = true := by
      rcases hc with rfl | rfl <;> rfl
    rw [skipComments, if_pos rfl, more, ih hu]

/-- What is skipped is skipped before a tail too. -/
lemma Trailed.skipComments (ht : IsTail t) (inComment s) :
    Trailed t (skipComments inComment s) (skipComments inComment (s ++ t)) := by
  induction s generalizing inComment with
  | nil =>
    rw [List.nil_append]
    cases inComment with
    | true =>
      rw [skipComments_tail ht.subset]
      exact .skipped
    | false =>
      obtain ⟨c, u, rfl, rfl | rfl⟩ := ht.cons <;> exact .behind []
  | cons c s ih =>
    rw [List.cons_append, Pattern.skipComments, Pattern.skipComments]
    split
    · exact ih _
    · split
      · exact ih _
      · split
        · exact ih _
        · exact .behind (c :: s)

/-- What a pattern ignores is ignored before a tail too. -/
lemma Trailed.skipIgnored (ht : IsTail t) (h : Trailed t s s') (v) :
    Trailed t (skipIgnored v s) (skipIgnored v s') := by
  cases v with
  | false => exact h
  | true =>
    cases h with
    | behind => exact .skipComments ht false s
    | skipped => exact .skipped

/-- Nothing of a tail is ignored. -/
lemma IsTail.skipIgnored_suffix (ht : IsTail t) (v) {u} (h : u <:+ t) : skipIgnored v u = u := by
  cases u with
  | nil => cases v <;> rfl
  | cons c u => rcases ht.mem_suffix h c List.mem_cons_self with rfl | rfl <;> cases v <;> rfl

/-- Nothing of a whole tail is ignored. -/
lemma IsTail.skipIgnored (ht : IsTail t) (v) : skipIgnored v t = t :=
  ht.skipIgnored_suffix v List.suffix_rfl

lemma Trailed.dropBlank (ht : IsTail t) (h : Trailed t s s') :
    Trailed t (s.dropWhile isBlank) (s'.dropWhile isBlank) := by
  cases h with
  | skipped => exact .skipped
  | behind =>
    induction s with
    | nil => obtain ⟨c, u, rfl, rfl | rfl⟩ := ht.cons <;> exact .behind []
    | cons c s ih =>
      rw [List.cons_append, List.dropWhile_cons, List.dropWhile_cons]
      split
      · exact ih
      · exact .behind (c :: s)

/-- Skipping makes nothing longer. -/
lemma length_skipIgnored_le (v s) : (skipIgnored v s).length ≤ s.length := by
  have comments (b) : (skipComments b s).length ≤ s.length := by
    induction s generalizing b with
    | nil => exact Nat.le_refl _
    | cons c s ih =>
      rw [skipComments]
      split
      · exact Nat.le_succ_of_le (ih _)
      · split
        · exact Nat.le_succ_of_le (ih _)
        · split
          · exact Nat.le_succ_of_le (ih _)
          · exact Nat.le_refl _
  cases v with
  | false => exact Nat.le_refl _
  | true => exact comments false

/-- A character that is not there does not come next. -/
lemma peekPast_go_ne (b) {c} (h : c ∉ s) : peekPast.go b s ≠ some c := by
  induction s generalizing b with
  | nil => exact nofun
  | cons d u ih =>
    rw [List.mem_cons, not_or] at h
    rw [peekPast.go]
    split
    · exact ih _ h.2
    · split
      · exact ih _ h.2
      · exact fun e => h.1 (Option.some.inj e).symm

/-- The next character that counts is the same before a tail, unless it is one of the tail. -/
lemma peekPast_trailed (ht : IsTail t) (h : Trailed t s s') (v) {c} (hc : c ≠ '$') (hc' : c ≠ ')') :
    peekPast v s' = some c ↔ peekPast v s = some c := by
  have apart : c ∉ t := by
    intro inside
    rcases ht.subset c inside with e | e
    · exact hc e
    · exact hc' e
  cases h with
  | skipped => exact Iff.rfl
  | behind =>
    cases v with
    | false =>
      cases s with
      | nil =>
        rw [List.nil_append]
        exact iff_of_false (fun e => apart (List.mem_of_mem_head? e)) nofun
      | cons d s => exact Iff.rfl
    | true =>
      have go (b) : peekPast.go b (s ++ t) = some c ↔ peekPast.go b s = some c := by
        induction s generalizing b with
        | nil => exact iff_of_false (peekPast_go_ne b apart) nofun
        | cons d s ih =>
          rw [List.cons_append, peekPast.go, peekPast.go]
          split
          · exact ih _
          · split
            · exact ih _
            · exact Iff.rfl
      exact go false

/-! ## Numbers and code points -/

/-- The longest beginning of characters of a class; what is ignored may stand between them. -/
def spanClass (p : Char → Bool) (v : Bool) : Nat → List Char → List Char × List Char
  | fuel + 1, c :: r =>
    if p c then
      let (cs, rest) := spanClass p v fuel (skipIgnored v r)
      (c :: cs, rest)
    else ([], c :: r)
  | _, s => ([], s)

/-- Digits are a class. -/
lemma spanDigits_eq (v n s) : spanDigits v n s = spanClass Char.isDigit v n s := by
  induction n generalizing s with
  | zero => cases s <;> rfl
  | succ n ih =>
    cases s with
    | nil => rfl
    | cons c r => rw [spanDigits, spanClass, ih]

/-- The characters of the name of a boundary are a class. -/
lemma spanBoundaryName_eq (v n s) :
    spanBoundaryName v n s = spanClass (fun c => c.isAlpha || c = '-') v n s := by
  induction n generalizing s with
  | zero => cases s <;> rfl
  | succ n ih =>
    cases s with
    | nil => rfl
    | cons c r => rw [spanBoundaryName, spanClass, ih]

/-- Characters of a class end before a tail, when those of a tail are in another one. -/
lemma spanClass_trailed {p : Char → Bool} (hp : p '$' = false ∧ p ')' = false) (ht : IsTail t)
    (h : Trailed t s s') (v) {m n} (hm : s.length ≤ m) (hn : s'.length ≤ n) :
    (spanClass p v n s').1 = (spanClass p v m s).1 ∧
      Trailed t (spanClass p v m s).2 (spanClass p v n s').2 := by
  have nothing (k) : spanClass p v k [] = ([], []) := by
    cases k <;> rfl
  have tail (k) : spanClass p v k t = ([], t) := by
    cases k with
    | zero => rfl
    | succ k =>
      obtain ⟨c, u, rfl, rfl | rfl⟩ := ht.cons
      · rw [spanClass, hp.1, if_neg Bool.false_ne_true]
      · rw [spanClass, hp.2, if_neg Bool.false_ne_true]
  -- at the end of the text the reader with the tail stops at its first character
  have empty {r m n} (h : Trailed t [] r) : (spanClass p v n r).1 = (spanClass p v m []).1 ∧
      Trailed t (spanClass p v m []).2 (spanClass p v n r).2 := by
    rcases h.nil with rfl | rfl
    · rw [nothing, tail]
      exact ⟨rfl, .behind []⟩
    · rw [nothing, nothing]
      exact ⟨rfl, .skipped⟩
  induction m generalizing n s s' with
  | zero =>
    cases List.length_eq_zero_iff.1 (Nat.le_zero.1 hm)
    exact empty h
  | succ m ih =>
    cases s with
    | nil => exact empty h
    | cons c r =>
      cases h.cons
      cases n with
      | zero => exact absurd hn (Nat.not_succ_le_zero _)
      | succ n =>
        rw [spanClass, spanClass]
        split
        · have left := (Trailed.behind (t := t) r).skipIgnored ht v
          have shorter := length_skipIgnored_le v r
          have shorter' := length_skipIgnored_le v (r ++ t)
          rw [List.length_cons] at hm hn
          obtain ⟨same, rest⟩ := ih left (n := n) (by omega) (by omega)
          exact ⟨congrArg (c :: ·) same, rest⟩
        · exact ⟨rfl, .behind (c :: r)⟩

/-- What follows characters of a class is no longer. -/
lemma length_spanClass_le (p v n s) : (spanClass p v n s).2.length ≤ s.length := by
  induction n generalizing s with
  | zero => cases s <;> exact Nat.le_refl _
  | succ n ih =>
    cases s with
    | nil => exact Nat.le_refl _
    | cons c r =>
      rw [spanClass]
      split
      · exact Nat.le_succ_of_le (Nat.le_trans (ih _) (length_skipIgnored_le v r))
      · exact Nat.le_refl _

/-- Numbers end before a tail. -/
lemma readDecimal_trails (ht : IsTail t) (h : Trailed t s s') (v) :
    Trails t s.length Kept (readDecimal v s) (readDecimal v s') := by
  have blanks := h.dropBlank ht
  obtain ⟨same, rest⟩ := spanClass_trailed (p := Char.isDigit) ⟨rfl, rfl⟩ ht blanks v (Nat.le_refl _)
    (Nat.le_refl _)
  have left := (rest.dropBlank ht).skipIgnored ht v
  have shorter (u : List Char) : (u.dropWhile isBlank).length ≤ u.length :=
    (List.dropWhile_suffix isBlank).length_le
  have short := calc
    (skipIgnored v ((spanClass Char.isDigit v _ (s.dropWhile isBlank)).2.dropWhile isBlank)).length
      ≤ ((spanClass Char.isDigit v _ (s.dropWhile isBlank)).2.dropWhile isBlank).length :=
        length_skipIgnored_le v _
    _ ≤ (spanClass Char.isDigit v _ (s.dropWhile isBlank)).2.length := shorter _
    _ ≤ (s.dropWhile isBlank).length := length_spanClass_le _ v (s.dropWhile isBlank).length _
    _ ≤ s.length := shorter s
  simp only [readDecimal, spanDigits_eq, same]
  split
  · exact .read left short
  · split
    · exact .read left short
    · exact .refused

/-- Hexadecimal digits are read before a tail too. -/
lemma readHexDigits_trails (ht : IsTail t) (h : Trailed t s s') (v acc count) :
    Trails t s.length Kept (readHexDigits v acc count s) (readHexDigits v acc count s') := by
  induction count generalizing s s' acc with
  | zero => exact .read h (Nat.le_refl _)
  | succ count ih =>
    cases s with
    | nil =>
      rcases h.nil with rfl | rfl
      · obtain ⟨c, u, rfl, rfl | rfl⟩ := ht.cons <;> exact .refused
      · exact .refused
    | cons c r =>
      cases h.cons
      rw [readHexDigits, readHexDigits]
      cases hexValue? c with
      | none => exact .refused
      | some d =>
        exact (ih ((Trailed.behind r).skipIgnored ht v) _).mono
          (Nat.le_succ_of_le (length_skipIgnored_le v r))

/-- Hexadecimal digits in braces are read before a tail too. -/
lemma readHexBrace_trails (ht : IsTail t) (h : Trailed t s s') (v acc seen) {m n} (lt : s.length < m)
    (le : m ≤ n) :
    Trails t s.length Kept (readHexBrace v acc seen m s) (readHexBrace v acc seen n s') := by
  -- the reader with the tail may have more steps left, and neither runs out of them
  induction m generalizing n s s' acc seen with
  | zero => exact absurd lt (Nat.not_lt_zero _)
  | succ m ih =>
    cases n with
    | zero => exact absurd le (Nat.not_succ_le_zero m)
    | succ n =>
      cases s with
      | nil =>
        rcases h.nil with rfl | rfl
        · obtain ⟨c, u, rfl, rfl | rfl⟩ := ht.cons <;> exact .refused
        · exact .refused
      | cons c r =>
        cases h.cons
        have left := (Trailed.behind (t := t) r).skipIgnored ht v
        have short := length_skipIgnored_le v r
        rw [readHexBrace, readHexBrace]
        split
        · split
          · exact .read left (Nat.le_succ_of_le short)
          · exact .refused
        · cases hexValue? c with
          | none => exact .refused
          | some d =>
            have lt := Nat.lt_of_le_of_lt short (Nat.lt_of_succ_lt_succ lt)
            exact (ih left _ _ lt (Nat.le_of_succ_le_succ le)).mono (Nat.le_succ_of_le short)

/-- The literal of a code point leaves what its digits have left. -/
lemma literalOf_trails (h : Trailed t s s') (byte n) :
    Trails t s.length Kept (literalOf byte (n, s)) (literalOf byte (n, s')) := by
  rw [literalOf, literalOf]
  cases scalar? n with
  | none => exact .refused
  | some c => exact .read h (Nat.le_refl _)

/-- Code points are read before a tail too. -/
lemma readCodePoint_trails (ht : IsTail t) (h : Trailed t s s') (v count) :
    Trails t s.length Kept (readCodePoint v (count + 1) s) (readCodePoint v (count + 1) s') := by
  have left := h.skipIgnored ht v
  have short := length_skipIgnored_le v s
  have point {q byte} {x y : Read Nat} (h : Trails t q Kept x y) (le : q ≤ s.length) :
      Trails t s.length Kept (x.bind (literalOf byte)) (y.bind (literalOf byte)) :=
    h.bind_kept fun n r r' left short => (literalOf_trails left byte n).mono (Nat.le_trans short le)
  unfold readCodePoint
  generalize skipIgnored v s = u at left short
  generalize skipIgnored v s' = u' at left
  split
  · rcases left.nil with rfl | rfl
    · obtain ⟨c, u, rfl, rfl | rfl⟩ := ht.cons <;> exact .refused
    · exact .refused
  · rename_i r
    rw [left.cons]
    have inner := (Trailed.behind (t := t) r).skipIgnored ht v
    exact point (readHexBrace_trails ht inner v 0 false (Nat.lt_succ_self _)
      (Nat.succ_le_succ inner.length_le))
      (Nat.le_trans (length_skipIgnored_le v r) (Nat.le_of_succ_le short))
  · rename_i nonempty brace
    cases u with
    | nil => exact absurd rfl nonempty
    | cons c r =>
      cases left.cons
      split
      · rename_i e
        cases e
      · rename_i e
        cases e
        exact absurd rfl (brace r)
      · exact point (readHexDigits_trails ht (.behind (c :: r)) v 0 (count + 1)) short

/-! ## Escapes -/

/-- A name in braces ends before a tail, and there it has an end. -/
lemma spanBrace_tail (ht : IsTail t) (v n) {u} (h : u <:+ t) : spanBrace v n u = none := by
  induction n generalizing u with
  | zero => rfl
  | succ n ih =>
    cases u with
    | nil => rfl
    | cons c u =>
      have rest : u <:+ t := (List.suffix_cons c u).trans h
      have other : c ≠ '}' := by
        rcases ht.mem_suffix h c List.mem_cons_self with rfl | rfl <;> decide
      rw [spanBrace, if_neg other, ht.skipIgnored_suffix v rest, ih rest]
      rfl

/-- A name in braces, as what is read. -/
def braced : Option (List Char × List Char) → Read (List Char)
  | some p => .ok p
  | none => .error .badEscape

/-- A name in braces is read before a tail too. -/
lemma spanBrace_trails (ht : IsTail t) (h : Trailed t s s') (v) {m n} (lt : s.length < m) (le : m ≤ n) :
    Trails t s.length Kept (braced (spanBrace v m s)) (braced (spanBrace v n s')) := by
  induction m generalizing n s s' with
  | zero => exact absurd lt (Nat.not_lt_zero _)
  | succ m ih =>
    cases n with
    | zero => exact absurd le (Nat.not_succ_le_zero m)
    | succ n =>
      cases s with
      | nil =>
        have none : spanBrace v (n + 1) s' = none := by
          rcases h.nil with rfl | rfl
          · exact spanBrace_tail ht v _ List.suffix_rfl
          · rfl
        rw [none]
        exact .refused
      | cons c u =>
        cases h.cons
        have short := length_skipIgnored_le v u
        have inner := ih ((Trailed.behind (t := t) u).skipIgnored ht v)
          (Nat.lt_of_le_of_lt short (Nat.lt_of_succ_lt_succ lt)) (Nat.le_of_succ_le_succ le)
        rw [spanBrace, spanBrace]
        split
        · exact .read (.behind u) (Nat.le_succ _)
        · generalize spanBrace v m (Pattern.skipIgnored v u) = x at inner
          generalize spanBrace v n (Pattern.skipIgnored v (u ++ t)) = y at inner
          cases x <;> cases y <;> cases inner
          · exact .refused
          · rename_i gone
            exact gone.elim
          · rename_i left short'
            exact .read left (Nat.le_succ_of_le (Nat.le_trans short' short))

/-- Properties are read before a tail too. -/
lemma readProperty_trails (ht : IsTail t) (h : Trailed t s s') (v) :
    Trails t s.length (fun _ => Torn t) (readProperty v s) (readProperty v s') := by
  have left := h.skipIgnored ht v
  have short := length_skipIgnored_le v s
  unfold readProperty
  generalize skipIgnored v s = u at left short
  generalize skipIgnored v s' = u' at left
  split
  · rcases left.nil with rfl | rfl
    · -- the name of the property is a character of the tail
      obtain ⟨c, u, rfl, hc⟩ := ht.cons
      have torn : Torn (c :: u) (skipIgnored v u) := by
        rw [ht.skipIgnored_suffix v (List.suffix_cons c u)]
        exact .cons c u
      rcases hc with rfl | rfl <;> exact .lost torn
    · exact .refused
  · rename_i r
    rw [left.cons]
    have inner := (Trailed.behind (t := t) r).skipIgnored ht v
    have shorter := Nat.le_trans (length_skipIgnored_le v r) (Nat.le_of_succ_le short)
    have name := spanBrace_trails ht inner v (Nat.lt_succ_of_le (length_skipIgnored_le v r))
      (Nat.succ_le_succ (Trailed.behind (t := t) r).length_le)
    simp only
    generalize spanBrace v _ (skipIgnored v r) = x at name
    generalize spanBrace v _ (skipIgnored v (r ++ t)) = y at name
    cases x <;> cases y <;> cases name
    · exact .refused
    · rename_i gone
      exact gone.elim
    · rename_i left short'
      exact .read left (Nat.le_trans short' shorter)
  · rename_i c r brace
    cases left.cons
    have shorter := Nat.le_trans (length_skipIgnored_le v r) (Nat.le_of_succ_le short)
    split
    · rename_i slash
      subst slash
      exact .refused
    · split
      · rename_i e
        cases e
      · rename_i e
        cases e
        exact absurd rfl brace
      · rename_i slash _ _ _ _ e
        cases e
        rw [if_neg slash]
        exact .read ((Trailed.behind r).skipIgnored ht v) shorter

/-- Word boundaries are read before a tail too. -/
lemma readBoundary_trails (ht : IsTail t) (h : Trailed t s s') (v) :
    Trails t s.length (fun _ => Braced t v) (readBoundary v s) (readBoundary v s') := by
  unfold readBoundary
  split
  · rename_i r
    rw [h.cons]
    have left := (Trailed.behind (t := t) r).skipIgnored ht v
    have short := length_skipIgnored_le v r
    simp only
    generalize skipIgnored v r = u at left short
    generalize e : skipIgnored v (r ++ t) = u' at left
    cases u with
    | nil =>
      rcases left.nil with rfl | rfl
      · -- the brace begins nothing, neither a name nor a count
        have braced : Braced u' v ('{' :: (r ++ u')) := ⟨_, rfl, e⟩
        obtain ⟨c, u, rfl, rfl | rfl⟩ := ht.cons <;> exact .lost braced
      · exact .refused
    | cons c u =>
      cases left.cons
      simp only
      split
      · exact .read (.behind ('{' :: r)) (Nat.le_refl _)
      · obtain ⟨same, rest⟩ := spanClass_trailed (p := fun c => c.isAlpha || c = '-') ⟨rfl, rfl⟩ ht
          left v (Nat.le_refl _) (Nat.le_refl _)
        have shorter := length_spanClass_le (fun c => c.isAlpha || c = '-') v (c :: u).length (c :: u)
        rw [spanBoundaryName_eq, spanBoundaryName_eq]
        generalize spanClass _ v _ (c :: u) = x at same rest shorter
        generalize spanClass _ v _ (c :: (u ++ t)) = y at same rest
        obtain ⟨name, q⟩ := x
        obtain ⟨_, q'⟩ := y
        cases same
        simp only at rest shorter ⊢
        split
        · rename_i e
          cases e
          rw [rest.cons]
          have shorter := Nat.le_succ_of_le (Nat.le_of_succ_le (Nat.le_trans shorter short))
          simp only
          split
          · exact .read (.behind _) shorter
          · exact .read (.behind _) shorter
          · exact .read (.behind _) shorter
          · exact .read (.behind _) shorter
          · exact .refused
        · rename_i brace
          split
          · rename_i e
            cases e
            obtain ⟨p, rfl⟩ := rest.of_cons ht (by decide)
            exact absurd rfl (brace _ p)
          · exact .refused
  · rename_i brace
    split
    · obtain ⟨p, rfl⟩ := h.of_cons ht (by decide)
      exact absurd rfl (brace p)
    · exact .read h (Nat.le_refl _)

/-- What an escape is that is read only with the tail: it takes a character of the tail, or it is a word
boundary with a brace behind it that begins nothing. -/
inductive Escaped.Lost (t : List Char) (v : Bool) : Escaped → List Char → Prop where
  | torn {e r} (torn : Torn t r) : Escaped.Lost t v e r
  | braced {a r} (braced : Braced t v r) : Escaped.Lost t v (.assertion a) r

/-- Escapes are read before a tail too. -/
lemma readEscape_trails (ht : IsTail t) (h : Trailed t s s') (v) :
    Trails t s.length (Escaped.Lost t v) (readEscape v s) (readEscape v s') := by
  cases s with
  | nil =>
    rcases h.nil with rfl | rfl
    · obtain ⟨c, u, rfl, hc⟩ := ht.cons
      have torn {e} : Escaped.Lost (c :: u) v e u := .torn (.cons c u)
      rcases hc with rfl | rfl <;> exact .lost torn
    · exact .refused
  | cons c r =>
    cases h.cons
    have here := Trailed.behind (t := t) r
    have short : r.length ≤ (c :: r).length := Nat.le_succ _
    have point (count) : Trails t (c :: r).length (Escaped.Lost t v)
        ((readCodePoint v (count + 1) r).map fun p => (Escaped.literal p.1, p.2))
        ((readCodePoint v (count + 1) (r ++ t)).map fun p => (Escaped.literal p.1, p.2)) :=
      ((readCodePoint_trails ht here v count).mono short).map fun _ _ gone => gone.elim
    have property (negated) : Trails t (c :: r).length (Escaped.Lost t v)
        ((readProperty v r).map fun p => (Escaped.property negated p.1, p.2))
        ((readProperty v (r ++ t)).map fun p => (Escaped.property negated p.1, p.2)) :=
      ((readProperty_trails ht here v).mono short).map fun _ _ => .torn
    have boundary : Trails t (c :: r).length (Escaped.Lost t v)
        ((readBoundary v r).map fun p => (Escaped.assertion p.1, p.2))
        ((readBoundary v (r ++ t)).map fun p => (Escaped.assertion p.1, p.2)) :=
      ((readBoundary_trails ht here v).mono short).map fun _ _ => .braced
    unfold readEscape
    simp only
    split
    case h_1 => exact point 1
    case h_2 => exact point 3
    case h_3 => exact point 7
    case h_4 => exact property false
    case h_5 => exact property true
    case h_23 => exact boundary
    case h_24 =>
      split
      · exact .read here short
      · exact .refused
    all_goals exact .read here short

/-! ## Names and flags of groups -/

/-- A tail holds no name of a group. -/
lemma readName_tail (hu : ∀ c ∈ s, c = '$' ∨ c = ')') (first) : ∃ e, readName first s = .error e := by
  induction s generalizing first with
  | nil => exact ⟨_, rfl⟩
  | cons c u ih =>
    obtain ⟨hc, hu⟩ := List.forall_mem_cons.1 hu
    have other : c ≠ '>' := by
      rcases hc with rfl | rfl <;> decide
    rw [readName, if_neg other]
    split
    · obtain ⟨e, rest⟩ := ih hu false
      rw [rest]
      exact ⟨e, rfl⟩
    · exact ⟨_, rfl⟩

/-- Names of groups are read before a tail too. -/
lemma readName_trails (ht : IsTail t) (h : Trailed t s s') (first) :
    Trails t s.length Kept (readName first s) (readName first s') := by
  induction s generalizing s' first with
  | nil =>
    rcases h.nil with rfl | rfl
    · obtain ⟨e, name⟩ := readName_tail ht.subset first
      rw [name]
      exact .refused
    · exact .refused
  | cons c r ih =>
    cases h.cons
    have short : r.length ≤ (c :: r).length := Nat.le_succ _
    rw [readName, readName]
    split
    · split
      · exact .refused
      · exact .read (.behind r) short
    · split
      · exact ((ih (.behind r) false).mono short).map fun _ _ gone => gone.elim
      · exact .refused

/-- Flags are read before a tail too. -/
lemma readFlags_trails (ht : IsTail t) (h : Trailed t s s') (change negated dangling) :
    Trails t s.length (fun _ => Torn t) (readFlags change negated dangling s)
      (readFlags change negated dangling s') := by
  induction s generalizing s' change negated dangling with
  | nil =>
    rcases h.nil with rfl | rfl
    · -- no flag is an end of the line, but a parenthesis ends the flags
      obtain ⟨c, u, rfl, rfl | rfl⟩ := ht.cons
      · exact .refused
      · cases dangling with
        | false => exact .lost (.cons _ u)
        | true => exact .refused
    · exact .refused
  | cons c r ih =>
    cases h.cons
    have short : r.length ≤ (c :: r).length := Nat.le_succ _
    have more (change negated dangling) := (ih (.behind r) change negated dangling).mono short
    rw [readFlags, readFlags]
    split
    · split
      · exact .refused
      · exact .read (.behind r) short
    · split
      · split
        · exact .refused
        · exact more _ _ _
      · cases flag? c with
        | none => exact .refused
        | some f =>
          simp only
          split
          · exact .refused
          · split <;> exact more _ _ _

/-- A tail does not make a group look around. -/
lemma looksAround_trailed (ht : IsTail t) (h : Trailed t s s') : looksAround s' = looksAround s := by
  cases h with
  | skipped => rfl
  | behind =>
    obtain ⟨c, u, rfl, rfl | rfl⟩ := ht.cons
    all_goals
      rcases s with _ | ⟨a, _ | ⟨b, _ | ⟨d, r⟩⟩⟩
      · rfl
      · unfold looksAround
        split <;> simp_all
      · unfold looksAround
        split <;> simp_all
      · unfold looksAround
        split <;> split <;> simp_all

end Readers

end Transcript.Pattern
