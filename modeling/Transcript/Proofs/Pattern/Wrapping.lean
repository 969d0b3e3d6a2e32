import Mathlib.Tactic.Common
import Transcript.Pattern.Search
import Transcript.Proofs.Pattern.TrailingSets

/-!
# Patterns in a group

A pattern that can be read on its own is read in the same way inside a group: with one more group open
around it, every step does the same (`State.step_framed`), so that both come to the end of the pattern
together, or the reader on its own is refused (`State.run_framed`). What a pattern is read as in front of
an end of the line, inside a group that is anchored, follows from that (`Level.read_anchored`).
-/

namespace Transcript.Pattern

/-- The same state with one more group open around everything, and with other text to read. -/
def State.within (st : State) (g : OpenGroup) (rest : List Char) : State :=
  { st with rest, stack := st.stack ++ [g] }

/-- How one step fares on its own and another one inside a group. Both come to the same, and what is left
has the tail behind it and `n` characters at most; or both fail; or a group is closed that was not opened;
or only the one inside comes to something, in front of what a tail leaves or of a brace that begins
nothing. -/
inductive Steps (t : List Char) (n : Nat) (g : OpenGroup) :
    Except PatternError State → Except PatternError State → Prop where
  | taken {st : State} {r'} (left : Trailed t st.rest r') (short : st.rest.length ≤ n) :
    Steps t n g (.ok st) (.ok (st.within g r'))
  | refused {e e'} : Steps t n g (.error e) (.error e')
  | unopened {y} : Steps t n g (.error .unopenedGroup) y
  | torn {e} {st : State} {r'} (torn : Torn t r') : Steps t n g (.error e) (.ok (st.within g r'))
  | braced {e} {st : State} {r'} (braced : Braced t st.verbose r') :
    Steps t n g (.error e) (.ok (st.within g r'))

/-- How a text is read to its end on its own and inside a group. Both come to the end, where inside the
group the tail is left, or nothing when a comment has taken it along; or both fail; or a group is closed
that was not opened; or only the reader inside goes on. -/
inductive Ends (t : List Char) (g : OpenGroup) :
    Except PatternError Level → Except PatternError Level → Prop where
  | ended {last : State} {r n} (left : skipIgnored last.verbose r = t ∨ skipIgnored last.verbose r = []) :
    Ends t g last.finish (State.run (n + 2) (last.within g r))
  | refused {e e'} : Ends t g (.error e) (.error e')
  | unopened {y} : Ends t g (.error .unopenedGroup) y
  | torn {e} {st : State} {r n} (torn : Torn t r) : Ends t g (.error e) (State.run n (st.within g r))
  | braced {e} {st : State} {r n} (braced : Braced t st.verbose r) :
    Ends t g (.error e) (State.run n (st.within g r))

section Combinators

variable {α : Type} {t : List Char} {m n : Nat} {g : OpenGroup} {lost : α → List Char → Prop} {x y : Read α}

/-- A state after a reader. -/
lemma Steps.bind {f f' : α × List Char → Except PatternError State} (h : Trails t m lost x y)
    (next : ∀ a r r', Trailed t r r' → r.length ≤ m → Steps t n g (f (a, r)) (f' (a, r')))
    (after : ∀ a r' e, lost a r' → Steps t n g (.error e) (f' (a, r'))) :
    Steps t n g (x.bind f) (y.bind f') := by
  cases h with
  | read left short => exact next _ _ _ left short
  | refused => exact .refused
  | lost gone => exact after _ _ _ gone

/-- A state that a reader decides. -/
lemma Steps.map {f f' : α × List Char → State} (h : Trails t m lost x y)
    (next : ∀ a r r', Trailed t r r' → r.length ≤ m → Steps t n g (.ok (f (a, r))) (.ok (f' (a, r'))))
    (after : ∀ a r' e, lost a r' → Steps t n g (.error e) (.ok (f' (a, r')))) :
    Steps t n g (x.map f) (y.map f') := by
  cases h with
  | read left short => exact next _ _ _ left short
  | refused => exact .refused
  | lost gone => exact after _ _ _ gone

/-- A state after a reader that loses nothing. -/
lemma Steps.bind_kept {f f' : α × List Char → Except PatternError State} (h : Trails t m Kept x y)
    (next : ∀ a r r', Trailed t r r' → r.length ≤ m → Steps t n g (f (a, r)) (f' (a, r'))) :
    Steps t n g (x.bind f) (y.bind f') :=
  .bind h next fun _ _ _ gone => gone.elim

end Combinators

/-- A tail makes no operator lazy. -/
lemma readGreed_trailed {t r r'} (ht : IsTail t) (h : Trailed t r r') :
    (readGreed r').1 = (readGreed r).1 ∧ Trailed t (readGreed r).2 (readGreed r').2 := by
  cases h with
  | skipped => exact ⟨rfl, .skipped⟩
  | behind =>
    cases r with
    | nil => obtain ⟨c, u, rfl, rfl | rfl⟩ := ht.cons <;> exact ⟨rfl, .behind []⟩
    | cons c q =>
      -- only the first character counts, and it is the same
      by_cases mark : c = '?'
      · subst mark
        exact ⟨rfl, .behind q⟩
      · have greedy (u) : readGreed (c :: u) = (true, c :: u) := by
          simp [readGreed, mark]
        rw [List.cons_append, greedy, greedy]
        exact ⟨rfl, .behind (c :: q)⟩

/-- What follows an operator is no longer. -/
lemma length_readGreed_le (r) : (readGreed r).2.length ≤ r.length := by
  unfold readGreed
  split
  · exact Nat.le_succ _
  · exact Nat.le_refl _

namespace State

variable {t r r' rest : List Char} {n : Nat} {g : OpenGroup} (st : State)

/-- An operator does the same inside a group. -/
lemma repeat_framed (ht : IsTail t) (h : Trailed t r r') (short : r.length ≤ n) (min max) :
    Steps t n g (st.repeat min max r) ((st.within g rest).repeat min max r') := by
  have parts : (st.within g rest).level.parts = st.level.parts := rfl
  obtain ⟨same, left⟩ := readGreed_trailed ht h
  simp only [State.repeat, parts, same]
  split
  · exact .refused
  · exact .refused
  · exact .refused
  · exact .taken left (Nat.le_trans (length_readGreed_le r) short)

/-- The end of a count is the same inside a group. -/
lemma finishCount_framed (ht : IsTail t) (h : Trailed t r r') (short : r.length ≤ n) (min max) :
    Steps t n g (st.finishCount min max r) ((st.within g rest).finishCount min max r') := by
  unfold finishCount
  split
  · rename_i q
    rw [h.cons]
    simp only
    split
    · exact st.repeat_framed ht ((Trailed.behind q).skipIgnored ht st.verbose)
        (Nat.le_trans (length_skipIgnored_le st.verbose q) (Nat.le_of_succ_le short)) min max
    · exact .refused
  · rename_i brace
    split
    · obtain ⟨p, rfl⟩ := h.of_cons ht (by decide)
      exact absurd rfl (brace p)
    · exact .refused

/-- The second number of a count is the same inside a group. -/
lemma readMost_framed (ht : IsTail t) (h : Trailed t r r') (short : r.length ≤ n) (min) :
    Steps t n g (st.readMost min r) ((st.within g rest).readMost min r') := by
  have most : Steps t n g ((readDecimal st.verbose r).bind (st.finishMost min))
      ((readDecimal st.verbose r').bind ((st.within g rest).finishMost min)) := by
    refine .bind_kept (readDecimal_trails ht h st.verbose) fun max q q' h shorter => ?_
    cases max with
    | none => exact .refused
    | some max => exact st.finishCount_framed ht h (Nat.le_trans shorter short) min (some max)
  unfold readMost
  split
  · rw [h.cons]
    exact st.finishCount_framed ht (.behind _) short min none
  · rename_i brace
    split
    · obtain ⟨p, rfl⟩ := h.of_cons ht (by decide)
      exact absurd rfl (brace p)
    · exact most

/-- A count is the same inside a group. -/
lemma readCount_framed (ht : IsTail t) (h : Trailed t r r') (short : r.length ≤ n) :
    Steps t n g (st.readCount r) ((st.within g rest).readCount r') := by
  have parts : (st.within g rest).level.parts = st.level.parts := rfl
  unfold readCount
  rw [parts]
  split
  · exact .refused
  · exact .refused
  · exact .refused
  · refine .bind_kept (readDecimal_trails ht (h.skipIgnored ht st.verbose) st.verbose)
      fun min q q' h shorter => ?_
    have short := Nat.le_trans shorter (Nat.le_trans (length_skipIgnored_le st.verbose r) short)
    cases min with
    | none => exact .refused
    | some min =>
      split
      · rename_i e
        cases e
      · rename_i p e
        cases e
        rw [h.cons]
        exact st.readMost_framed ht ((Trailed.behind p).skipIgnored ht st.verbose)
          (Nat.le_trans (length_skipIgnored_le st.verbose p) (Nat.le_of_succ_le short)) min
      · rename_i comma e
        cases e
        split
        · rename_i e
          cases e
        · rename_i e
          cases e
          obtain ⟨p, rfl⟩ := h.of_cons ht (by decide)
          exact absurd rfl (comma p)
        · rename_i e
          cases e
          exact st.finishCount_framed ht h short min (some min)

/-- A group with a name is opened inside a group in the same way. -/
lemma openNamed_framed (ht : IsTail t) (h : Trailed t r r') (short : r.length ≤ n) :
    Steps t n g (st.openNamed r) ((st.within g rest).openNamed r') := by
  refine .bind_kept (readName_trails ht h true) fun name q q' h shorter => ?_
  have names : (st.within g rest).names = st.names := rfl
  simp only [names]
  split
  · exact .refused
  · exact .taken h (Nat.le_trans shorter short)

/-- Flags, and the group if they open one, are the same inside a group. -/
lemma readFlagGroup_framed (ht : IsTail t) (h : Trailed t r r') (short : r.length ≤ n) :
    Steps t n g (st.readFlagGroup r) ((st.within g rest).readFlagGroup r') := by
  refine .bind (readFlags_trails ht h {} false false) (fun ending q q' h shorter => ?_)
    fun ending q' e gone => ?_
  · simp only
    split
    · split
      · exact .refused
      · exact .taken h (Nat.le_trans shorter short)
    · exact .taken h (Nat.le_trans shorter short)
  · -- whatever the flags change, the parenthesis that ended them is gone from the tail
    have torn (st' : State) : Steps t n g (.error e) (.ok (st'.within g q')) := .torn gone
    simp only
    split
    · split
      · exact .refused
      · exact torn { st with
          verbose := (ending.1.state? .verbose).getD st.verbose
          level := st.level.push (.flags ending.1) }
    · exact torn (st.openGroup (.plain ending.1) ((ending.1.state? .verbose).getD st.verbose) [])

/-- A group is opened inside a group in the same way. -/
lemma readGroup_framed (ht : IsTail t) (h : Trailed t r r') (short : r.length ≤ n) :
    Steps t n g (st.readGroup r) ((st.within g rest).readGroup r') := by
  have left := h.skipIgnored ht st.verbose
  have same := looksAround_trailed ht left
  have short := Nat.le_trans (length_skipIgnored_le st.verbose r) short
  have verbose : (st.within g rest).verbose = st.verbose := rfl
  simp only [readGroup, verbose, same]
  split
  · exact .refused
  · generalize skipIgnored st.verbose r = u at left short
    generalize skipIgnored st.verbose r' = u' at left
    split
    · rename_i q
      rw [left.cons]
      have shorter : q.length ≤ n := Nat.le_trans (by simp only [List.length_cons]; omega) short
      exact st.openNamed_framed ht (.behind q) shorter
    · rename_i q
      rw [left.cons]
      have shorter : q.length ≤ n := Nat.le_trans (by simp only [List.length_cons]; omega) short
      exact st.openNamed_framed ht (.behind q) shorter
    · rw [left.cons]
      obtain ⟨c, u, rfl, rfl | rfl⟩ := ht.cons <;> exact .refused
    · rename_i q named short' nonempty
      rw [left.cons]
      -- no mark of another kind of group can come about at the seam
      have inner := Trailed.behind (t := t) q
      generalize q ++ t = w at inner
      split
      · rename_i e
        cases e
        obtain ⟨p, rfl⟩ := inner.of_cons ht (by decide)
        obtain ⟨p, rfl⟩ := inner.tail.of_cons ht (by decide)
        exact absurd rfl (named p)
      · rename_i e
        cases e
        obtain ⟨p, rfl⟩ := inner.of_cons ht (by decide)
        exact absurd rfl (short' p)
      · rename_i e
        cases e
        cases List.length_eq_zero_iff.1 (Nat.le_zero.1 inner.length_le)
        exact absurd rfl nonempty
      · rename_i e
        cases e
        exact st.readFlagGroup_framed ht inner (Nat.le_of_succ_le short)
      · rename_i none
        exact absurd rfl (none w)
    · rename_i mark
      have apart {q} (e : u' = '?' :: q) : False := by
        subst e
        obtain ⟨p, rfl⟩ := left.of_cons ht (by decide)
        exact mark p rfl
      split
      · exact (apart rfl).elim
      · exact (apart rfl).elim
      · exact (apart rfl).elim
      · exact (apart rfl).elim
      · exact .taken left short

/-- A group inside a group is closed in the same way. -/
lemma closeGroup_framed (h : Trailed t r r') (short : r.length ≤ n) :
    Steps t n g (st.closeGroup r) ((st.within g rest).closeGroup r') := by
  obtain ⟨_, v, captures, names, level, _ | ⟨open', stack⟩⟩ := st
  · exact .unopened
  · exact .taken h short

variable (rest g) in
/-- Every step does the same inside a group. -/
theorem step_framed (ht : IsTail t) (c r) :
    Steps t r.length g (st.step c r) ((st.within g rest).step c (r ++ t)) := by
  have here := Trailed.behind (t := t) r
  have short := Nat.le_refl r.length
  unfold step
  simp only
  split
  · exact st.readGroup_framed ht here short
  · exact st.closeGroup_framed here short
  · exact .taken here short
  · exact .map (readBracket_trails ht here st.verbose) (fun a q q' h shorter => .taken h shorter)
      fun _ _ _ gone => gone.elim
  · exact st.repeat_framed ht here short _ _
  · exact st.repeat_framed ht here short _ _
  · exact st.repeat_framed ht here short _ _
  · exact st.readCount_framed ht here short
  · refine .map (readEscape_trails ht here st.verbose) (fun a q q' h shorter => .taken h shorter)
      fun a q' e gone => ?_
    show Steps t r.length g (.error e) (.ok (State.within { st with level := st.level.push a.ast } g q'))
    cases gone with
    | torn torn => exact .torn torn
    | braced braced => exact .braced braced
  all_goals exact .taken here short

variable (g) in
/-- A text is read inside a group as it is on its own. -/
theorem run_framed (ht : IsTail t) {m} (h : Trailed t st.rest rest) (lt : st.rest.length < m)
    (lt' : st.rest.length + 1 < n) : Ends t g (run m st) (run n (st.within g rest)) := by
  induction m generalizing n st rest with
  | zero => exact absurd lt (Nat.not_lt_zero _)
  | succ m ih =>
    have left := h.skipIgnored ht st.verbose
    have short := length_skipIgnored_le st.verbose st.rest
    rw [run]
    cases e : skipIgnored st.verbose st.rest with
    | nil =>
      rw [e] at left
      -- either the tail is left now, or a comment has taken it along
      obtain ⟨n, rfl⟩ : ∃ k, n = k + 2 := Nat.exists_eq_add_of_le' (by omega)
      exact .ended left.nil
    | cons c r =>
      rw [e] at left short
      obtain ⟨n, rfl⟩ : ∃ k, n = k + 1 := Nat.exists_eq_succ_of_ne_zero (by omega)
      have lt : r.length < m := Nat.lt_of_lt_of_le short (Nat.le_of_lt_succ lt)
      have lt' : r.length + 1 < n := Nat.lt_of_le_of_lt short (Nat.lt_of_succ_lt_succ lt')
      have framed := st.step_framed rest g ht c r
      have verbose : (st.within g rest).verbose = st.verbose := rfl
      have text : (st.within g rest).rest = rest := rfl
      rw [run, verbose, text, left.cons]
      simp only
      generalize st.step c r = x at framed
      generalize (st.within g rest).step c (r ++ t) = y at framed
      -- a step takes a character, so both go on with less to read, or the one on its own is refused
      cases framed with
      | taken left shorter =>
        exact ih _ left (Nat.lt_of_le_of_lt shorter lt)
          (Nat.lt_of_le_of_lt (Nat.succ_le_succ shorter) lt')
      | refused => exact .refused
      | unopened => exact .unopened
      | torn torn => exact .torn torn
      | braced braced => exact .braced braced

variable {st}

/-- A text is read when no group is open at its end. -/
lemma finish_eq_ok {level} : st.finish = .ok level ↔ st.stack = [] ∧ st.level = level := by
  unfold finish
  cases st.stack with
  | nil =>
    constructor
    · rintro ⟨⟩
      exact ⟨rfl, rfl⟩
    · rintro ⟨-, rfl⟩
      rfl
  | cons inner stack => exact iff_of_false nofun fun both => List.cons_ne_nil _ _ both.1

/-- Where nothing is left, a group stays open. -/
lemma run_nothing {r n} (nothing : skipIgnored st.verbose r = []) :
    run n (st.within g r) = .error .unclosedGroup := by
  obtain ⟨_, v, captures, names, level, stack⟩ := st
  cases n with
  | zero => rfl
  | succ n =>
    simp only [run, within, nothing]
    cases stack <;> rfl

end State

/-- Alternatives in a group that begins where the text begins. -/
def Level.anchored (level : Level) : Level :=
  ⟨[], [.group (.plain {}) level.close, .assertion .startLine]⟩

section Anchors

variable {p : List Char} {level level' : Level}

/-- The group that is open around an anchored pattern. -/
def anchorGroup : OpenGroup where
  before := ⟨[], [.assertion .startLine]⟩
  kind := .plain {}
  verbose := false

/-- What is read of an anchored pattern is read inside a group. -/
lemma State.run_anchored (p q : List Char) :
    State.run ((Pattern.anchored q).length + 1) { rest := Pattern.anchored q } =
      State.run (q.length + 4) (State.within { rest := p } anchorGroup (q ++ [')'])) := by
  have length : (Pattern.anchored q).length + 1 = q.length + 4 + 2 := by
    simp [Pattern.anchored]
  rw [length, Pattern.anchored, List.append_assoc]
  rfl

/-- What is read behind a pattern in front of the end of a line and of its group. -/
lemma State.run_end {st : State} {g : OpenGroup} {r n} (closed : st.stack = [])
    (tail : skipIgnored st.verbose r = ['$', ')']) (h : State.run n (st.within g r) = .ok level') :
    level' = g.before.push (.group g.kind (st.level.push (.assertion .endLine)).close) := by
  obtain ⟨_, v, captures, names, level, stack⟩ := st
  cases closed
  obtain ⟨before, kind, v'⟩ := g
  cases n with
  | zero => cases h
  | succ n =>
    rw [run] at h
    simp only [within, tail] at h
    rcases n with _ | _ | n
    · cases h
    · cases v <;> cases h
    · cases v <;> cases v' <;> exact (Except.ok.inj h).symm

/-- What is read of a text is what the reader comes to at its end. -/
lemma Level.run_of_read {s : List Char} (h : Level.read s = .ok level) :
    State.run (s.length + 1) { rest := s } = .ok level := by
  unfold Level.read at h
  cases r : State.run (s.length + 1) { rest := s } with
  | error err =>
    rw [r] at h
    cases h
  | ok b =>
    rw [r] at h
    simp only [Except.bind] at h
    split at h
    · exact h
    · cases h

/-- A pattern that can be read on its own is read as the same alternatives in front of the end of a line
inside an anchored group, if that can be read at all. -/
theorem Level.read_anchored (alone : Level.read p = .ok level)
    (inside : Level.read (Pattern.anchored (p ++ ['$'])) = .ok level') :
    level' = (level.push (.assertion .endLine)).anchored := by
  have ht : IsTail ['$', ')'] := ⟨List.cons_ne_nil _ _, by simp⟩
  have alone := Level.run_of_read alone
  have inside := Level.run_of_read inside
  rw [State.run_anchored p, List.append_assoc, List.singleton_append] at inside
  have run := State.run_framed anchorGroup { rest := p } ht (.behind p) (Nat.lt_succ_self p.length)
    (show p.length + 1 < (p ++ ['$']).length + 4 by simp only [List.length_append]; omega)
  generalize State.run (p.length + 1) { rest := p } = x at alone run
  generalize State.run _ (State.within { rest := p } anchorGroup (p ++ ['$', ')'])) = y at inside run
  cases run with
  | ended left =>
    obtain ⟨closed, rfl⟩ := State.finish_eq_ok.1 alone
    rcases left with tail | nothing
    · exact State.run_end closed tail inside
    · rw [State.run_nothing nothing] at inside
      cases inside
  | refused => cases alone
  | unopened => cases alone
  | torn => cases alone
  | braced => cases alone

end Anchors

end Transcript.Pattern
