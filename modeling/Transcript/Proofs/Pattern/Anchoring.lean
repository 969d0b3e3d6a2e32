import Mathlib.Tactic.Common
import Transcript.Proofs.Pattern.Alternatives
import Transcript.Proofs.Pattern.Beginning
import Transcript.Proofs.Pattern.Groups

/-!
# Patterns at the beginning of a text

A pattern is matched at the beginning of a text by writing an anchored group around it. What this comes to
is read off the pattern alone (`Expr.read_enclosed`): a pattern that can be read on its own begins its
match where the text begins, with the groups that it has on its own; what cannot be read on its own cannot
be read in the group, unless it closes a group that it does not open. There the parenthesis closes the one
that was written around it, and the pattern matches what it should not (`groupsAtStart?_unopened`). In
terms of the ways of the pattern this is `groupsAtStart?_spec`. Only how much room a pattern takes cannot be
read off: what is too large on its own need not be so in the group, and the other way round.
-/

namespace Transcript.Pattern

/-- How a pattern fares on its own and in a group that is written around it. It can be read on its own,
and in the group it becomes `f` of that; or there a comment takes the closing parenthesis along, or the limit
on nesting is passed; or neither can be read; or the pattern closes a group that it does not open. -/
inductive Enclosed {α β : Type} (f : α → β) : Except PatternError α → Except PatternError β → Prop where
  | closed {a} : Enclosed f (.ok a) (.ok (f a))
  | failed {a e} (cause : e = .unclosedGroup ∨ e = .tooDeep) : Enclosed f (.ok a) (.error e)
  | refused {e e'} : Enclosed f (.error e) (.error e')
  | unopened {y} : Enclosed f (.error .unopenedGroup) y

/-- One step after the other, on its own and in the group. -/
lemma Enclosed.bind {α β γ δ : Type} {f : α → β} {f' : γ → δ} {x y} {k : α → Except PatternError γ}
    {k' : β → Except PatternError δ} (h : Enclosed f x y) (next : ∀ a, Enclosed f' (k a) (k' (f a))) :
    Enclosed f' (x.bind k) (y.bind k') := by
  cases h with
  | closed => exact next _
  | @failed a e cause =>
    simp only [Except.bind]
    cases k a with
    | ok c => exact .failed cause
    | error e' => exact .refused
  | refused => exact .refused
  | unopened => exact .unopened

section Reading

variable {rest r : List Char} {st : State} {g : OpenGroup} {n : Nat}

namespace State

/-- Where only a parenthesis is left, it closes the group. -/
lemma run_parenthesis (closed : st.stack = []) (tail : skipIgnored st.verbose r = [')']) :
    run (n + 2) (st.within g r) = .ok (g.before.push (.group g.kind st.level.close)) := by
  obtain ⟨_, v, captures, names, level, stack⟩ := st
  cases closed
  obtain ⟨before, kind, v'⟩ := g
  rw [run]
  simp only [within, tail]
  cases v' <;> rfl

/-- Where only a parenthesis is left and a group inside is open, the one around it stays open. -/
lemma run_parenthesis_open {inner stack} (opened : st.stack = inner :: stack)
    (tail : skipIgnored st.verbose r = [')']) : run n (st.within g r) = .error .unclosedGroup := by
  obtain ⟨_, v, captures, names, level, _⟩ := st
  cases opened
  obtain ⟨before, kind, v'⟩ := inner
  cases n with
  | zero => rfl
  | succ n =>
    rw [run]
    simp only [within, tail]
    cases n with
    | zero => rfl
    | succ n => cases v' <;> cases stack <;> rfl

/-- A brace that begins no count is refused. -/
lemma run_braced (braced : Braced [')'] st.verbose r) : ∃ e, run n (st.within g r) = .error e := by
  obtain ⟨q, rfl, left⟩ := braced
  cases n with
  | zero => exact ⟨_, rfl⟩
  | succ n =>
    have brace : skipIgnored st.verbose ('{' :: q) = '{' :: q := by
      cases st.verbose <;> rfl
    have count : ∃ e, (st.within g ('{' :: q)).readCount q = .error e := by
      unfold readCount
      split
      · exact ⟨_, rfl⟩
      · exact ⟨_, rfl⟩
      · exact ⟨_, rfl⟩
      · have none (v) : readDecimal v [')'] = .ok (none, [')']) := by
          cases v <;> rfl
        have verbose : (st.within g ('{' :: q)).verbose = st.verbose := rfl
        rw [verbose, left, none]
        exact ⟨_, rfl⟩
    obtain ⟨e, count⟩ := count
    have step : (st.within g ('{' :: q)).step '{' q = .error e := count
    have verbose : (st.within g ('{' :: q)).verbose = st.verbose := rfl
    have text : (st.within g ('{' :: q)).rest = '{' :: q := rfl
    rw [run, verbose, text, brace]
    simp only [step]
    exact ⟨e, rfl⟩

variable (st g) in
/-- A pattern fares in a group as it does on its own. -/
theorem run_enclosed {m} (h : Trailed [')'] st.rest rest) (lt : st.rest.length < m)
    (lt' : st.rest.length + 1 < n) :
    Enclosed (fun level => g.before.push (.group g.kind level.close)) (run m st)
      (run n (st.within g rest)) := by
  have ht : IsTail [')'] := ⟨List.cons_ne_nil _ _, by simp⟩
  have framed := st.run_framed g ht h lt lt'
  generalize run m st = x at framed
  generalize run n (st.within g rest) = y at framed
  cases framed with
  | @ended last r n left =>
    cases opened : last.stack with
    | nil =>
      rw [finish_eq_ok.2 ⟨opened, rfl⟩]
      rcases left with tail | nothing
      · rw [run_parenthesis opened tail]
        exact .closed
      · rw [run_nothing nothing]
        exact .failed (.inl rfl)
    | cons inner stack =>
      have alone : last.finish = .error .unclosedGroup := by
        rw [finish, opened]
      rw [alone]
      rcases left with tail | nothing
      · rw [run_parenthesis_open opened tail]
        exact .refused
      · rw [run_nothing nothing]
        exact .refused
  | refused => exact .refused
  | unopened => exact .unopened
  | @torn e st r n torn =>
    -- of a single parenthesis nothing is left
    obtain rfl : r = [] := List.length_eq_zero_iff.1 (Nat.lt_one_iff.1 torn.shorter)
    rw [run_nothing (by cases st.verbose <;> rfl)]
    exact .refused
  | @braced e st r n braced =>
    obtain ⟨e', none⟩ := run_braced (g := g) (n := n) braced
    rw [none]
    exact .refused

end State

/-- A pattern is read in an anchored group as it is on its own. -/
lemma Level.read_enclosed (p : List Char) :
    Enclosed Level.anchored (Level.read p) (Level.read (Pattern.anchored p)) := by
  have run : Enclosed Level.anchored (State.run (p.length + 1) { rest := p })
      (State.run (p.length + 4) (State.within { rest := p } anchorGroup (p ++ [')']))) :=
    State.run_enclosed { rest := p } anchorGroup (.behind p) (Nat.lt_succ_self _)
      (Nat.add_lt_add_left (show 1 < 4 by decide) p.length)
  unfold Level.read
  rw [State.run_anchored p p]
  refine run.bind fun level => ?_
  -- the group and the row around it are two levels more
  have depth : level.anchored.close.depth = level.close.depth + 1 + 1 := by
    simp only [Level.anchored, Level.close, Ast.ofParts, List.reverse_cons, List.reverse_nil,
      List.nil_append, List.cons_append, Ast.depth, Ast.depthAll]
    omega
  split
  · split
    · exact .closed
    · exact .failed (.inr rfl)
  · rename_i deep
    rw [if_neg (by omega)]
    exact .refused

end Reading

namespace Expr

/-- The groups of a row are those of its parts. -/
lemma groupCount_row (es : List Expr) : (row es).groupCount = groupCountAll es := by
  have append (es fs : List Expr) :
      groupCountAll (es ++ fs) = max (groupCountAll es) (groupCountAll fs) := by
    induction es with
    | nil => exact (Nat.max_eq_right (groupCountAll_pos fs)).symm
    | cons e es ih => rw [List.cons_append, groupCountAll, groupCountAll, ih, Nat.max_assoc]
  -- a row is made of the parts of its parts, and neighbouring literals are joined
  have parts (e es) : groupCountAll (rowParts e ++ es) = groupCountAll (e :: es) := by
    rw [append, groupCountAll]
    unfold rowParts
    split
    · rfl
    · rfl
    · rw [groupCountAll, groupCountAll, Nat.max_eq_left (groupCount_pos e)]
  have joined (e es) : groupCountAll (consPart e es) = groupCountAll (e :: es) := by
    unfold consPart
    split
    · simp only [groupCountAll, groupCount]
      omega
    · rfl
  have cons (e es fs) (same : groupCountAll es = groupCountAll fs) :
      groupCountAll (e :: es) = groupCountAll (e :: fs) := by
    rw [groupCountAll, groupCountAll, same]
  have whole := row_eq groupCountAll parts joined cons es
  rw [← whole, groupCountAll, groupCountAll, Nat.max_eq_left (groupCount_pos _)]

variable {s : List Char} {e : Expr}

/-- A beginning of the text in front of an expression adds no group. -/
lemma groupCount_anchored (e : Expr) : (row [.look .start, e]).groupCount = e.groupCount := by
  rw [groupCount_row]
  simp only [groupCountAll, groupCount]
  have := groupCount_pos e
  omega

/-- The ways of an anchored expression are those of the expression where the text begins. -/
lemma matches_anchored_iff {first b} (within : first ≤ s.length) :
    (row [.look .start, e]).Matches s.toArray ⟨first, [(0, first)]⟩ b ↔
      first = 0 ∧ e.Matches s.toArray ⟨0, [(0, 0)]⟩ b := by
  rw [matches_row]
  constructor
  · rintro ⟨_, ⟨here, rfl⟩, way⟩
    obtain rfl : first = 0 := (holds_start_iff within).1 here
    exact ⟨rfl, (matchesAll_singleton e).1 way⟩
  · rintro ⟨rfl, way⟩
    exact ⟨_, ⟨(holds_start_iff within).2 rfl, rfl⟩, (matchesAll_singleton e).2 way⟩

/-- An anchored expression finds something exactly where a way of the expression begins with the text. -/
lemma find?_anchored_isSome_iff :
    ((row [.look .start, e]).find? s).isSome ↔ ∃ b, e.Matches s.toArray ⟨0, [(0, 0)]⟩ b := by
  rw [find?_isSome_iff]
  constructor
  · rintro ⟨first, within, b, way⟩
    exact ⟨b, ((matches_anchored_iff within).1 way).2⟩
  · rintro ⟨b, way⟩
    exact ⟨0, Nat.zero_le _, b, (matches_anchored_iff (Nat.zero_le _)).2 ⟨rfl, way⟩⟩

/-- An anchored expression finds the groups of a way of the expression, and the first of them is how far it
goes. -/
lemma find?_anchored_some {groups} (h : (row [.look .start, e]).find? s = some groups) :
    ∃ b, e.Matches s.toArray ⟨0, [(0, 0)]⟩ b ∧
      groups = (List.range e.groupCount).map (groupText s.toArray ((1, b.pos) :: b.saved)) := by
  obtain ⟨first, within, b, way, rfl⟩ := find?_some h
  obtain ⟨rfl, way'⟩ := (matches_anchored_iff within).1 way
  exact ⟨b, way', by rw [groupCount_anchored]⟩

/-- Where a way of an expression begins with the text, what is found of the anchored expression is what is
found of the expression. -/
lemma find?_anchored_eq {b} (way : e.Matches s.toArray ⟨0, [(0, 0)]⟩ b) :
    (row [.look .start, e]).find? s = e.find? s := by
  simp only [find?, search_start_eq way, groupCount_anchored]

/-- A pattern is read in an anchored group as it is on its own, with a beginning of the text in front of
it. -/
theorem read_enclosed [Dialect] (p : List Char) :
    Enclosed (fun e => row [.look .start, e]) (Expr.read p) (Expr.read (anchored p)) := by
  refine (Level.read_enclosed p).bind fun level => ?_
  rw [Level.elaborate_anchored_eq]
  cases level.close.elaborate {} with
  | ok e => exact .closed
  | error e => exact .refused

end Expr

/-- A pattern that can be read on its own is found exactly where one of its ways begins with the text, if
the group around it is accepted too. What is found then is what is found of the pattern itself: the groups
of such a way, each of them empty if it took no part, and the first of them a beginning of the text. What
cannot be read on its own is not found, unless it closes a group that it does not open. -/
theorem groupsAtStart?_spec [Dialect] (p s : List Char) :
    match Expr.read p with
    | .ok e =>
      ((groupsAtStart? p s).isSome ↔
        (compile (anchored p)).isOk ∧ ∃ b, e.Matches s.toArray ⟨0, [(0, 0)]⟩ b) ∧
      (∀ err, compile (anchored p) = .error err →
        err = .unclosedGroup ∨ err = .tooDeep ∨ err = .tooLarge) ∧
      ∀ groups, groupsAtStart? p s = some groups →
        e.find? s = some groups ∧
          ∃ b, e.Matches s.toArray ⟨0, [(0, 0)]⟩ b ∧
            groups = (List.range e.groupCount).map (groupText s.toArray ((1, b.pos) :: b.saved)) ∧
            groups.head? = some (s.take b.pos)
    | .error err => err = .unopenedGroup ∨ groupsAtStart? p s = none := by
  have enclosed := Expr.read_enclosed p
  unfold groupsAtStart? compile
  generalize Expr.read p = x at enclosed
  generalize Expr.read (anchored p) = y at enclosed
  cases enclosed with
  | @closed e =>
    cases large : Dialect.tooLarge (anchored p) (Expr.row [.look .start, e]) with
    | true =>
      simp only [large, if_true]
      refine ⟨?_, ?_, nofun⟩
      · simp [Except.isOk, Except.toBool]
      · rintro err ⟨⟩
        exact .inr (.inr rfl)
    | false =>
      simp only [large, Bool.false_eq_true, if_false]
      refine ⟨?_, nofun, fun groups found => ?_⟩
      · simp only [Except.isOk, Except.toBool, true_and]
        exact Expr.find?_anchored_isSome_iff
      · obtain ⟨b, way, same⟩ := Expr.find?_anchored_some found
        have own : e.find? s = some groups := (Expr.find?_anchored_eq way).symm.trans found
        exact ⟨own, b, way, same, same ▸ Expr.head?_groups way⟩
  | failed cause =>
    refine ⟨?_, ?_, nofun⟩
    · simp [Except.isOk, Except.toBool]
    · rintro err ⟨⟩
      exact cause.imp_right .inl
  | refused => exact .inr rfl
  | unopened => exact .inl rfl

/-- What closes a group that it does not open is no pattern, and is found all the same. -/
theorem groupsAtStart?_unopened :
    compile [')', '|', '(', 'b'] = .error .unopenedGroup ∧
      groupsAtStart? [')', '|', '(', 'b'] ['x', 'b'] = some [[], []] :=
  ⟨rfl, by decide⟩

end Transcript.Pattern
