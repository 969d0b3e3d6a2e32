import Mathlib.Tactic.Common
import Transcript.Proofs.Expectation.Comparison
import Transcript.Proofs.Expectation.Lines
import Transcript.Proofs.Pattern.Alternatives
import Transcript.Proofs.Pattern.Groups

/-!
# Whole lines

An expected line is tested by writing an end of the line behind it and an anchored group around both.
This asks for the whole line only where the expected line is a pattern on its own, and there only of its
last alternative, and of that only as far as its flags let an end of the line be the end of the text
(`CutAt`). Where no line is cut short, an accepted output is matched line by line as a whole, and the
first group is the last line; the exact condition is `compare_wholeLines_iff`.
-/

namespace Transcript.Expectation

open Pattern

/-- An expression matches a text from its beginning up to a position. -/
def MatchesTo (e : Expr) (s : List Char) (stop : Nat) : Prop :=
  ∃ b : Spot, e.Matches s.toArray ⟨0, []⟩ b ∧ b.pos = stop

/-- A text is a pattern on its own. -/
def IsPattern [Dialect] (p : List Char) : Prop :=
  ∃ e, compile p = .ok e

/-- A text is a pattern on its own and matches a line from its first to its last character. -/
def MatchesWhole [Dialect] (p s : List Char) : Prop :=
  ∃ e, compile p = .ok e ∧ MatchesTo e s s.length

/-- A pattern may stop before the end of a line: one of its alternatives but the last one matches so
far, or the last one does in front of a carriage return, and the flags at its end say that a line ends
there. -/
def CutAt [Dialect] (p s : List Char) (stop : Nat) : Prop :=
  ∃ es last flags, Expr.readAlternatives p = .ok (es ++ [last], flags) ∧ stop < s.length ∧
    ((∃ e ∈ es, MatchesTo e s stop) ∨
      MatchesTo last s stop ∧ flags.multiLine = true ∧ flags.carriageReturns = true ∧
        s[stop]? = some '\r')

/-- Every line is matched as a whole by what was expected, and the first of the groups is the last
line. -/
def WholeLines [Dialect] (expected : List (List Char)) (output : List Char)
    (groups : Option (List (List Char))) : Prop :=
  (∀ pair ∈ comparedLines expected output, MatchesWhole pair.1 pair.2) ∧
    ∀ gs ∈ groups, ∀ pair ∈ (comparedLines expected output).getLast?, gs.head? = some pair.2

section Conditions

variable {s : List Char} {pos : Nat} {e : Expr}

/-- In a single line, its end is the end of the text, or in front of a carriage return where the flags
say so. -/
lemma holds_endLine_iff (flags : Flags) (oneLine : '\n' ∉ s) (inside : pos ≤ s.length) :
    (flags.look .endLine).holds (charBefore? s.toArray pos) s.toArray[pos]? = true ↔
      pos = s.length ∨
        flags.multiLine = true ∧ flags.carriageReturns = true ∧ s[pos]? = some '\r' := by
  rw [List.getElem?_toArray]
  generalize charBefore? s.toArray pos = before
  rcases Nat.lt_or_eq_of_le inside with lt | rfl
  · -- a character stands here, and it is no line feed
    have here : s[pos]? = some s[pos] := List.getElem?_eq_getElem lt
    have other : s[pos] ≠ '\n' := fun e => oneLine (e ▸ List.getElem_mem lt)
    have before : ¬ pos = s.length := Nat.ne_of_lt lt
    rw [here]
    obtain ⟨i, m, d, g, u, r⟩ := flags
    cases m <;> cases r <;> simp [Flags.look, Look.holds, other, before]
  · have none : s[s.length]? = none := List.getElem?_eq_none (Nat.le_refl _)
    rw [none]
    obtain ⟨i, m, d, g, u, r⟩ := flags
    cases m <;> cases r <;> simp [Flags.look, Look.holds]

/-- A way from the beginning of a text, whatever was saved before it. -/
lemma matchesTo_iff (a : Spot) (start : a.pos = 0) {stop} :
    MatchesTo e s stop ↔ ∃ b, e.Matches s.toArray a b ∧ b.pos = stop := by
  constructor
  · rintro ⟨b, way, stop⟩
    obtain ⟨saved, way⟩ := (Expr.matches_blind s.toArray e).resave way a.saved
    rw [← start] at way
    exact ⟨_, way, stop⟩
  · rintro ⟨b, way, stop⟩
    obtain ⟨saved, way⟩ := (Expr.matches_blind s.toArray e).resave way []
    rw [start] at way
    exact ⟨_, way, stop⟩

end Conditions

section Tests

variable [Dialect] {p s : List Char} {e e' : Expr} {groups : List (List Char)} {stop : Nat}

/-- A way of an anchored pattern begins where the text begins, and ends at its end or where the pattern
may stop before. -/
lemma stop_of_anchored (oneLine : '\n' ∉ s) (alone : compile p = .ok e)
    (inside : compile (anchored (p ++ ['$'])) = .ok e') {first b} (hfirst : first ≤ s.length)
    (way : e'.Matches s.toArray ⟨first, [(0, first)]⟩ b) :
    first = 0 ∧ b.pos ≤ s.length ∧ MatchesTo e s b.pos ∧ (b.pos < s.length → CutAt p s b.pos) := by
  obtain ⟨es, last, flags, read, ways, ways'⟩ := Expr.matches_anchored alone inside
  have leads : Leads s.toArray ⟨first, [(0, first)]⟩ b := way.leads
  have within : b.pos ≤ s.length := leads.inside hfirst
  obtain ⟨⟨here, -⟩, way⟩ := (ways' _ _ _).1 way
  obtain rfl : first = 0 := (holds_start_iff hfirst).1 here
  have some : e.Matches s.toArray ⟨0, [(0, 0)]⟩ b := by
    rw [ways, Expr.matchesAny_append]
    rcases way with way | ⟨way, -⟩
    · exact .inl way
    · exact .inr (.inl way)
  refine ⟨rfl, within, (matchesTo_iff _ rfl).2 ⟨b, some, rfl⟩, fun lt => ?_⟩
  refine ⟨es, last, flags, read, lt, ?_⟩
  rcases way with way | ⟨way, holds, -⟩
  · obtain ⟨f, hf, way⟩ := Expr.matchesAny_iff.1 way
    exact .inl ⟨f, hf, (matchesTo_iff _ rfl).2 ⟨b, way, rfl⟩⟩
  · rcases (holds_endLine_iff flags oneLine within).1 holds with stop | cut
    · exact absurd stop (Nat.ne_of_lt lt)
    · exact .inr ⟨(matchesTo_iff _ rfl).2 ⟨b, way, rfl⟩, cut⟩

/-- Where a pattern matches a line as a whole, there is a way of the anchored pattern. -/
lemma anchored_of_whole (oneLine : '\n' ∉ s) (alone : compile p = .ok e)
    (inside : compile (anchored (p ++ ['$'])) = .ok e') (whole : MatchesTo e s s.length) :
    ∃ b, e'.Matches s.toArray ⟨0, [(0, 0)]⟩ b := by
  obtain ⟨es, last, flags, read, ways, ways'⟩ := Expr.matches_anchored alone inside
  obtain ⟨b, way, stop⟩ := (matchesTo_iff ⟨0, [(0, 0)]⟩ rfl).1 whole
  have start := (holds_start_iff (Nat.zero_le s.toArray.size)).2 rfl
  have holds := (holds_endLine_iff flags oneLine (Nat.le_of_eq stop)).2 (.inl stop)
  rw [ways, Expr.matchesAny_append] at way
  refine ⟨b, (ways' _ _ _).2 ⟨⟨start, rfl⟩, ?_⟩⟩
  rcases way with way | way | none
  · exact .inl way
  · exact .inr ⟨way, holds, rfl⟩
  · exact none.elim

/-- Where a pattern may stop before the end of a line, there is a way of the anchored pattern. -/
lemma anchored_of_cut (oneLine : '\n' ∉ s) (alone : compile p = .ok e)
    (inside : compile (anchored (p ++ ['$'])) = .ok e') (cut : CutAt p s stop) :
    ∃ b, e'.Matches s.toArray ⟨0, [(0, 0)]⟩ b := by
  obtain ⟨es, last, flags, read, -, ways'⟩ := Expr.matches_anchored alone inside
  obtain ⟨es', last', flags', read', lt, far⟩ := cut
  have same : (es' ++ [last'], flags') = (es ++ [last], flags) := Except.ok.inj (read'.symm.trans read)
  obtain ⟨alternatives, rfl⟩ := Prod.mk.inj same
  obtain ⟨rfl, rfl⟩ := List.append_singleton_inj.1 alternatives
  have start := (holds_start_iff (Nat.zero_le s.toArray.size)).2 rfl
  rcases far with ⟨f, hf, far⟩ | ⟨far, before⟩
  · obtain ⟨b, way, -⟩ := (matchesTo_iff ⟨0, [(0, 0)]⟩ rfl).1 far
    exact ⟨b, (ways' _ _ _).2 ⟨⟨start, rfl⟩, .inl (Expr.matchesAny_iff.2 ⟨f, hf, way⟩)⟩⟩
  · obtain ⟨b, way, rfl⟩ := (matchesTo_iff ⟨0, [(0, 0)]⟩ rfl).1 far
    have holds := (holds_endLine_iff flags' oneLine (Nat.le_of_lt lt)).2 (.inr before)
    exact ⟨b, (ways' _ _ _).2 ⟨⟨start, rfl⟩, .inr ⟨way, holds, rfl⟩⟩⟩

/-- What passes the test of a pattern is matched from its beginning to its end, or to a place where the
pattern may stop before; the first group is the text so far. -/
lemma head?_of_testLine (oneLine : '\n' ∉ s) (alone : compile p = .ok e)
    (passed : testLine .pattern p s = some (some groups)) :
    ∃ stop ≤ s.length, MatchesTo e s stop ∧ groups.head? = some (s.take stop) ∧
      (stop < s.length → CutAt p s stop) := by
  have found : groupsAtStart? (p ++ ['$']) s = some groups := by
    obtain ⟨gs, h, e⟩ := Option.map_eq_some_iff.1 passed
    rwa [Option.some.inj e] at h
  unfold groupsAtStart? at found
  cases inside : compile (anchored (p ++ ['$'])) with
  | error err =>
    rw [inside] at found
    cases found
  | ok e' =>
    rw [inside] at found
    obtain ⟨first, hfirst, b, way, head⟩ := Expr.head?_of_find? found
    obtain ⟨rfl, within, far, cut⟩ := stop_of_anchored oneLine alone inside hfirst way
    exact ⟨b.pos, within, far, head, cut⟩

/-- A line passes the test of a pattern exactly when it is matched as a whole or can be cut short. -/
theorem testLine_pattern_iff (oneLine : '\n' ∉ s) (alone : compile p = .ok e)
    (inside : IsPattern (anchored (p ++ ['$']))) :
    (testLine .pattern p s).isSome ↔ MatchesTo e s s.length ∨ ∃ stop, CutAt p s stop := by
  obtain ⟨e', inside⟩ := inside
  rw [testLine, Option.isSome_map, groupsAtStart?, inside]
  rw [Expr.find?_isSome_iff]
  constructor
  · rintro ⟨first, hfirst, b, way⟩
    obtain ⟨-, within, far, cut⟩ := stop_of_anchored oneLine alone inside hfirst way
    rcases Nat.lt_or_eq_of_le within with lt | stop
    · exact .inr ⟨b.pos, cut lt⟩
    · rw [stop] at far
      exact .inl far
  · rintro (whole | ⟨stop, cut⟩)
    · exact ⟨0, Nat.zero_le _, anchored_of_whole oneLine alone inside whole⟩
    · exact ⟨0, Nat.zero_le _, anchored_of_cut oneLine alone inside cut⟩

end Tests

section Outputs

variable [Dialect] {expected : List (List Char)} {output : List Char} {groups : Option (List (List Char))}

/-- The test of a pattern leaves groups when it is passed. -/
lemma testLine_pattern_some {p s found} (h : testLine .pattern p s = some found) :
    ∃ gs, found = some gs := by
  obtain ⟨gs, -, e⟩ := Option.map_eq_some_iff.1 h
  exact ⟨gs, e.symm⟩

/-- An accepted output is matched line by line as a whole, with the last line as the first group, exactly
when everything expected is a pattern on its own, what can be cut short matches the whole line in another
way, and the first group is not a line cut short. -/
theorem compare_wholeLines_iff (accepted : compare expected output .pattern = .accepted groups) :
    WholeLines expected output groups ↔
      (∀ pair ∈ comparedLines expected output, IsPattern pair.1 ∧
        ∀ stop, CutAt pair.1 pair.2 stop → MatchesWhole pair.1 pair.2) ∧
      ∀ gs ∈ groups, ∀ pair ∈ (comparedLines expected output).getLast?,
        ∀ stop, CutAt pair.1 pair.2 stop → gs.head? ≠ some (pair.2.take stop) := by
  obtain ⟨-, passed, left⟩ := compare_accepted_iff.1 accepted
  constructor
  · rintro ⟨lines, head⟩
    constructor
    · intro pair hpair
      have whole := lines pair hpair
      obtain ⟨e, alone, -⟩ := whole
      exact ⟨⟨e, alone⟩, fun _ _ => lines pair hpair⟩
    · intro gs hgs pair hpair stop cut short
      -- a line that is cut short is shorter
      obtain ⟨_, _, _, _, lt, -⟩ := cut
      rw [head gs hgs pair hpair] at short
      have length : pair.2.length = (pair.2.take stop).length :=
        congrArg List.length (Option.some.inj short)
      rw [List.length_take] at length
      omega
  · rintro ⟨lines, short⟩
    constructor
    · intro pair hpair
      obtain ⟨found, test⟩ := Option.isSome_iff_exists.1 (passed pair hpair)
      obtain ⟨gs, rfl⟩ := testLine_pattern_some test
      obtain ⟨⟨e, alone⟩, whole⟩ := lines pair hpair
      obtain ⟨stop, within, far, -, cut⟩ := head?_of_testLine (newline_not_mem hpair) alone test
      rcases Nat.lt_or_eq_of_le within with lt | rfl
      · exact whole stop (cut lt)
      · exact ⟨e, alone, far⟩
    · intro gs hgs pair hpair
      have member : pair ∈ comparedLines expected output := List.mem_of_getLast? hpair
      have test : testLine .pattern pair.1 pair.2 = some (some gs) := by
        rw [left, lastGroups, Option.mem_def.1 hpair] at hgs
        exact Option.join_eq_some_iff.1 hgs
      obtain ⟨⟨e, alone⟩, -⟩ := lines pair member
      obtain ⟨stop, within, -, head, cut⟩ := head?_of_testLine (newline_not_mem member) alone test
      rcases Nat.lt_or_eq_of_le within with lt | rfl
      · exact absurd head (short gs hgs pair hpair stop (cut lt))
      · rw [head, List.take_length]

end Outputs

/-- A dot with a letter on either side is not cut short. -/
lemma not_cutAt_dot (s stop) : ¬ CutAt ['a', '.', 'c'] s stop := by
  rintro ⟨es, last, flags, read, -, far⟩
  have only : Expr.readAlternatives ['a', '.', 'c'] = .ok ([] ++ [_], {}) := rfl
  have same : ([] ++ [_], {}) = (es ++ [last], flags) := Except.ok.inj (only.symm.trans read)
  obtain ⟨alternatives, rfl⟩ := Prod.mk.inj same
  obtain ⟨rfl, rfl⟩ := List.append_singleton_inj.1 alternatives
  rcases far with ⟨e, he, -⟩ | ⟨-, multiLine, -⟩
  · exact List.not_mem_nil he
  · cases multiLine

/-- The condition holds of a line with a letter for the dot. -/
theorem compare_wholeLines_dot :
    compare [['a', '.', 'c']] ['a', 'b', 'c'] .pattern = .accepted (some [['a', 'b', 'c']]) ∧
      WholeLines [['a', '.', 'c']] ['a', 'b', 'c'] (some [['a', 'b', 'c']]) := by
  have accepted : compare [['a', '.', 'c']] ['a', 'b', 'c'] .pattern =
      .accepted (some [['a', 'b', 'c']]) := by decide
  have pairs : comparedLines [['a', '.', 'c']] ['a', 'b', 'c'] =
      [(['a', '.', 'c'], ['a', 'b', 'c'])] := by decide
  refine ⟨accepted, (compare_wholeLines_iff accepted).2 ⟨?_, ?_⟩⟩
  · intro pair hpair
    rw [pairs, List.mem_singleton] at hpair
    subst hpair
    exact ⟨⟨_, rfl⟩, fun stop cut => absurd cut (not_cutAt_dot _ stop)⟩
  · intro gs _ pair hpair stop cut
    rw [pairs] at hpair
    cases hpair
    exact absurd cut (not_cutAt_dot _ stop)

/-- A choice is cut short: an accepted output need not be matched as a whole. -/
theorem not_wholeLines_choice :
    compare [['a', '|', 'b']] ['a', 'b', 'c'] .pattern = .accepted (some [['a']]) ∧
      ¬ WholeLines [['a', '|', 'b']] ['a', 'b', 'c'] (some [['a']]) := by
  refine ⟨by decide, ?_⟩
  rintro ⟨lines, -⟩
  have pair : (['a', '|', 'b'], ['a', 'b', 'c']) ∈ comparedLines [['a', '|', 'b']] ['a', 'b', 'c'] := by
    decide
  obtain ⟨e, alone, b, way, stop⟩ := lines _ pair
  have set : compile ['a', '|', 'b'] = .ok (.set ⟨[(97, 98)]⟩) := rfl
  rw [set] at alone
  cases alone
  obtain ⟨-, rfl⟩ := way
  cases stop

end Transcript.Expectation
