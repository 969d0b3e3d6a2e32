import Mathlib.Data.List.TakeDrop
import Mathlib.Tactic.Common
import Transcript.Proofs.Pattern.Preference

/-!
# Runs of characters

A set that is repeated reads a run of its characters (`Expr.matches_repeat_set_iff`), and if it does so as
often as it can, the run ends in front of another character (`Expr.matchesFirst_repeat_set`). What a group
has taken is the run between the two positions that it has saved (`groupText_eq`).
-/

namespace Transcript.Pattern

open Unicode (CharSet)

section Positions

variable {s run rest : List Char} {pos : Nat}

/-- Behind a run stands what follows it. -/
lemma drop_run (split : s.drop pos = run ++ rest) : s.drop (pos + run.length) = rest := by
  rw [← List.drop_drop, split, List.drop_left]

/-- Behind a character stands what follows it. -/
lemma drop_cons {c} (split : s.drop pos = c :: rest) : s.drop (pos + 1) = rest := by
  rw [← List.drop_drop, split]
  rfl

/-- What is left begins with the character at its position. -/
lemma getElem?_of_drop {c} (split : s.drop pos = c :: rest) : s.toArray[pos]? = some c := by
  rw [List.getElem?_toArray, ← List.head?_drop, split]
  rfl

/-- A character at a position is followed by what is left behind it. -/
lemma drop_of_getElem? {c} (here : s.toArray[pos]? = some c) : s.drop pos = c :: s.drop (pos + 1) := by
  rw [List.getElem?_toArray] at here
  obtain ⟨lt, rfl⟩ := List.getElem?_eq_some_iff.1 here
  exact List.drop_eq_getElem_cons lt

/-- The text of a group is the run between its two positions. -/
lemma groupText_eq {saved index} (first : saved.lookup (2 * index) = some pos)
    (last : saved.lookup (2 * index + 1) = some (pos + run.length)) (split : s.drop pos = run ++ rest) :
    groupText s.toArray saved index = run := by
  rw [groupText, first, last]
  simp only [List.extract_toArray, List.extract_eq_take_drop, Nat.add_sub_cancel_left]
  rw [split, List.take_left]

end Positions

namespace Expr

variable {s run rest : List Char} {S : CharSet} {a b : Spot} {min n : Nat} {greedy : Bool}

/-- A set reads one of its characters. -/
lemma matches_set_iff_drop :
    (Expr.set S).Matches s.toArray a b ↔
      ∃ c, S.contains c = true ∧ s.drop a.pos = c :: s.drop b.pos ∧ b = a.forward := by
  constructor
  · rintro ⟨here, rfl⟩
    obtain ⟨c, hc, member⟩ := (Option.any_eq_true _ _).1 here
    exact ⟨c, member, drop_of_getElem? hc, rfl⟩
  · rintro ⟨c, member, split, rfl⟩
    refine ⟨?_, rfl⟩
    rw [getElem?_of_drop split, Option.any_some, member]

/-- A literal of one character reads that character. -/
lemma matches_char_iff_drop {c} :
    (Expr.literal [c]).Matches s.toArray a b ↔ s.drop a.pos = c :: s.drop b.pos ∧ b = a.forward := by
  constructor
  · rintro ⟨here, rfl⟩
    exact ⟨drop_of_getElem? here, rfl⟩
  · rintro ⟨split, rfl⟩
    exact ⟨getElem?_of_drop split, rfl⟩

/-- A set that is read so many times reads a run of that length. -/
lemma iterated_set_iff :
    Iterated ((Expr.set S).Matches s.toArray) n a b ↔
      ∃ run, run.length = n ∧ (∀ c ∈ run, S.contains c = true) ∧
        s.drop a.pos = run ++ s.drop b.pos ∧ b = ⟨a.pos + run.length, a.saved⟩ := by
  induction n generalizing a with
  | zero =>
    constructor
    · rintro rfl
      exact ⟨[], rfl, nofun, rfl, rfl⟩
    · rintro ⟨run, length, -, -, rfl⟩
      rw [List.length_eq_zero_iff.1 length]
      rfl
  | succ n ih =>
    constructor
    · rintro ⟨d, first, rest⟩
      obtain ⟨c, member, split, rfl⟩ := matches_set_iff_drop.1 first
      obtain ⟨run, rfl, members, split', rfl⟩ := ih.1 rest
      refine ⟨c :: run, rfl, List.forall_mem_cons.2 ⟨member, members⟩, ?_, ?_⟩
      · rw [split, split', List.cons_append]
      · rw [List.length_cons, Spot.forward, Nat.add_assoc, Nat.add_comm 1]
    · rintro ⟨run, length, members, split, rfl⟩
      cases run with
      | nil => cases length
      | cons c run =>
        obtain ⟨member, members⟩ := List.forall_mem_cons.1 members
        have behind : s.drop (a.pos + 1) = run ++ s.drop (a.pos + (c :: run).length) := by
          rw [← List.drop_drop, split]
          rfl
        have first : (Expr.set S).Matches s.toArray a a.forward := by
          refine matches_set_iff_drop.2 ⟨c, member, ?_, rfl⟩
          rw [split, List.cons_append, Spot.forward, behind]
        refine ⟨a.forward, first, ih.2 ⟨run, Nat.succ.inj length, members, behind, ?_⟩⟩
        rw [List.length_cons, Spot.forward, Nat.add_assoc, Nat.add_comm 1]

/-- A repeated set reads a run of its characters. -/
theorem matches_repeat_set_iff :
    (Expr.repeat min none greedy (.set S)).Matches s.toArray a b ↔
      ∃ run, min ≤ run.length ∧ (∀ c ∈ run, S.contains c = true) ∧
        s.drop a.pos = run ++ s.drop b.pos ∧ b = ⟨a.pos + run.length, a.saved⟩ := by
  constructor
  · rintro ⟨n, ⟨least, -⟩, ways⟩
    obtain ⟨run, rfl, members, split, e⟩ := iterated_set_iff.1 ways
    exact ⟨run, least, members, split, e⟩
  · rintro ⟨run, least, members, split, e⟩
    exact ⟨run.length, ⟨least, nofun⟩, iterated_set_iff.2 ⟨run, rfl, members, split, e⟩⟩

/-- A set that is repeated as often as it can be reads up to the first other character. -/
theorem matchesFirst_repeat_set (split : s.drop a.pos = run ++ rest) (least : min ≤ run.length)
    (members : ∀ c ∈ run, S.contains c = true) (stop : ∀ c ∈ rest.head?, S.contains c = false) :
    (Expr.repeat min none true (.set S)).MatchesFirst s.toArray a ⟨a.pos + run.length, a.saved⟩ := by
  have behind := drop_run split
  refine ⟨⟨run.length, least, iterated_set_iff.2 ⟨run, rfl, members, ?_, rfl⟩⟩, fun b more => ?_⟩
  · rw [behind, split]
  · obtain ⟨c, member, next, -⟩ := matches_set_iff_drop.1 more
    simp only [behind] at next
    rw [next] at stop
    rw [stop c rfl] at member
    cases member

end Expr

end Transcript.Pattern
