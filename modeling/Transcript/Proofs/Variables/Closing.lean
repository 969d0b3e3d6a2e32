import Mathlib.Tactic.Common
import Transcript.Proofs.Variables.Regular

/-!
# References that are left

A line holds a closed reference exactly when one of its parts is a reference (`hasReference_iff`). Values
may hold halves of references that close behind them, but where no value holds a whole one, a pass that
leaves a line as it is has found no reference there (`not_hasReference_of_fixed`): at the first reference
where the new line has caught up with the old one, the value would cover the whole reference. So a line is
left with a reference only when every pass was made and changed it (`passes_of_hasReference`).
-/

namespace Transcript.Variables

/-- A reference is opened in the line and a brace closes it somewhere behind. -/
def HasReference (line : List Char) : Prop :=
  ∃ before key behind, line = before ++ '$' :: '{' :: (key ++ '}' :: behind)

/-- No value and no group holds a closed reference. -/
structure Unclosed (vars : Variables) : Prop where
  values : ∀ d ∈ vars.defs, ¬ HasReference d.2
  groups : ∀ g ∈ vars.groups, ¬ HasReference g

/-- The passes that are made over a line, by the lines that they come to: at most so many, and none
behind one that leaves its line as it is. -/
inductive Passes (vars : Variables) : Nat → List Char → List (List Char) → Prop where
  | spent {line} :
    Passes vars 0 line []
  | settled {n line} :
    vars.expandOnce line = .ok line →
    Passes vars (n + 1) line [line]
  | goOn {n line next made} :
    vars.expandOnce line = .ok next →
    next ≠ line →
    Passes vars n next made →
    Passes vars (n + 1) line (next :: made)

variable {vars : Variables} {line text lag beyond : List Char} {p : Piece} {ps : List Piece}

section References

/-- Characters are written as they are. -/
lemma texts_chars (s) : texts (s.map .char) = s := by
  induction s with
  | nil => rfl
  | cons c s ih => exact congrArg (c :: ·) ih

/-- The parts of a line are written as the line, with the reference that is open before it. -/
lemma texts_pieces (before : Option (List Char)) (line) :
    texts (pieces before line) = before.elim [] (fun key => '$' :: '{' :: key.reverse) ++ line := by
  fun_induction pieces before line with
  | case1 => rfl
  | case2 r ih => exact ih
  | case3 c r _ ih => exact congrArg (c :: ·) ih
  | case4 key =>
    rw [texts_chars]
    exact (List.append_nil _).symm
  | case5 key r ih =>
    show (Piece.reference key.reverse).text ++ texts (pieces none r) = _
    rw [ih]
    simp [Piece.text]
  | case6 key c r _ ih =>
    rw [ih]
    simp

/-- An open reference is closed by the first brace behind it. -/
lemma exists_reference_of_open (h : '}' ∈ line) (read) :
    ∃ key, .reference key ∈ pieces (some read) line := by
  obtain ⟨key, behind, rfl, first⟩ := List.eq_append_cons_of_mem h
  rw [pieces_open first]
  exact ⟨_, List.mem_cons_self⟩

/-- A line holds a closed reference exactly when one of its parts is a reference. -/
lemma hasReference_iff : HasReference line ↔ ∃ key, .reference key ∈ pieces none line := by
  constructor
  · rintro ⟨before, key, behind, rfl⟩
    have closed (before' : List Char) : '}' ∈ before' ++ '$' :: '{' :: (key ++ '}' :: behind) := by simp
    induction before with
    | nil => exact exists_reference_of_open (by simp) []
    | cons c before ih =>
      by_cases opens : c = '$' ∧ before.head? = some '{'
      · obtain ⟨rfl, first⟩ := opens
        cases before with
        | nil => cases first
        | cons d before =>
          cases first
          exact exists_reference_of_open (closed before) []
      · have part : pieces none (c :: (before ++ '$' :: '{' :: (key ++ '}' :: behind))) =
            .char c :: pieces none (before ++ '$' :: '{' :: (key ++ '}' :: behind)) := by
          rw [pieces]
          rintro r rfl e
          cases before with
          | nil => cases e
          | cons d before =>
            cases e
            exact opens ⟨rfl, rfl⟩
        obtain ⟨k, hk⟩ := ih
        exact ⟨k, part ▸ List.mem_cons_of_mem _ hk⟩
  · rintro ⟨key, inside⟩
    obtain ⟨before, behind, split⟩ := List.append_of_mem inside
    have written := texts_pieces none line
    rw [split] at written
    refine ⟨texts before, key, texts behind, ?_⟩
    rw [← show _ = line from written]
    simp [texts, Piece.text]

instance (line) : Decidable (HasReference line) :=
  decidable_of_iff ((pieces none line).any fun | .reference _ => true | .char _ => false) <| by
    rw [hasReference_iff, List.any_eq_true]
    constructor
    · rintro ⟨p, hp, is⟩
      cases p with
      | char c => cases is
      | reference key => exact ⟨key, hp⟩
    · rintro ⟨key, hp⟩
      exact ⟨_, hp, rfl⟩

end References

section Fixed

/-- What a key stands for holds no closed reference. -/
lemma Unclosed.lookup (h : vars.Unclosed) {key value} (e : vars.lookup key = .ok value) :
    ¬ HasReference value := by
  rcases lookup_ok e with ⟨name, there⟩ | there
  · exact h.values _ there
  · exact h.groups _ there

/-- A part that what it stands for covers is a character, and nothing else is covered. -/
lemma Unclosed.covers (h : vars.Unclosed) (e : vars.expandPiece p = .ok (lag ++ p.text ++ beyond)) :
    lag = [] ∧ beyond = [] ∧ ∃ c, p = .char c := by
  cases p with
  | char c =>
    have whole : [c] = lag ++ [c] ++ beyond := Except.ok.inj e
    have length := congrArg List.length whole
    simp only [List.length_append, List.length_singleton] at length
    exact ⟨List.length_eq_zero_iff.1 (by omega), List.length_eq_zero_iff.1 (by omega), c, rfl⟩
  | reference key =>
    refine absurd ?_ (h.lookup e)
    exact ⟨lag, key, beyond, by simp [Piece.text]⟩

/-- What parts stand for does not end as what they are written as, behind a lag, unless there is no lag
and no reference. -/
lemma Unclosed.no_lag (h : vars.Unclosed) (e : vars.expandPieces ps = .ok (lag ++ texts ps)) :
    lag = [] ∧ ∀ key, .reference key ∉ ps := by
  induction ps generalizing lag with
  | nil =>
    have nothing : [] = lag ++ [] := Except.ok.inj e
    rw [List.append_nil] at nothing
    exact ⟨nothing.symm, nofun⟩
  | cons p ps ih =>
    obtain ⟨v, hp, rest⟩ := bind_eq_ok.1 e
    obtain ⟨vs, hps, same⟩ := map_eq_ok.1 rest
    rw [texts, List.flatMap_cons, ← texts, ← List.append_assoc] at same
    -- the value ends behind the part or before its end; in either case it covers the part
    obtain ⟨beyond, covered, others⟩ : ∃ beyond, v = lag ++ p.text ++ beyond ∧ ∀ key, .reference key ∉ ps := by
      rcases List.append_eq_append_iff.1 same with ⟨lag', before, behind⟩ | ⟨beyond, covered, behind⟩
      · rw [behind] at hps
        obtain ⟨rfl, others⟩ := ih hps
        exact ⟨[], by rw [List.append_nil, before, List.append_nil], others⟩
      · rw [covered] at hp
        obtain ⟨-, rfl, -⟩ := h.covers hp
        rw [List.nil_append] at behind
        rw [← behind] at hps
        have whole : vars.expandPieces ps = .ok ([] ++ texts ps) := hps
        exact ⟨[], covered, (ih whole).2⟩
    rw [covered] at hp
    obtain ⟨rfl, -, c, rfl⟩ := h.covers hp
    refine ⟨rfl, fun key inside => ?_⟩
    rcases List.mem_cons.1 inside with same | later
    · cases same
    · exact others key later

/-- A pass that leaves a line as it is has found no reference there. -/
lemma Unclosed.not_hasReference_of_fixed (h : vars.Unclosed) (fixed : vars.expandOnce line = .ok line) :
    ¬ HasReference line := by
  have whole : vars.expandPieces (pieces none line) = .ok ([] ++ texts (pieces none line)) := by
    rw [texts_pieces none line]
    exact fixed
  rw [hasReference_iff, not_exists]
  exact (h.no_lag whole).2

end Fixed

section Passes

/-- A line comes out of its passes as the last of them has left it. -/
lemma expandUpTo_ok_iff {n} :
    vars.expandUpTo n line = .ok text ↔ ∃ made, vars.Passes n line made ∧ made.getLastD line = text := by
  induction n generalizing line with
  | zero =>
    constructor
    · intro e
      cases e
      exact ⟨[], .spent, rfl⟩
    · rintro ⟨made, passes, rfl⟩
      cases passes
      rfl
  | succ n ih =>
    rw [expandUpTo, bind_eq_ok]
    constructor
    · rintro ⟨next, once, later⟩
      split at later
      · rename_i same
        cases later
        rw [same] at once
        exact ⟨[_], .settled once, rfl⟩
      · rename_i changed
        obtain ⟨made, passes, last⟩ := ih.1 later
        exact ⟨next :: made, .goOn once changed passes, by rw [List.getLastD_cons, last]⟩
    · rintro ⟨made, passes, last⟩
      cases passes with
      | settled once =>
        cases last
        exact ⟨line, once, if_pos rfl⟩
      | @goOn _ _ next made once changed passes =>
        rw [List.getLastD_cons] at last
        exact ⟨next, once, by rw [if_neg changed, ih.2 ⟨made, passes, last⟩]⟩

/-- Where a line is left with a reference, all passes were made, and each of them changed the line. -/
lemma Unclosed.passes (h : vars.Unclosed) {n made} (passes : vars.Passes n line made)
    (left : HasReference (made.getLastD line)) :
    made.length = n ∧ (line :: made).IsChain (· ≠ ·) := by
  induction passes with
  | spent => exact ⟨rfl, .singleton _⟩
  | settled once => exact absurd left (h.not_hasReference_of_fixed once)
  | goOn once changed _ ih =>
    rw [List.getLastD_cons] at left
    obtain ⟨all, chain⟩ := ih left
    exact ⟨congrArg (· + 1) all, .cons_cons changed.symm chain⟩

/-- Where no value holds a closed reference, a pass leaves a line as it is only when no closed reference is
left there, and a line comes out with a closed reference only when the most passes were made and each of
them changed it. -/
theorem passes_of_hasReference (h : vars.Unclosed) :
    (∀ line, vars.expandOnce line = .ok line → ¬ HasReference line) ∧
      ∀ line text, vars.substitute line = .ok text → HasReference text →
        ∃ made, vars.Passes maxPasses line made ∧ made.getLastD line = text ∧
          made.length = maxPasses ∧ (line :: made).IsChain (· ≠ ·) := by
  refine ⟨fun line => h.not_hasReference_of_fixed, fun line text e left => ?_⟩
  obtain ⟨made, passes, rfl⟩ := expandUpTo_ok_iff.1 e
  obtain ⟨all, chain⟩ := h.passes passes left
  exact ⟨made, passes, rfl, all, chain⟩

/-- A value that opens a reference to itself takes one brace of the line in every pass. -/
theorem passes_of_hasReference_opening :
    let vars : Variables := { defs := [(['A'], ['$', '{', 'A'])] }
    let line := '$' :: '{' :: 'A' :: List.replicate 12 '}'
    vars.Unclosed ∧ vars.substitute line = .ok ['$', '{', 'A', '}', '}'] ∧
      HasReference ['$', '{', 'A', '}', '}'] ∧
        ∃ made, vars.Passes maxPasses line made ∧ made.length = maxPasses ∧
          (line :: made).IsChain (· ≠ ·) := by
  intro vars line
  have unclosed : vars.Unclosed := ⟨by decide, by decide⟩
  have result : vars.substitute line = .ok ['$', '{', 'A', '}', '}'] := by decide
  have left : HasReference ['$', '{', 'A', '}', '}'] := by decide
  obtain ⟨made, passes, -, all⟩ := (passes_of_hasReference unclosed).2 _ _ result left
  exact ⟨unclosed, result, left, made, passes, all⟩

end Passes

end Transcript.Variables
