import Mathlib.Tactic.Common
import Transcript.Proofs.Computation
import Transcript.Variables

/-!
# Expanding references

What can go wrong when the references of a line are replaced (`Variables.substitute_error`), and which
lines stay as they are in any environment (`Variables.substitute_of_plain`).
-/

namespace Transcript.Variables

/-- A fault that a reference leads to. -/
inductive Dangling : Fault → Prop where
  | group (key) : Dangling (.missingGroup key)
  | name (key) : Dangling (.undefinedVariable key)

/-- A key that stands for nothing is a dangling reference. -/
lemma lookup_error {vars : Variables} {key f} (e : vars.lookup key = .error f) : Dangling f := by
  unfold lookup at e
  split at e
  · split at e
    · cases e
    · cases e
      exact .group key
  · split at e
    · cases e
    · cases e
      exact .name key

/-- Parts that cannot be expanded hold a dangling reference. -/
lemma expandPieces_error {vars : Variables} {ps f} (e : vars.expandPieces ps = .error f) :
    Dangling f := by
  induction ps generalizing f with
  | nil => cases e
  | cons p ps ih =>
    rcases bind_eq_error.1 e with first | ⟨s, -, others⟩
    · cases p with
      | char c => cases first
      | reference key => exact lookup_error first
    · exact ih (map_eq_error.1 others)

/-- A line that a pass leaves as it is stays so. -/
lemma expandUpTo_of_fixed {vars : Variables} {line} (fixed : vars.expandOnce line = .ok line) (n) :
    vars.expandUpTo n line = .ok line := by
  cases n with
  | zero => rfl
  | succ n => rw [expandUpTo, fixed, Except.bind, if_pos rfl]

/-- A pass is followed by the others, as if they did not end early. -/
lemma expandUpTo_succ (vars : Variables) (n line) :
    vars.expandUpTo (n + 1) line = (vars.expandOnce line).bind (vars.expandUpTo n) := by
  rw [expandUpTo]
  cases h : vars.expandOnce line with
  | error f => rfl
  | ok next =>
    rw [Except.bind, Except.bind]
    split
    · rename_i same
      rw [same] at h ⊢
      exact (expandUpTo_of_fixed h n).symm
    · rfl

/-- Passes that end in a fault have met a dangling reference. -/
lemma expandUpTo_error {vars : Variables} {n line f} (e : vars.expandUpTo n line = .error f) :
    Dangling f := by
  induction n generalizing line with
  | zero => cases e
  | succ n ih =>
    rw [expandUpTo_succ] at e
    rcases bind_eq_error.1 e with once | ⟨next, -, later⟩
    · exact expandPieces_error once
    · exact ih later

/-- A line that cannot be expanded holds a dangling reference. -/
lemma substitute_error {vars : Variables} {line f} (e : vars.substitute line = .error f) :
    Dangling f :=
  expandUpTo_error e

/-- A line in which no reference begins. -/
def IsPlain (line : List Char) : Prop :=
  ¬ ['$', '{'] <:+: line

instance (line) : Decidable (IsPlain line) :=
  inferInstanceAs (Decidable (¬ ['$', '{'] <:+: line))

/-- What follows a character of such a line is such a line. -/
lemma IsPlain.tail {c r} (h : IsPlain (c :: r)) : IsPlain r := by
  intro inside
  exact h (inside.trans (List.suffix_cons c r).isInfix)

/-- A character that opens no reference keeps a line plain. -/
lemma IsPlain.cons {c r} (h : IsPlain r) (hc : c ≠ '$') : IsPlain (c :: r) := by
  intro inside
  rcases List.infix_cons_iff.1 inside with first | later
  · exact hc (List.cons_prefix_cons.1 first).1.symm
  · exact h later

/-- A part of a plain line is plain. -/
lemma IsPlain.of_isInfix {p r} (h : IsPlain r) (hp : p <:+: r) : IsPlain p :=
  fun inside => h (inside.trans hp)

/-- A plain line has characters for its parts. -/
lemma pieces_of_plain {line} (h : IsPlain line) : pieces none line = line.map .char := by
  induction line with
  | nil => rfl
  | cons c r ih =>
    rw [List.map_cons, ← ih h.tail, pieces]
    intro q ec er
    apply h
    rw [ec, er]
    exact ⟨[], q, rfl⟩

/-- Characters stand for themselves. -/
lemma expandPieces_chars (vars : Variables) (s) : vars.expandPieces (s.map .char) = .ok s := by
  induction s with
  | nil => rfl
  | cons c r ih =>
    rw [List.map_cons, expandPieces, ih]
    rfl

/-- A pass leaves a plain line as it is. -/
lemma expandOnce_of_plain {line} (vars : Variables) (h : IsPlain line) :
    vars.expandOnce line = .ok line := by
  rw [expandOnce, pieces_of_plain h]
  exact expandPieces_chars vars line

/-- A plain line stays as it is. -/
lemma substitute_of_plain {line} (vars : Variables) (h : IsPlain line) :
    vars.substitute line = .ok line :=
  expandUpTo_of_fixed (expandOnce_of_plain vars h) maxPasses

end Transcript.Variables
