import Mathlib.Data.Nat.Count
import Mathlib.Tactic.Common
import Transcript.Proofs.Variables.Expansion

/-!
# Passes that are all made

The passes over a line end early when one of them leaves it as it is. What they come to, be it a text or a
fault, is what all of them would have come to (`expandUpTo_eq_iterate`). Where they were enough, so that not
every one of them made a difference, the text that they come to stays as it is when it is substituted again
(`substitute_eq_iterate`).
-/

namespace Transcript.Variables

/-- What so many passes over a line come to, one after the other and none left out; a fault stays. -/
def iterate (vars : Variables) (n : Nat) (line : List Char) : Except Fault (List Char) :=
  (fun text => text.bind vars.expandOnce)^[n] (.ok line)

/-- The pass that comes after `i` others makes a difference to what they have come to: it changes their text,
or it fails. -/
def Changes (vars : Variables) (line : List Char) (i : Nat) : Prop :=
  vars.iterate (i + 1) line ≠ vars.iterate i line

instance (vars line) : DecidablePred (Changes vars line) :=
  fun i => inferInstanceAs (Decidable (vars.iterate (i + 1) line ≠ vars.iterate i line))

variable {vars : Variables} {line text : List Char} {n i : Nat}

section Iteration

lemma iterate_succ (vars : Variables) (n line) :
    vars.iterate (n + 1) line = (vars.iterate n line).bind vars.expandOnce :=
  Function.iterate_succ_apply' _ n _

/-- Passes that may end early come to what all of them come to. -/
lemma expandUpTo_eq_iterate (vars : Variables) (n line) : vars.expandUpTo n line = vars.iterate n line := by
  induction n generalizing line with
  | zero => rfl
  | succ n ih =>
    rw [expandUpTo_succ, iterate, Function.iterate_succ_apply]
    show _ = (fun text => text.bind vars.expandOnce)^[n] (vars.expandOnce line)
    -- the passes behind a fault pass it on
    cases vars.expandOnce line with
    | error f => exact (Function.iterate_fixed rfl n).symm
    | ok next => exact ih next

end Iteration

section Changes

/-- Behind a pass that makes no difference, none does. -/
lemma iterate_of_not_changes (h : ¬ vars.Changes line i) (le : i ≤ n) :
    vars.iterate n line = vars.iterate i line := by
  obtain ⟨k, rfl⟩ := Nat.exists_eq_add_of_le' le
  have fixed := not_not.1 h
  rw [iterate_succ] at fixed
  rw [iterate, Function.iterate_add_apply]
  exact Function.iterate_fixed fixed k

/-- Where not every pass makes a difference, there is one that makes none. -/
lemma exists_not_changes (few : Nat.count (vars.Changes line) n < n) : ∃ i < n, ¬ vars.Changes line i := by
  by_contra none
  have every : ∀ i < n, vars.Changes line i := by
    intro i hi
    by_contra same
    exact none ⟨i, hi, same⟩
  exact few.ne (Nat.count_iff_forall.2 every)

/-- Where not every pass makes a difference, the text that they come to is left as it is by a further one. -/
lemma expandOnce_of_few (e : vars.iterate n line = .ok text) (few : Nat.count (vars.Changes line) n < n) :
    vars.expandOnce text = .ok text := by
  obtain ⟨i, hi, same⟩ := exists_not_changes few
  have here : vars.iterate i line = .ok text := (iterate_of_not_changes same hi.le).symm.trans e
  have next : vars.iterate (i + 1) line = vars.expandOnce text := by
    rw [iterate_succ, here]
    rfl
  rw [← next, not_not.1 same, here]

end Changes

/-- What a line comes to when its references are replaced, be it a text or a fault, is what comes of ten passes
over it, all of which are made. Where nine of them at most make a difference, the text that it comes to stays
as it is when references are replaced in it once more. -/
theorem substitute_eq_iterate (vars : Variables) (line : List Char) :
    vars.substitute line = vars.iterate 10 line ∧
      ∀ text, vars.substitute line = .ok text → Nat.count (vars.Changes line) 10 ≤ 9 →
        vars.substitute text = .ok text := by
  have all : vars.substitute line = vars.iterate 10 line := expandUpTo_eq_iterate vars 10 line
  refine ⟨all, fun text e few => ?_⟩
  have fixed : vars.expandOnce text = .ok text := expandOnce_of_few (all.symm.trans e) (Nat.lt_succ_of_le few)
  exact expandUpTo_of_fixed fixed maxPasses

/-- Nine names in a row are as many as there may be, beside a reference that stands for itself. -/
theorem substitute_eq_iterate_row :
    let vars : Variables := { defs := [(['A'], "${B}".toList), (['B'], "${C}".toList), (['C'], "${D}".toList),
      (['D'], "${E}".toList), (['E'], "${F}".toList), (['F'], "${G}".toList), (['G'], "${H}".toList),
      (['H'], "${I}".toList), (['I'], ['x']), (['X'], "${X}".toList)] }
    vars.substitute "${A}${X}".toList = .ok "x${X}".toList ∧
      Nat.count (vars.Changes "${A}${X}".toList) 10 = 9 ∧
      vars.substitute "x${X}".toList = .ok "x${X}".toList := by
  intro vars
  have result : vars.substitute "${A}${X}".toList = .ok "x${X}".toList := by decide
  have nine : Nat.count (vars.Changes "${A}${X}".toList) 10 = 9 := by decide
  exact ⟨result, nine, (substitute_eq_iterate vars _).2 _ result nine.le⟩

/-- Where all ten passes make a difference, replacing references once more may make another. -/
example :
    let vars : Variables := { defs := [(['X'], "a${X}".toList)] }
    Nat.count (vars.Changes "${X}".toList) 10 = 10 ∧
      vars.substitute "${X}".toList = .ok "aaaaaaaaaa${X}".toList ∧
      vars.substitute "aaaaaaaaaa${X}".toList = .ok "aaaaaaaaaaaaaaaaaaaa${X}".toList := by
  decide

end Transcript.Variables
