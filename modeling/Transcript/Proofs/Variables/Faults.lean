import Mathlib.Data.List.Induction
import Mathlib.Data.Nat.Digits.Defs
import Mathlib.Tactic.Common
import Transcript.Proofs.Variables.Scanning

/-!
# What substitution fails with

A key stands for nothing when it is a number that no group has, or a name that is not defined
(`Unresolvable`). A line cannot be substituted when the scan of a pass over it meets such a key, and the fault
is that of the first one in the first pass that meets any (`substitute_eq_error_iff`).
-/

namespace Transcript.Variables

/-- The number that digits are read as, however many there are. -/
def decimal (digits : List Char) : Nat :=
  Nat.ofDigits 10 (digits.reverse.map fun d => d.toNat - '0'.toNat)

/-- A key that stands for nothing, with its fault. -/
inductive Unresolvable (vars : Variables) : List Char → Fault → Prop where
  | group {key} :
    key ≠ [] →
    (∀ c ∈ key, c.isDigit) →
    vars.groups.length ≤ decimal key →
    Unresolvable vars key (.missingGroup key)
  | name {key} :
    key = [] ∨ (∃ c ∈ key, ¬ c.isDigit) →
    (∀ value, (key, value) ∉ vars.defs) →
    Unresolvable vars key (.undefinedVariable key)

variable {vars : Variables} {key : List Char} {f : Fault}

lemma groupNumber_eq (key) : groupNumber key = decimal key := by
  induction key using List.reverseRecOn with
  | nil => rfl
  | append_singleton digits d ih =>
    have shifted : groupNumber (digits ++ [d]) = groupNumber digits * 10 + (d.toNat - '0'.toNat) := by
      rw [groupNumber, List.foldl_append]
      rfl
    rw [shifted, ih, decimal, decimal, List.reverse_concat, List.map_cons, Nat.ofDigits_cons, Nat.mul_comm,
      Nat.add_comm]

lemma isGroupKey_iff : isGroupKey key = true ↔ key ≠ [] ∧ ∀ c ∈ key, c.isDigit := by
  rw [isGroupKey, Bool.and_eq_true, Bool.not_eq_true', List.isEmpty_eq_false_iff, List.all_eq_true]

lemma isGroupKey_eq_false_iff : isGroupKey key = false ↔ key = [] ∨ ∃ c ∈ key, ¬ c.isDigit := by
  rw [← Bool.not_eq_true, isGroupKey_iff, not_and_or, not_not]
  simp only [not_forall, exists_prop]

/-- A key cannot be looked up when it stands for nothing. -/
lemma lookup_eq_error_iff : vars.lookup key = .error f ↔ vars.Unresolvable key f := by
  rw [lookup]
  constructor
  · intro e
    split at e
    · rename_i digits
      obtain ⟨ne, digits⟩ := isGroupKey_iff.1 digits
      split at e
      · cases e
      · rename_i none
        cases e
        rw [List.getElem?_eq_none_iff, groupNumber_eq] at none
        exact .group ne digits none
    · rename_i name
      split at e
      · cases e
      · rename_i none
        cases e
        refine .name (isGroupKey_eq_false_iff.1 (Bool.eq_false_iff.2 name)) fun value defined => ?_
        have other := List.lookup_eq_none_iff.1 none _ defined
        rw [bne_self_eq_false] at other
        cases other
  · intro unresolvable
    cases unresolvable with
    | group ne digits few =>
      have none : vars.groups[groupNumber key]? = none := by
        rw [List.getElem?_eq_none_iff, groupNumber_eq]
        exact few
      rw [if_pos (isGroupKey_iff.2 ⟨ne, digits⟩), none]
    | name other undefined =>
      have none : vars.defs.lookup key = none := by
        rw [List.lookup_eq_none_iff]
        intro d hd
        rw [bne_iff_ne]
        rintro rfl
        exact undefined d.2 hd
      rw [isGroupKey_eq_false_iff.2 other, none]
      rfl

lemma exists_lookup_iff : (∃ value, vars.lookup key = .ok value) ↔ ∀ f, ¬ vars.Unresolvable key f := by
  cases e : vars.lookup key with
  | error f => exact iff_of_false nofun fun none => none f (lookup_eq_error_iff.1 e)
  | ok value =>
    refine iff_of_true ⟨value, rfl⟩ fun f unresolvable => ?_
    rw [lookup_eq_error_iff.2 unresolvable] at e
    cases e

/-- A pass that has not failed has met no key that stands for nothing. -/
lemma not_unresolvable {text next ks} (once : vars.expandOnce text = .ok next) (scans : Scans text ks) :
    ∀ key ∈ ks, ∀ f, ¬ vars.Unresolvable key f := by
  intro key mem f unresolvable
  obtain ⟨k, g, looked, dangling⟩ := exists_looksUpIn scans mem (lookup_eq_error_iff.2 unresolvable)
  rw [expandOnce_eq_error_iff.2 ⟨k, looked, dangling⟩] at once
  cases once

/-- A reference that nothing closes is not looked up. -/
lemma expandOnce_unclosed {rest} (vars : Variables) (before) (open_ : '}' ∉ rest) :
    vars.expandOnce (before ++ '$' :: '{' :: rest) = (vars.expandOnce before).map (· ++ '$' :: '{' :: rest) := by
  rw [expandOnce, expandOnce, pieces_unclosed open_]
  induction pieces none before with
  | nil => exact expandPieces_chars vars _
  | cons p ps ih =>
    rw [List.cons_append, expandPieces, expandPieces, ih]
    cases vars.expandPiece p with
    | error f => rfl
    | ok s =>
      cases vars.expandPieces ps with
      | error f => rfl
      | ok text => exact congrArg Except.ok (List.append_assoc s text _).symm

lemma scans_unclosed {before rest ks} (open_ : '}' ∉ rest) :
    Scans (before ++ '$' :: '{' :: rest) ks ↔ Scans before ks := by
  rw [scans_iff, scans_iff, pieces_unclosed open_, keys_append, keys_chars, List.append_nil]

/-- A line cannot be substituted exactly when the scan in one of its passes meets a key that stands for
nothing. The fault is that of the first such key in the first such pass: it tells of a group for a number that
is not below the number of groups, and of a variable for any other key that is not defined. A reference that
nothing closes adds no key to those that are met, and stays as it is. -/
theorem substitute_eq_error_iff (vars : Variables) (line : List Char) :
    ((∃ f, vars.substitute line = .error f) ↔
      ∃ i text ks key f, vars.Pass maxPasses line i text ∧ Scans text ks ∧ key ∈ ks ∧
        vars.Unresolvable key f) ∧
    (∀ f, vars.substitute line = .error f ↔
      ∃ i text before key behind, vars.Pass maxPasses line i text ∧ Scans text (before ++ key :: behind) ∧
        vars.Unresolvable key f ∧ (∀ k ∈ before, ∀ g, ¬ vars.Unresolvable k g) ∧
        ∀ j < i, ∀ earlier ks, vars.Pass maxPasses line j earlier → Scans earlier ks →
          ∀ k ∈ ks, ∀ g, ¬ vars.Unresolvable k g) ∧
    (∀ before rest, '}' ∉ rest →
      (∀ ks, Scans (before ++ '$' :: '{' :: rest) ks ↔ Scans before ks) ∧
      vars.expandOnce (before ++ '$' :: '{' :: rest) =
        (vars.expandOnce before).map (· ++ '$' :: '{' :: rest)) := by
  refine ⟨⟨?_, ?_⟩, fun f => ⟨?_, ?_⟩, ?_⟩
  · rintro ⟨f, e⟩
    obtain ⟨i, text, pass, fails⟩ := expandUpTo_eq_error_iff.1 e
    obtain ⟨key, ⟨before, behind, scans, -⟩, dangling⟩ := expandOnce_eq_error_iff.1 fails
    refine ⟨i, text, _, key, f, pass, scans, ?_, lookup_eq_error_iff.1 dangling⟩
    exact List.mem_append_right _ List.mem_cons_self
  · rintro ⟨i, text, ks, key, f, pass, scans, mem, unresolvable⟩
    cases once : vars.expandOnce text with
    | error g => exact ⟨g, expandUpTo_eq_error_iff.2 ⟨i, text, pass, once⟩⟩
    | ok next => exact absurd unresolvable (not_unresolvable once scans key mem f)
  · intro e
    obtain ⟨i, text, pass, fails⟩ := expandUpTo_eq_error_iff.1 e
    obtain ⟨key, ⟨before, behind, scans, resolved⟩, dangling⟩ := expandOnce_eq_error_iff.1 fails
    refine ⟨i, text, before, key, behind, pass, scans, lookup_eq_error_iff.1 dangling, ?_, ?_⟩
    · intro k hk
      exact exists_lookup_iff.1 (resolved k hk)
    · intro j sooner earlier ks made met
      obtain ⟨next, once⟩ := pass.expandOnce_ok sooner made
      exact not_unresolvable once met
  · rintro ⟨i, text, before, key, behind, pass, scans, unresolvable, resolved, -⟩
    have looked : vars.LooksUpIn text key :=
      ⟨before, behind, scans, fun k hk => exists_lookup_iff.2 (resolved k hk)⟩
    have fails := expandOnce_eq_error_iff.2 ⟨key, looked, lookup_eq_error_iff.2 unresolvable⟩
    exact expandUpTo_eq_error_iff.2 ⟨i, text, pass, fails⟩
  · intro before rest open_
    exact ⟨fun ks => scans_unclosed open_, expandOnce_unclosed vars before open_⟩

/-- A group is missing for a number of any length, and the first key of the first pass is told of. -/
example :
    let vars : Variables := { defs := [(['A'], "${Z}${1}".toList)], groups := [['g']] }
    vars.substitute "${A}${00} $\x7b".toList = .error (.undefinedVariable ['Z']) ∧
      vars.substitute "${000}${018446744073709551616}${Z}".toList =
        .error (.missingGroup "018446744073709551616".toList) := by
  decide

end Transcript.Variables
