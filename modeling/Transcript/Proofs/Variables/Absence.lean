import Mathlib.Tactic.Common
import Transcript.Proofs.Variables.Expansion

/-!
# Characters that do not turn up

A character that is in no value and in no group comes into a line by no reference: where the line does
not have it, the line with its references replaced does not have it either (`Variables.Lacks.substitute`).
-/

namespace Transcript.Variables

/-- No value and no group has the character. -/
structure Lacks (vars : Variables) (c : Char) : Prop where
  values : ∀ d ∈ vars.defs, c ∉ d.2
  groups : ∀ g ∈ vars.groups, c ∉ g

variable {vars : Variables} {c : Char} {key line text : List Char}

/-- Where nothing is defined, no character turns up. -/
lemma Lacks.empty (c) : Lacks {} c where
  values := nofun
  groups := nofun

/-- A definition brings the characters of its value only. -/
lemma Lacks.set (h : vars.Lacks c) (name) {value} (hv : c ∉ value) : (vars.set name value).Lacks c where
  values := by
    intro d hd
    rcases List.mem_cons.1 hd with rfl | hd
    · exact hv
    · exact h.values d ((List.mem_filter.1 hd).1)
  groups := h.groups

/-- Groups bring their own characters only. -/
lemma Lacks.recordGroups (h : vars.Lacks c) {groups} (hg : ∀ g ∈ groups, c ∉ g) :
    (vars.recordGroups groups).Lacks c where
  values := h.values
  groups := hg

/-- What a key stands for is the value of a definition or a group. -/
lemma lookup_ok {value} (e : vars.lookup key = .ok value) :
    (∃ name, (name, value) ∈ vars.defs) ∨ value ∈ vars.groups := by
  unfold Variables.lookup at e
  split at e
  · split at e
    · rename_i there
      cases e
      exact .inr (List.mem_of_getElem? there)
    · cases e
  · split at e
    · rename_i there
      cases e
      obtain ⟨before, behind, split, -⟩ := List.lookup_eq_some_iff.1 there
      refine .inl ⟨key, ?_⟩
      rw [split]
      exact List.mem_append_right _ List.mem_cons_self
    · cases e

/-- What a key stands for does not have the character. -/
lemma Lacks.lookup (h : vars.Lacks c) {value} (e : vars.lookup key = .ok value) : c ∉ value := by
  rcases lookup_ok e with ⟨name, there⟩ | there
  · exact h.values _ there
  · exact h.groups _ there

/-- Parts bring the characters that they are. -/
lemma Lacks.expandPieces (h : vars.Lacks c) {ps} (other : Piece.char c ∉ ps)
    (e : vars.expandPieces ps = .ok text) : c ∉ text := by
  induction ps generalizing text with
  | nil =>
    cases e
    exact List.not_mem_nil
  | cons p ps ih =>
    obtain ⟨first, others⟩ := not_or.1 (mt List.mem_cons.2 other)
    obtain ⟨s, hp, rest⟩ := bind_eq_ok.1 e
    obtain ⟨t, hps, rfl⟩ := map_eq_ok.1 rest
    have here : c ∉ s := by
      cases p with
      | char d =>
        cases hp
        intro same
        exact first (congrArg Piece.char (List.mem_singleton.1 same))
      | reference key => exact h.lookup hp
    exact List.not_mem_append here (ih others hps)

/-- The characters among the parts of a line are characters of the line, or of the reference that is open
before it. -/
lemma mem_of_mem_pieces {before : Option (List Char)} (h : Piece.char c ∈ pieces before line) :
    c ∈ before.elim [] (fun key => '$' :: '{' :: key) ++ line := by
  fun_induction pieces before line with
  | case1 => cases h
  | case2 r ih => exact ih h
  | case3 d r _ ih =>
    rcases List.mem_cons.1 h with same | later
    · cases same
      exact List.mem_cons_self
    · exact List.mem_cons_of_mem d (ih later)
  | case4 key =>
    obtain ⟨d, hd, same⟩ := List.mem_map.1 h
    cases same
    simpa using hd
  | case5 key r ih =>
    rcases List.mem_cons.1 h with same | later
    · cases same
    · exact List.mem_append_right _ (List.mem_cons_of_mem _ (ih later))
  | case6 key d r _ ih =>
    -- the reference stays open, and the character that is read moves from the line to it
    have inside := ih h
    simp only [Option.elim, List.mem_append, List.mem_cons] at inside ⊢
    tauto

/-- One pass brings no character that the line does not have. -/
lemma Lacks.expandOnce (h : vars.Lacks c) (hl : c ∉ line) (e : vars.expandOnce line = .ok text) :
    c ∉ text := by
  refine h.expandPieces ?_ e
  intro inside
  exact hl (mem_of_mem_pieces inside)

/-- Passes bring no character that the line does not have. -/
lemma Lacks.expandUpTo (h : vars.Lacks c) {n} (hl : c ∉ line) (e : vars.expandUpTo n line = .ok text) :
    c ∉ text := by
  induction n generalizing line with
  | zero =>
    cases e
    exact hl
  | succ n ih =>
    rw [expandUpTo_succ] at e
    obtain ⟨next, once, later⟩ := bind_eq_ok.1 e
    exact ih (h.expandOnce hl once) later

/-- A line has no new character when its references have been replaced. -/
theorem Lacks.substitute (h : vars.Lacks c) (hl : c ∉ line) (e : vars.substitute line = .ok text) :
    c ∉ text :=
  h.expandUpTo hl e

end Transcript.Variables
