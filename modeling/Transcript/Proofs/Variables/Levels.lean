import Mathlib.Data.List.Basic
import Mathlib.Tactic.Common
import Transcript.Proofs.Variables.Regular

/-!
# Levels of references

Regular values are known by their parts (`Outline`). A pass over a regular line then replaces each of its
references by the parts of its value, all at once (`Outline.expandOnce_texts`), so that passes are levels of
expansion. Substitution is the expansion of ten levels (`substitute_eq_expand`): it fails when a key that is
reached in them stands for nothing, and it is the full expansion when no chain of references is longer.
-/

namespace Transcript.Variables

/-- Definitions and groups by their parts. -/
structure Outline where
  defs : List (List Char × List Piece)
  groups : List (List Piece)

/-- All values and all groups are regular. -/
structure AllRegular (vars : Variables) : Prop where
  values : ∀ d ∈ vars.defs, IsRegular d.2
  groups : ∀ g ∈ vars.groups, IsRegular g

namespace Outline

/-- The variables whose values are written as the parts. -/
def written (o : Outline) : Variables where
  defs := o.defs.map fun d => (d.1, texts d.2)
  groups := o.groups.map texts

/-- All parts of values and of groups are regular. -/
structure IsRegular (o : Outline) : Prop where
  values : ∀ d ∈ o.defs, ∀ p ∈ d.2, p.IsRegular
  groups : ∀ g ∈ o.groups, ∀ p ∈ g, p.IsRegular

/-- The parts of what a key stands for: of a group when it is a number, else of a definition. -/
def resolve (o : Outline) (key : List Char) : Except Fault (List Piece) :=
  if isGroupKey key then
    match o.groups[groupNumber key]? with
    | some ps => .ok ps
    | none => .error (.missingGroup key)
  else
    match o.defs.lookup key with
    | some ps => .ok ps
    | none => .error (.undefinedVariable key)

/-- The parts that stand in place of a part one level down. -/
def below (o : Outline) : Piece → Except Fault (List Piece)
  | .char c => .ok [.char c]
  | .reference key => o.resolve key

/-- One level of expansion: all references at once. -/
def level (o : Outline) (ps : List Piece) : Except Fault (List Piece) :=
  (ps.mapM o.below).map List.flatten

/-- Several levels of expansion, one after the other. -/
def expand (o : Outline) : Nat → List Piece → Except Fault (List Piece)
  | 0, ps => .ok ps
  | n + 1, ps => (o.level ps).bind (o.expand n)

/-- The keys that are reached from parts when a number of levels has been expanded. -/
inductive Reaches (o : Outline) : Nat → List Piece → List Char → Prop where
  | here {ps key} :
    .reference key ∈ ps →
    Reaches o 0 ps key
  | further {n ps k vs key} :
    .reference k ∈ ps →
    o.resolve k = .ok vs →
    Reaches o n vs key →
    Reaches o (n + 1) ps key

/-- The full expansion of parts, down to characters. -/
inductive Unfolds (o : Outline) : List Piece → List Char → Prop where
  | nil :
    Unfolds o [] []
  | char {c ps s} :
    Unfolds o ps s →
    Unfolds o (.char c :: ps) (c :: s)
  | reference {key vs v ps s} :
    o.resolve key = .ok vs →
    Unfolds o vs v →
    Unfolds o ps s →
    Unfolds o (.reference key :: ps) (v ++ s)

variable {o : Outline} {p q : Piece} {ps qs vs : List Piece} {key s s' : List Char} {n : Nat}

section Levels

/-- Parts are expanded in turn. -/
lemma level_cons (o : Outline) (p ps) :
    o.level (p :: ps) = (o.below p).bind fun vs => (o.level ps).map (vs ++ ·) := by
  rw [level, level, List.mapM_cons]
  cases o.below p with
  | error f => rfl
  | ok vs => cases ps.mapM o.below <;> rfl

/-- A level of expansion has one for the first part and one for the others. -/
lemma level_cons_ok (e : o.level (p :: ps) = .ok qs) :
    ∃ vs rest, o.below p = .ok vs ∧ o.level ps = .ok rest ∧ qs = vs ++ rest := by
  rw [level_cons] at e
  obtain ⟨vs, first, e'⟩ := bind_eq_ok.1 e
  obtain ⟨rest, others, rfl⟩ := map_eq_ok.1 e'
  exact ⟨vs, rest, first, others, rfl⟩

/-- A part of a level comes from a part of the one above. -/
lemma mem_level_iff (e : o.level ps = .ok qs) :
    q ∈ qs ↔ ∃ p ∈ ps, ∃ vs, o.below p = .ok vs ∧ q ∈ vs := by
  induction ps generalizing qs with
  | nil =>
    cases e
    exact iff_of_false List.not_mem_nil nofun
  | cons p ps ih =>
    obtain ⟨vs, rest, first, others, rfl⟩ := level_cons_ok e
    rw [List.mem_append, ih others, List.exists_mem_cons_iff]
    apply or_congr_left
    constructor
    · intro hq
      exact ⟨vs, first, hq⟩
    · rintro ⟨vs', first', hq⟩
      cases first.symm.trans first'
      exact hq

/-- A reference of a level stands in the value of a reference above. -/
lemma reference_mem_level_iff (e : o.level ps = .ok qs) :
    .reference key ∈ qs ↔ ∃ k vs, .reference k ∈ ps ∧ o.resolve k = .ok vs ∧ .reference key ∈ vs := by
  rw [mem_level_iff e]
  constructor
  · rintro ⟨p, hp, vs, there, hq⟩
    cases p with
    | char c =>
      cases there
      cases List.mem_singleton.1 hq
    | reference k => exact ⟨k, vs, hp, there, hq⟩
  · rintro ⟨k, vs, hp, there, hq⟩
    exact ⟨.reference k, hp, vs, there, hq⟩

/-- A level cannot be expanded when one of its keys stands for nothing. -/
lemma level_error_iff :
    (∃ f, o.level ps = .error f) ↔ ∃ key f, .reference key ∈ ps ∧ o.resolve key = .error f := by
  induction ps with
  | nil =>
    refine iff_of_false ?_ ?_
    · rintro ⟨f, e⟩
      cases e
    · rintro ⟨key, f, hp, -⟩
      cases hp
  | cons p ps ih =>
    rw [level_cons]
    constructor
    · rintro ⟨f, e⟩
      rcases bind_eq_error.1 e with first | ⟨vs, -, others⟩
      · cases p with
        | char c => cases first
        | reference key => exact ⟨key, f, List.mem_cons_self, first⟩
      · obtain ⟨key, g, hp, dangling⟩ := ih.1 ⟨f, map_eq_error.1 others⟩
        exact ⟨key, g, List.mem_cons_of_mem p hp, dangling⟩
    · rintro ⟨key, f, hp, dangling⟩
      rcases List.mem_cons.1 hp with rfl | hp
      · exact ⟨f, bind_eq_error.2 (.inl dangling)⟩
      · obtain ⟨g, others⟩ := ih.2 ⟨key, f, hp, dangling⟩
        cases first : o.below p with
        | error f => exact ⟨f, rfl⟩
        | ok vs => exact ⟨g, bind_eq_error.2 (.inr ⟨vs, rfl, map_eq_error.2 others⟩)⟩

end Levels

section Passes

/-- What a key stands for is written as its parts. -/
lemma lookup_written (o : Outline) (key) : o.written.lookup key = (o.resolve key).map texts := by
  rw [lookup, resolve]
  split
  · have there : o.written.groups[groupNumber key]? = o.groups[groupNumber key]?.map texts :=
      List.getElem?_map
    rw [there]
    cases o.groups[groupNumber key]? <;> rfl
  · have there : o.written.defs.lookup key = (o.defs.lookup key).map texts := by
      show (o.defs.map fun d => (d.1, texts d.2)).lookup key = _
      induction o.defs with
      | nil => rfl
      | cons d ds ih =>
        rw [List.map_cons, List.lookup_cons, List.lookup_cons, ih]
        cases key == d.1 <;> rfl
    rw [there]
    cases o.defs.lookup key <;> rfl

/-- Parts are written one behind the other. -/
lemma texts_append (ps qs) : texts (ps ++ qs) = texts ps ++ texts qs :=
  List.flatMap_append

/-- A pass over what regular parts are written as is a level of expansion. -/
lemma expandOnce_texts (regular : ∀ p ∈ ps, p.IsRegular) :
    o.written.expandOnce (texts ps) = (o.level ps).map texts := by
  rw [expandOnce, pieces_texts regular]
  clear regular
  induction ps with
  | nil => rfl
  | cons p ps ih =>
    have first : o.written.expandPiece p = (o.below p).map texts := by
      cases p with
      | char c => rfl
      | reference key => exact lookup_written o key
    rw [expandPieces, level_cons, first, ih]
    cases o.below p with
    | error f => rfl
    | ok vs =>
      cases o.level ps with
      | error f => rfl
      | ok qs => exact congrArg Except.ok (texts_append vs qs).symm

/-- A key stands for regular parts. -/
lemma IsRegular.resolve (ho : o.IsRegular) (e : o.resolve key = .ok vs) : ∀ v ∈ vs, v.IsRegular := by
  unfold Outline.resolve at e
  split at e
  · split at e
    · rename_i there
      cases e
      exact ho.groups _ (List.mem_of_getElem? there)
    · cases e
  · split at e
    · rename_i there
      cases e
      obtain ⟨before, behind, split, -⟩ := List.lookup_eq_some_iff.1 there
      have mem : (key, vs) ∈ o.defs := by
        rw [split]
        exact List.mem_append_right _ List.mem_cons_self
      exact ho.values _ mem
    · cases e

/-- Below regular parts there are regular parts. -/
lemma IsRegular.level (ho : o.IsRegular) (regular : ∀ p ∈ ps, p.IsRegular) (e : o.level ps = .ok qs) :
    ∀ q ∈ qs, q.IsRegular := by
  intro q hq
  obtain ⟨p, hp, vs, there, hv⟩ := (mem_level_iff e).1 hq
  cases p with
  | char c =>
    cases there
    rw [List.mem_singleton.1 hv]
    exact regular _ hp
  | reference key => exact ho.resolve there q hv

/-- Passes over what regular parts are written as are levels of expansion. -/
lemma expandUpTo_texts (ho : o.IsRegular) (regular : ∀ p ∈ ps, p.IsRegular) (n) :
    o.written.expandUpTo n (texts ps) = (o.expand n ps).map texts := by
  induction n generalizing ps with
  | zero => rfl
  | succ n ih =>
    rw [expandUpTo_succ, expandOnce_texts regular, expand]
    cases e : o.level ps with
    | error f => rfl
    | ok qs => exact ih (ho.level regular e)

end Passes

section Reaching

/-- What is reached from a level is reached from the one above, a level later. -/
lemma reaches_level_iff (e : o.level ps = .ok qs) : o.Reaches n qs key ↔ o.Reaches (n + 1) ps key := by
  constructor
  · intro reached
    cases reached with
    | here hq =>
      obtain ⟨k, vs, hp, there, hv⟩ := (reference_mem_level_iff e).1 hq
      exact .further hp there (.here hv)
    | further hq there rest =>
      obtain ⟨k, vs, hp, there', hv⟩ := (reference_mem_level_iff e).1 hq
      exact .further hp there' (.further hv there rest)
  · intro reached
    cases reached with
    | @further _ _ k vs _ hp there rest =>
      cases rest with
      | here hv => exact .here ((reference_mem_level_iff e).2 ⟨k, vs, hp, there, hv⟩)
      | further hv there' rest =>
        exact .further ((reference_mem_level_iff e).2 ⟨k, vs, hp, there, hv⟩) there' rest

/-- An expansion fails when a key that is reached in its levels stands for nothing. -/
lemma expand_error_iff :
    (∃ f, o.expand n ps = .error f) ↔
      ∃ m key f, m < n ∧ o.Reaches m ps key ∧ o.resolve key = .error f := by
  induction n generalizing ps with
  | zero =>
    refine iff_of_false ?_ ?_
    · rintro ⟨f, e⟩
      cases e
    · rintro ⟨m, key, f, few, -⟩
      cases few
  | succ n ih =>
    rw [expand]
    cases e : o.level ps with
    | error f =>
      obtain ⟨key, g, hp, dangling⟩ := level_error_iff.1 ⟨f, e⟩
      exact iff_of_true ⟨f, rfl⟩ ⟨0, key, g, Nat.succ_pos n, .here hp, dangling⟩
    | ok qs =>
      rw [Except.bind, ih]
      constructor
      · rintro ⟨m, key, f, few, reached, dangling⟩
        exact ⟨m + 1, key, f, Nat.succ_lt_succ few, (reaches_level_iff e).1 reached, dangling⟩
      · rintro ⟨m, key, f, few, reached, dangling⟩
        cases m with
        | zero =>
          -- the first level has been expanded, so each of its keys stands for something
          cases reached with
          | here hp =>
            obtain ⟨g, e'⟩ := level_error_iff.2 ⟨key, f, hp, dangling⟩
            cases e.symm.trans e'
        | succ m =>
          exact ⟨m, key, f, Nat.lt_of_succ_lt_succ few, (reaches_level_iff e).2 reached, dangling⟩

end Reaching

section Unfolding

/-- Characters stand for themselves. -/
lemma unfolds_chars (o : Outline) (s) : o.Unfolds (s.map .char) s := by
  induction s with
  | nil => exact .nil
  | cons c s ih => exact .char ih

/-- Parts are unfolded in turn. -/
lemma unfolds_append (h : o.Unfolds (ps ++ qs) s) :
    ∃ t u, o.Unfolds ps t ∧ o.Unfolds qs u ∧ s = t ++ u := by
  induction ps generalizing s with
  | nil => exact ⟨[], s, .nil, h, rfl⟩
  | cons p ps ih =>
    cases h with
    | char rest =>
      obtain ⟨t, u, ht, hu, rfl⟩ := ih rest
      exact ⟨_ :: t, u, .char ht, hu, rfl⟩
    | @reference key vs v _ _ there first rest =>
      obtain ⟨t, u, ht, hu, rfl⟩ := ih rest
      exact ⟨v ++ t, u, .reference there first ht, hu, (List.append_assoc v t u).symm⟩

/-- Parts unfold to what the level below them unfolds to. -/
lemma unfolds_of_level (e : o.level ps = .ok qs) (h : o.Unfolds qs s) : o.Unfolds ps s := by
  induction ps generalizing qs s with
  | nil =>
    cases e
    exact h
  | cons p ps ih =>
    obtain ⟨vs, rest, first, others, rfl⟩ := level_cons_ok e
    obtain ⟨t, u, ht, hu, rfl⟩ := unfolds_append h
    cases p with
    | char c =>
      cases first
      cases ht with
      | char nothing =>
        cases nothing
        exact .char (ih others hu)
    | reference key => exact .reference first ht (ih others hu)

/-- Parts unfold in one way. -/
lemma Unfolds.unique (h : o.Unfolds ps s) (h' : o.Unfolds ps s') : s = s' := by
  induction h generalizing s' with
  | nil =>
    cases h'
    rfl
  | char _ ih =>
    cases h' with
    | char rest => rw [ih rest]
  | reference there _ _ ihv ih =>
    cases h' with
    | reference there' first rest =>
      cases there.symm.trans there'
      rw [ihv first, ih rest]

/-- Regular parts without references are characters, and none is a dollar sign. -/
lemma exists_chars (regular : ∀ p ∈ ps, p.IsRegular) (h : ∀ key, .reference key ∉ ps) :
    ∃ s : List Char, ps = s.map .char ∧ '$' ∉ s := by
  induction ps with
  | nil => exact ⟨[], rfl, List.not_mem_nil⟩
  | cons p ps ih =>
    obtain ⟨first, others⟩ := List.forall_mem_cons.1 regular
    obtain ⟨s, rfl, free⟩ := ih others fun key hp => h key (List.mem_cons_of_mem p hp)
    cases p with
    | char c => exact ⟨c :: s, rfl, not_or.2 ⟨Ne.symm first, free⟩ ∘ List.mem_cons.1⟩
    | reference key => exact absurd List.mem_cons_self (h key)

/-- Where every key that is reached stands for something, and none is reached after so many levels, these
levels are the full expansion. -/
lemma expand_of_shallow (ho : o.IsRegular) (regular : ∀ p ∈ ps, p.IsRegular)
    (shallow : ∀ m key, o.Reaches m ps key → m < n ∧ ∃ vs, o.resolve key = .ok vs) :
    ∃ s, o.Unfolds ps s ∧ o.expand n ps = .ok (s.map .char) ∧ '$' ∉ s := by
  induction n generalizing ps with
  | zero =>
    have none : ∀ key, .reference key ∉ ps := by
      intro key hp
      obtain ⟨few, -⟩ := shallow 0 key (.here hp)
      cases few
    obtain ⟨s, rfl, free⟩ := exists_chars regular none
    exact ⟨s, unfolds_chars o s, rfl, free⟩
  | succ n ih =>
    cases e : o.level ps with
    | error f =>
      obtain ⟨key, g, hp, dangling⟩ := level_error_iff.1 ⟨f, e⟩
      obtain ⟨-, vs, there⟩ := shallow 0 key (.here hp)
      cases there.symm.trans dangling
    | ok qs =>
      have later : ∀ m key, o.Reaches m qs key → m < n ∧ ∃ vs, o.resolve key = .ok vs := by
        intro m key reached
        obtain ⟨few, there⟩ := shallow (m + 1) key ((reaches_level_iff e).1 reached)
        exact ⟨Nat.lt_of_succ_lt_succ few, there⟩
      obtain ⟨s, unfolds, expanded, free⟩ := ih (ho.level regular e) later
      refine ⟨s, unfolds_of_level e unfolds, ?_, free⟩
      rw [expand, e]
      exact expanded

end Unfolding

end Outline

open Outline

variable {vars : Variables} {line : List Char}

/-- Variables with regular values have an outline. -/
lemma AllRegular.exists_outline (h : vars.AllRegular) : ∃ o : Outline, o.written = vars ∧ o.IsRegular := by
  have spelled (v) (hv : IsRegular v) : texts (pieces none v) = v := (isRegular_iff_pieces.1 hv).2
  have parts (v) (hv : IsRegular v) : ∀ p ∈ pieces none v, p.IsRegular := (isRegular_iff_pieces.1 hv).1
  let o : Outline := ⟨vars.defs.map fun d => (d.1, pieces none d.2), vars.groups.map (pieces none)⟩
  refine ⟨o, ?_, ?_, ?_⟩
  · have defs : (vars.defs.map fun d => (d.1, texts (pieces none d.2))) = vars.defs.map id := by
      apply List.map_congr_left
      intro d hd
      rw [spelled d.2 (h.values d hd)]
      rfl
    have groups : vars.groups.map (texts ∘ pieces none) = vars.groups.map id :=
      List.map_congr_left fun g hg => spelled g (h.groups g hg)
    rw [List.map_id] at defs groups
    rw [written, List.map_map, List.map_map, groups]
    exact congrArg (fun ds => (⟨ds, vars.groups⟩ : Variables)) defs
  · intro d hd
    obtain ⟨d', hd', rfl⟩ := List.mem_map.1 hd
    exact parts d'.2 (h.values d' hd')
  · intro g hg
    obtain ⟨g', hg', rfl⟩ := List.mem_map.1 hg
    exact parts g' (h.groups g' hg')

/-- Where all values are regular, a regular line with its references replaced is the expansion of its parts
by ten levels. It cannot be had when a key that is reached in these levels stands for nothing, and only
then; and it is the full expansion, without a dollar sign, when every key that is reached stands for
something and no chain of references is longer than ten. -/
theorem substitute_eq_expand (values : vars.AllRegular) (regular : IsRegular line) :
    ∃ (o : Outline) (ps : List Piece), o.written = vars ∧ o.IsRegular ∧
      texts ps = line ∧ (∀ p ∈ ps, p.IsRegular) ∧
      vars.substitute line = (o.expand 10 ps).map texts ∧
      ((∃ f, vars.substitute line = .error f) ↔
        ∃ n key f, n < 10 ∧ o.Reaches n ps key ∧ o.resolve key = .error f) ∧
      ((∀ n key, o.Reaches n ps key → n < 10 ∧ ∃ vs, o.resolve key = .ok vs) →
        ∃ s, (∀ s', o.Unfolds ps s' ↔ s' = s) ∧ vars.substitute line = .ok s ∧ '$' ∉ s) := by
  obtain ⟨o, rfl, ho⟩ := values.exists_outline
  obtain ⟨ps, parts, rfl⟩ := isRegular_iff.1 regular
  have expanded : o.written.substitute (texts ps) = (o.expand 10 ps).map texts :=
    expandUpTo_texts ho parts 10
  refine ⟨o, ps, rfl, ho, rfl, parts, expanded, ?_, ?_⟩
  · rw [expanded, ← expand_error_iff]
    exact exists_congr fun f => map_eq_error
  · intro shallow
    obtain ⟨s, unfolds, e, free⟩ := expand_of_shallow ho parts shallow
    have chars : texts (List.map Piece.char s) = s := by
      rw [texts, List.flatMap_map]
      exact List.flatMap_singleton' s
    refine ⟨s, ?_, ?_, free⟩
    · intro s'
      constructor
      · intro unfolds'
        exact unfolds'.unique unfolds
      · rintro rfl
        exact unfolds
    · rw [expanded, e, Except.map, chars]

/-- A definition that refers to itself is still there after ten levels; a group that leads to others by three
references is not. -/
theorem substitute_eq_expand_cyclic :
    let vars : Variables := {
      defs := [(['X'], "a${X}".toList), (['A'], ['x']), (['B'], "<${A}>".toList)]
      groups := ["${B}".toList] }
    let line := "${X}${0}".toList
    vars.AllRegular ∧ IsRegular line ∧ vars.substitute line = .ok "aaaaaaaaaa${X}<x>".toList ∧
      ∃ (o : Outline) (ps : List Piece), o.written = vars ∧ texts ps = line ∧
        (o.expand 10 ps).map texts = .ok "aaaaaaaaaa${X}<x>".toList := by
  intro vars line
  have values : vars.AllRegular := ⟨by decide, by decide⟩
  have regular : IsRegular line := by decide
  have result : vars.substitute line = .ok "aaaaaaaaaa${X}<x>".toList := by decide
  obtain ⟨o, ps, outlined, -, spelled, -, expanded, -⟩ := substitute_eq_expand values regular
  exact ⟨values, regular, result, o, ps, outlined, spelled, expanded.symm.trans result⟩

end Transcript.Variables
