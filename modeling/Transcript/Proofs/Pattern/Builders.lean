import Mathlib.Tactic.Common
import Transcript.Proofs.Pattern.Matching
import Transcript.Proofs.Unicode.CharSet

/-!
# What the builders of expressions mean

The normal form of expressions does not change what they match: a row is passed through part by part
(`Expr.matches_row`), and a choice by either of its alternatives, whether or not they are joined to a set
or what they share is taken out (`Expr.matches_oneOf`).
-/

namespace Transcript.Pattern

open Relation (Comp)
open Unicode (CharSet)

namespace Expr

variable {text : Array Char} {a b c : Spot}

/-! ## Rows -/

/-- What does not see how members are grouped and joined is the same of a row and of its members. -/
lemma row_eq {α : Sort*} (F : List Expr → α) (parts : ∀ e es, F (rowParts e ++ es) = F (e :: es))
    (joined : ∀ e es, F (consPart e es) = F (e :: es))
    (cons : ∀ e es fs, F es = F fs → F (e :: es) = F (e :: fs)) (es : List Expr) : F [row es] = F es := by
  have flat : F (es.flatMap rowParts) = F es := by
    induction es with
    | nil => rfl
    | cons e es ih => rw [List.flatMap_cons, parts, cons e _ _ ih]
  have folded (fs : List Expr) : F (fs.foldr consPart []) = F fs := by
    induction fs with
    | nil => rfl
    | cons f fs ih => rw [List.foldr_cons, joined, cons f _ _ ih]
  have single (e : Expr) : F (rowParts e) = F [e] := by
    rw [← parts, List.append_nil]
  have whole : F [row es] = F ((es.flatMap rowParts).foldr consPart []) := by
    rw [row]
    split
    · rename_i e
      rw [e, ← single]
      rfl
    · rename_i e' e
      rw [e]
    · rw [← single]
      rfl
  rw [whole, folded, flat]

/-- Literals that are joined are spelled one after the other. -/
lemma spells_append {cs ds} :
    Spells text (cs ++ ds) a c ↔ Comp (Spells text cs) (Spells text ds) a c := by
  induction cs generalizing a with
  | nil =>
    constructor
    · intro h
      exact ⟨a, rfl, h⟩
    · rintro ⟨b, rfl, h⟩
      exact h
  | cons x cs ih =>
    constructor
    · rintro ⟨hx, rest⟩
      obtain ⟨b, left, right⟩ := ih.1 rest
      exact ⟨b, ⟨hx, left⟩, right⟩
    · rintro ⟨b, ⟨hx, left⟩, right⟩
      exact ⟨hx, ih.2 ⟨b, left, right⟩⟩

/-- The members of an expression in a row are the expression. -/
lemma matchesAll_rowParts (e : Expr) : MatchesAll text (rowParts e) a b ↔ e.Matches text a b := by
  unfold rowParts
  split
  · exact Iff.rfl
  · exact Iff.rfl
  · exact matchesAll_singleton e

/-- One more member in front of a row is passed through first. -/
lemma matchesAll_consPart (e : Expr) (es : List Expr) :
    MatchesAll text (consPart e es) a c ↔ Comp (e.Matches text) (MatchesAll text es) a c := by
  unfold consPart
  split
  · constructor
    · rintro ⟨d, joined, rest⟩
      obtain ⟨b, left, right⟩ := spells_append.1 joined
      exact ⟨b, left, d, right, rest⟩
    · rintro ⟨b, left, d, right, rest⟩
      exact ⟨d, spells_append.2 ⟨b, left, right⟩, rest⟩
  · exact Iff.rfl

/-- A row is passed through part by part. -/
theorem matches_row (es : List Expr) : (row es).Matches text a b ↔ MatchesAll text es a b := by
  have parts (e es) : MatchesAll text (rowParts e ++ es) = MatchesAll text (e :: es) := by
    funext a c
    rw [eq_iff_iff, matchesAll_append]
    exact exists_congr fun b => and_congr_left fun _ => matchesAll_rowParts e
  have joined (e es) : MatchesAll text (consPart e es) = MatchesAll text (e :: es) := by
    funext a c
    exact propext (matchesAll_consPart e es)
  have whole := row_eq (MatchesAll text) parts joined (fun e _ _ same => by simp only [MatchesAll, same]) es
  rw [← whole, matchesAll_singleton]

/-! ## Choices -/

/-- The expression of a set matches one character of it. -/
lemma matches_ofSet (s : CharSet) : (ofSet s).Matches text a b ↔ (Expr.set s).Matches text a b := by
  unfold ofSet
  cases only : s.singleton? with
  | none => exact Iff.rfl
  | some c =>
    have member : text[a.pos]?.any s.contains = true ↔ text[a.pos]? = some c := by
      cases text[a.pos]? with
      | none => simp only [Option.any_none, Bool.false_eq_true, reduceCtorEq]
      | some d => rw [Option.any_some, CharSet.contains_of_singleton? only, Option.some.injEq, eq_comm]
    constructor
    · rintro ⟨here, e⟩
      exact ⟨member.2 here, e⟩
    · rintro ⟨here, e⟩
      exact ⟨member.1 here, e⟩

/-- What cannot match does not match. -/
lemma not_matches_fail : ¬ fail.Matches text a b := by
  rintro ⟨here, -⟩
  cases h : text[a.pos]? with
  | none =>
    rw [h] at here
    cases here
  | some c =>
    rw [h, Option.any_some, CharSet.contains_empty] at here
    cases here

/-- The alternatives of an expression in a choice are the expression. -/
lemma matchesAny_branchesOf (e : Expr) : MatchesAny text (branchesOf e) a b ↔ e.Matches text a b := by
  unfold branchesOf
  split
  · exact Iff.rfl
  · simp only [MatchesAny, or_false]

/-- The alternatives of several expressions in a choice are the expressions. -/
lemma matchesAny_flatMap_branchesOf (es : List Expr) :
    MatchesAny text (es.flatMap branchesOf) a b ↔ MatchesAny text es a b := by
  simp only [matchesAny_iff, List.mem_flatMap]
  constructor
  · rintro ⟨f, ⟨e, he, hf⟩, h⟩
    exact ⟨e, he, (matchesAny_branchesOf e).1 (matchesAny_iff.2 ⟨f, hf, h⟩)⟩
  · rintro ⟨e, he, h⟩
    obtain ⟨f, hf, h⟩ := matchesAny_iff.1 ((matchesAny_branchesOf e).2 h)
    exact ⟨f, ⟨e, he, hf⟩, h⟩

/-- What all members of a list are read as by a partial inverse. -/
lemma eq_map_of_mapM {α β : Type} {f : α → Option β} {g : β → α} (inverse : ∀ x y, f x = some y → x = g y)
    {xs : List α} {ys : List β} (h : xs.mapM f = some ys) : xs = ys.map g := by
  induction xs generalizing ys with
  | nil =>
    cases h
    rfl
  | cons x xs ih =>
    simp only [List.mapM_cons, Option.pure_def, Option.bind_eq_bind, Option.bind_eq_some_iff] at h
    obtain ⟨y, hy, zs, hzs, e⟩ := h
    cases e
    rw [List.map_cons, ← inverse x y hy, ← ih hzs]

/-- A set is passed through where one of its characters stands. -/
lemma matches_set_iff {s : CharSet} :
    (Expr.set s).Matches text a b ↔
      ∃ c, text[a.pos]? = some c ∧ s.contains c = true ∧ a.forward = b := by
  cases h : text[a.pos]? with
  | none => simp only [Matches, h, Option.any_none, Bool.false_eq_true, false_and, reduceCtorEq,
      exists_false]
  | some c => simp only [Matches, h, Option.any_some, Option.some.injEq, exists_eq_left']

/-- Where every expression is a character, the choice is the set of these. -/
lemma matches_ofSet_chars {es : List Expr} {cs} (h : es.mapM char? = some cs) :
    (ofSet (.ofIntervals (cs.map fun c => (c.toNat, c.toNat)))).Matches text a b ↔
      MatchesAny text es a b := by
  have shape : es = cs.map fun c => .literal [c] := by
    refine eq_map_of_mapM (fun e c he => ?_) h
    unfold char? at he
    split at he
    · cases he
      rfl
    · cases he
  have member (d : Char) : CharSet.Within (cs.map fun c => (c.toNat, c.toNat)) d.toNat ↔ d ∈ cs := by
    constructor
    · rintro ⟨i, hi, low, high⟩
      obtain ⟨c, hc, rfl⟩ := List.mem_map.1 hi
      rwa [Char.toNat_inj.1 (Nat.le_antisymm low high)] at hc
    · intro hd
      exact ⟨_, List.mem_map_of_mem hd, Nat.le_refl _, Nat.le_refl _⟩
  rw [matches_ofSet, matches_set_iff, matchesAny_iff, shape]
  simp only [CharSet.contains_ofIntervals, member, List.mem_map]
  constructor
  · rintro ⟨c, here, hc, e⟩
    exact ⟨.literal [c], ⟨c, hc, rfl⟩, here, e⟩
  · rintro ⟨_, ⟨c, hc, rfl⟩, here, e⟩
    exact ⟨c, here, hc, e⟩

/-- Where every expression is a set, the choice is the union of these. -/
lemma matches_ofSet_sets {es : List Expr} {ss} (h : es.mapM set? = some ss) :
    (ofSet (ss.foldl CharSet.union .empty)).Matches text a b ↔ MatchesAny text es a b := by
  have shape : es = ss.map .set := by
    refine eq_map_of_mapM (fun e s he => ?_) h
    unfold set? at he
    split at he
    · cases he
      rfl
    · cases he
  rw [matches_ofSet, matches_set_iff, matchesAny_iff, shape]
  simp only [CharSet.contains_foldl_union, CharSet.contains_empty, Bool.false_eq_true, false_or,
    List.mem_map]
  constructor
  · rintro ⟨c, here, ⟨s, hs, hc⟩, e⟩
    exact ⟨.set s, ⟨s, hs, rfl⟩, matches_set_iff.2 ⟨c, here, hc, e⟩⟩
  · rintro ⟨_, ⟨s, hs, rfl⟩, h⟩
    obtain ⟨c, here, hc, e⟩ := matches_set_iff.1 h
    exact ⟨c, here, ⟨s, hs, hc⟩, e⟩

/-- A flat choice is passed through by either of its alternatives. -/
lemma matches_choiceOf (es : List Expr) :
    (choiceOf es).Matches text a b ↔ MatchesAny text es a b := by
  unfold choiceOf
  split
  · exact iff_of_false not_matches_fail id
  · simp only [MatchesAny, or_false]
  · split
    · rename_i h
      exact matches_ofSet_chars h
    · rename_i h _
      exact matches_ofSet_sets h
    · exact Iff.rfl

/-! ## Shared beginnings -/

mutual

/-- Expressions that are found equal are equal. -/
lemma eq_of_same : ∀ {e f : Expr}, e.same f = true → e = f
  | .empty, f, h => by
    cases f with
    | empty => rfl
    | _ => cases h
  | .literal cs, f, h => by
    cases f with
    | literal ds => rw [eq_of_beq h]
    | _ => cases h
  | .set s, f, h => by
    cases f with
    | set t => rw [eq_of_beq h]
    | _ => cases h
  | .look l, f, h => by
    cases f with
    | look m => rw [eq_of_beq h]
    | _ => cases h
  | .repeat min max greedy body, f, h => by
    cases f with
    | «repeat» min' max' greedy' body' =>
      simp only [same, Bool.and_eq_true, beq_iff_eq] at h
      obtain ⟨⟨⟨rfl, rfl⟩, rfl⟩, h⟩ := h
      rw [eq_of_same h]
    | _ => cases h
  | .group index body, f, h => by
    cases f with
    | group index' body' =>
      simp only [same, Bool.and_eq_true, beq_iff_eq] at h
      obtain ⟨rfl, h⟩ := h
      rw [eq_of_same h]
    | _ => cases h
  | .concat parts, f, h => by
    cases f with
    | concat parts' => rw [eq_of_sameAll h]
    | _ => cases h
  | .choice branches, f, h => by
    cases f with
    | choice branches' => rw [eq_of_sameAll h]
    | _ => cases h

/-- Lists of expressions that are found equal are equal. -/
lemma eq_of_sameAll : ∀ {es fs : List Expr}, sameAll es fs = true → es = fs
  | [], fs, h => by
    cases fs with
    | nil => rfl
    | cons f fs => cases h
  | e :: es, fs, h => by
    cases fs with
    | nil => cases h
    | cons f fs =>
      simp only [sameAll, Bool.and_eq_true] at h
      rw [eq_of_same h.1, eq_of_sameAll h.2]

end

/-- What two rows share is a beginning of both. -/
lemma commonParts_isPrefix (es fs : List Expr) :
    commonParts es fs <+: es ∧ commonParts es fs <+: fs := by
  induction es generalizing fs with
  | nil => exact ⟨List.nil_prefix, List.nil_prefix⟩
  | cons e es ih =>
    cases fs with
    | nil => exact ⟨List.nil_prefix, List.nil_prefix⟩
    | cons f fs =>
      rw [commonParts]
      split
      · rename_i h
        rw [eq_of_same h]
        exact ⟨(List.prefix_cons_inj f).2 (ih fs).1, (List.prefix_cons_inj f).2 (ih fs).2⟩
      · exact ⟨List.nil_prefix, List.nil_prefix⟩

/-- What several rows share is a beginning of each. -/
lemma foldl_commonParts_isPrefix (first : List Expr) (rest : List (List Expr)) :
    ∀ r ∈ first :: rest, rest.foldl commonParts first <+: r := by
  induction rest generalizing first with
  | nil =>
    intro r hr
    rw [List.mem_singleton.1 hr]
    exact List.prefix_refl first
  | cons second rest ih =>
    obtain ⟨common, others⟩ := List.forall_mem_cons.1 (ih (commonParts first second))
    obtain ⟨left, right⟩ := commonParts_isPrefix first second
    intro r hr
    rcases List.mem_cons.1 hr with rfl | hr
    · exact common.trans left
    · rcases List.mem_cons.1 hr with rfl | hr
      · exact common.trans right
      · exact others r hr

/-- Where alternatives share a beginning, they are rows, and each begins with it. -/
lemma sharedParts?_some {es : List Expr} {shared rows} (h : sharedParts? es = some (shared, rows)) :
    es = rows.map .concat ∧ ∀ r ∈ rows, shared <+: r := by
  simp only [sharedParts?, Option.bind_eq_bind, Option.bind_eq_some_iff] at h
  obtain ⟨rows', hrows, h⟩ := h
  have shape : es = rows'.map .concat := by
    refine eq_map_of_mapM (fun e r he => ?_) hrows
    unfold parts? at he
    split at he
    · cases he
      rfl
    · cases he
  split at h
  · split at h
    · cases h
    · cases h
      exact ⟨shape, foldl_commonParts_isPrefix _ _⟩
  · cases h

/-- A beginning that is taken out is passed through before either of the remainders. -/
lemma matchesAny_shared {shared : List Expr} {rows : List (List Expr)} (h : ∀ r ∈ rows, shared <+: r) :
    Comp (MatchesAll text shared)
        (MatchesAny text (rows.map fun r => row (r.drop shared.length))) a c ↔
      MatchesAny text (rows.map .concat) a c := by
  have cut (r) (hr : r ∈ rows) : MatchesAll text r a c ↔
      Comp (MatchesAll text shared) (MatchesAll text (r.drop shared.length)) a c := by
    obtain ⟨q, rfl⟩ := h r hr
    rw [List.drop_left, matchesAll_append]
  rw [matchesAny_iff]
  constructor
  · rintro ⟨b, first, rest⟩
    obtain ⟨_, he, rest⟩ := matchesAny_iff.1 rest
    obtain ⟨r, hr, rfl⟩ := List.mem_map.1 he
    exact ⟨.concat r, List.mem_map_of_mem hr, (cut r hr).2 ⟨b, first, (matches_row _).1 rest⟩⟩
  · rintro ⟨_, he, way⟩
    obtain ⟨r, hr, rfl⟩ := List.mem_map.1 he
    obtain ⟨b, first, rest⟩ := (cut r hr).1 way
    exact ⟨b, first, matchesAny_iff.2 ⟨_, List.mem_map_of_mem hr, (matches_row _).2 rest⟩⟩

/-- A choice is passed through by either of its alternatives, whatever is taken out of them. -/
lemma matches_alternatives (fuel) (es : List Expr) :
    (alternatives fuel es).Matches text a c ↔ MatchesAny text es a c := by
  induction fuel generalizing es a with
  | zero => rw [alternatives, matches_choiceOf, matchesAny_flatMap_branchesOf]
  | succ fuel ih =>
    rw [← matchesAny_flatMap_branchesOf, ← matches_choiceOf, alternatives]
    split
    · rename_i bs e
      rw [e]
      split
      · rename_i shared rows found
        obtain ⟨rfl, starts⟩ := sharedParts?_some found
        -- what is left of the alternatives is a choice of its own, with one round less
        rw [matches_row, matchesAll_append]
        refine Iff.trans ?_ (matchesAny_shared starts)
        refine exists_congr fun b => and_congr_right fun _ => ?_
        rw [matchesAll_singleton, ih]
      · exact Iff.rfl
    · exact Iff.rfl

/-- A choice is passed through by either of its alternatives. -/
theorem matches_oneOf (es : List Expr) : (oneOf es).Matches text a b ↔ MatchesAny text es a b :=
  matches_alternatives _ es

end Expr

end Transcript.Pattern
