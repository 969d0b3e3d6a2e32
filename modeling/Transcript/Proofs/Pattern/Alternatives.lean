import Mathlib.Tactic.Common
import Transcript.Proofs.Computation
import Transcript.Proofs.Pattern.Builders
import Transcript.Proofs.Pattern.Wrapping

/-!
# The alternatives of a pattern

A pattern matches where one of its alternatives does (`Level.elaborate_close`). Written in front of an
end of the line inside an anchored group, it begins where the text begins, and the end of the line is
asked for behind its last alternative alone (`Expr.matches_anchored`).
-/

namespace Transcript.Pattern

open Relation (Comp)

variable [Dialect]

/-- The expressions of the alternatives of a pattern's text, and the flags that hold at its end. -/
def Expr.readAlternatives (p : List Char) : Except PatternError (List Expr × Flags) :=
  (Level.read p).bind fun level => Ast.elaborateAll {} level.alternatives

section Elaboration

variable {flags after after' : Flags} {text : Array Char} {a b c : Spot}

/-- Patterns are elaborated from left to right, with the flags passed on. -/
lemma Ast.elaborateAll_append {as bs : List Ast} {es} :
    Ast.elaborateAll flags (as ++ bs) = .ok (es, after) ↔
      ∃ fs mid gs, Ast.elaborateAll flags as = .ok (fs, mid) ∧
        Ast.elaborateAll mid bs = .ok (gs, after) ∧ fs ++ gs = es := by
  induction as generalizing flags es with
  | nil =>
    constructor
    · intro h
      exact ⟨[], flags, es, rfl, h, rfl⟩
    · rintro ⟨fs, mid, gs, first, second, rfl⟩
      cases first
      exact second
  | cons a as ih =>
    rw [List.cons_append, Ast.elaborateAll, Ast.elaborateAll]
    simp only [bind_eq_ok, map_eq_ok, Prod.exists, Prod.mk.injEq]
    constructor
    · rintro ⟨e, next, one, rest, _, others, rfl, rfl⟩
      obtain ⟨fs, mid, gs, first, second, rfl⟩ := ih.1 others
      exact ⟨e :: fs, mid, gs, ⟨e, next, one, fs, mid, first, rfl, rfl⟩, second, rfl⟩
    · rintro ⟨_, mid, gs, ⟨e, next, one, fs, _, first, rfl, rfl⟩, second, rfl⟩
      exact ⟨e, next, one, fs ++ gs, after, ih.2 ⟨fs, _, gs, first, second, rfl⟩, rfl, rfl⟩

/-- A pattern is elaborated by itself. -/
lemma Ast.elaborateAll_singleton {p : Ast} {es} :
    Ast.elaborateAll flags [p] = .ok (es, after) ↔
      ∃ e, p.elaborate flags = .ok (e, after) ∧ [e] = es := by
  rw [Ast.elaborateAll]
  simp only [Ast.elaborateAll, bind_eq_ok, map_eq_ok, Prod.exists, Prod.mk.injEq, Except.ok.injEq]
  constructor
  · rintro ⟨e, next, one, _, _, ⟨rfl, rfl⟩, rfl, rfl⟩
    exact ⟨e, one, rfl⟩
  · rintro ⟨e, one, rfl⟩
    exact ⟨e, after, one, [], after, ⟨rfl, rfl⟩, rfl, rfl⟩

/-- Parts match one after the other. -/
lemma Ast.elaborate_ofParts {parts : List Ast} {e}
    (h : (Ast.ofParts parts).elaborate flags = .ok (e, after)) :
    ∃ es, Ast.elaborateAll flags parts = .ok (es, after) ∧
      ∀ text a b, e.Matches text a b ↔ Expr.MatchesAll text es a b := by
  rcases parts with _ | ⟨p, _ | ⟨q, parts⟩⟩
  · cases h
    exact ⟨[], rfl, fun _ _ _ => Iff.rfl⟩
  · refine ⟨[e], Ast.elaborateAll_singleton.2 ⟨e, h, rfl⟩, fun text a b => ?_⟩
    exact (Expr.matchesAll_singleton e).symm
  · rw [Ast.ofParts, Ast.elaborate] at h
    · obtain ⟨⟨es, after'⟩, all, e'⟩ := map_eq_ok.1 h
      cases e'
      exact ⟨es, all, fun text a b => Expr.matches_row es⟩
    · nofun
    · nofun

/-- A level matches where one of its alternatives does. -/
theorem Level.elaborate_close {level : Level} {e}
    (h : level.close.elaborate flags = .ok (e, after)) :
    ∃ es, Ast.elaborateAll flags level.alternatives = .ok (es, after) ∧
      ∀ text a b, e.Matches text a b ↔ Expr.MatchesAny text es a b := by
  obtain ⟨branches, parts⟩ := level
  cases branches with
  | nil =>
    refine ⟨[e], Ast.elaborateAll_singleton.2 ⟨e, h, rfl⟩, fun text a b => ?_⟩
    simp only [Expr.MatchesAny, or_false]
  | cons branch branches =>
    rw [Level.close, Ast.elaborate] at h
    obtain ⟨⟨es, after'⟩, all, e'⟩ := map_eq_ok.1 h
    cases e'
    exact ⟨es, all, fun text a b => Expr.matches_oneOf es⟩

/-- A condition at the end of a level is asked for behind its last alternative. -/
lemma Level.elaborate_push {level : Level} {assertion es es'}
    (h : Ast.elaborateAll flags level.alternatives = .ok (es, after))
    (h' : Ast.elaborateAll flags (level.push (.assertion assertion)).alternatives = .ok (es', after')) :
    ∃ fs last last', es = fs ++ [last] ∧ es' = fs ++ [last'] ∧
      ∀ text a c, last'.Matches text a c ↔
        last.Matches text a c ∧ (Expr.look (after.look assertion)).Matches text c c := by
  obtain ⟨fs, mid, gs, first, second, rfl⟩ := Ast.elaborateAll_append.1 h
  obtain ⟨fs', mid', gs', first', second', rfl⟩ := Ast.elaborateAll_append.1 h'
  have same : (fs', mid') = (fs, mid) := Except.ok.inj (first'.symm.trans first)
  cases same
  obtain ⟨last, one, rfl⟩ := Ast.elaborateAll_singleton.1 second
  obtain ⟨last', one', rfl⟩ := Ast.elaborateAll_singleton.1 second'
  obtain ⟨ps, parts, ways⟩ := Ast.elaborate_ofParts one
  obtain ⟨ps', parts', ways'⟩ := Ast.elaborate_ofParts one'
  -- the parts of the last alternative come first in both, with the same flags behind them
  rw [Level.push, List.reverse_cons, Ast.elaborateAll_append] at parts'
  obtain ⟨qs, end', ls, before, look, rfl⟩ := parts'
  have same : (qs, end') = (ps, after) := Except.ok.inj (before.symm.trans parts)
  cases same
  cases look
  refine ⟨fs, last, last', rfl, rfl, fun text a c => ?_⟩
  rw [ways', ways, Expr.matchesAll_append]
  constructor
  · rintro ⟨b, through, here⟩
    obtain ⟨holds, rfl⟩ := (Expr.matchesAll_singleton _).1 here
    exact ⟨through, holds, rfl⟩
  · rintro ⟨through, here⟩
    exact ⟨c, through, (Expr.matchesAll_singleton _).2 here⟩

/-- An anchored level is elaborated as a beginning of the text and the level. -/
lemma Level.elaborate_anchored_eq (level : Level) :
    level.anchored.close.elaborate {} =
      (level.close.elaborate {}).map fun p => (Expr.row [.look .start, p.1], {}) := by
  have parts : level.anchored.close = .concat [.assertion .startLine, .group (.plain {}) level.close] := rfl
  have unchanged : ({} : Flags).apply {} = {} := rfl
  simp only [parts, Ast.elaborate, Ast.elaborateAll, Except.bind, unchanged]
  cases level.close.elaborate {} <;> rfl

/-- An anchored level begins where the text begins. -/
lemma Level.elaborate_anchored {level : Level} {e}
    (h : level.anchored.close.elaborate {} = .ok (e, after)) :
    ∃ f after', level.close.elaborate {} = .ok (f, after') ∧
      ∀ text a b, e.Matches text a b ↔
        (Expr.look .start).Matches text a a ∧ f.Matches text a b := by
  rw [Level.elaborate_anchored_eq] at h
  obtain ⟨⟨f, after'⟩, body, e'⟩ := map_eq_ok.1 h
  cases e'
  refine ⟨f, after', body, fun text a b => ?_⟩
  rw [Expr.matches_row]
  constructor
  · rintro ⟨_, ⟨holds, rfl⟩, through⟩
    exact ⟨⟨holds, rfl⟩, (Expr.matchesAll_singleton f).1 through⟩
  · rintro ⟨here, through⟩
    exact ⟨a, here, (Expr.matchesAll_singleton f).2 through⟩

end Elaboration

namespace Expr

variable {p : List Char} {e e' : Expr}

/-- What is compiled was read and elaborated. -/
lemma read_of_compile (h : compile p = .ok e) :
    ∃ level after, Level.read p = .ok level ∧ level.close.elaborate {} = .ok (e, after) := by
  have read : Expr.read p = .ok e := by
    unfold compile at h
    cases r : Expr.read p with
    | error err =>
      rw [r] at h
      cases h
    | ok f =>
      rw [r] at h
      simp only at h
      split at h
      · cases h
      · exact h
  obtain ⟨level, hlevel, elaborated⟩ := bind_eq_ok.1 read
  obtain ⟨⟨f, after⟩, hf, e'⟩ := map_eq_ok.1 elaborated
  cases e'
  exact ⟨level, after, hlevel, hf⟩

/-- A pattern matches where one of its alternatives does. In front of an end of the line inside an
anchored group, it begins where the text begins, and the end of the line is asked for behind its last
alternative alone. -/
theorem matches_anchored (alone : compile p = .ok e)
    (inside : compile (anchored (p ++ ['$'])) = .ok e') :
    ∃ es last after, readAlternatives p = .ok (es ++ [last], after) ∧
      (∀ text a b, e.Matches text a b ↔ MatchesAny text (es ++ [last]) a b) ∧
      ∀ text a b, e'.Matches text a b ↔
        (Expr.look .start).Matches text a a ∧
          (MatchesAny text es a b ∨
            last.Matches text a b ∧ (Expr.look (after.look .endLine)).Matches text b b) := by
  obtain ⟨level, after, read, elaborated⟩ := read_of_compile alone
  obtain ⟨level', after', read', elaborated'⟩ := read_of_compile inside
  cases Level.read_anchored read read'
  obtain ⟨es, all, ways⟩ := Level.elaborate_close elaborated
  obtain ⟨f, last', body, starts⟩ := Level.elaborate_anchored elaborated'
  obtain ⟨fs, all', ways'⟩ := Level.elaborate_close body
  obtain ⟨gs, last, looking, rfl, rfl, ends⟩ := Level.elaborate_push all all'
  refine ⟨gs, last, after, bind_eq_ok.2 ⟨level, read, all⟩, ways, fun text a b => ?_⟩
  rw [starts, ways', matchesAny_append, ← ends]
  simp only [MatchesAny, or_false]

end Expr

end Transcript.Pattern
