import Mathlib.Logic.Relation
import Mathlib.Tactic.Common
import Transcript.Pattern.Search

/-!
# What expressions match

The meaning of an expression, apart from any program: which ways it admits from one place of a text to
another, and which positions it saves on such a way (`Expr.Matches`). Which of several ways is preferred
is left open.
-/

namespace Transcript.Pattern

open Relation (Comp)

/-- A position in a text, with the positions saved on the way to it, last first. -/
structure Spot where
  pos : Nat
  saved : List (Nat × Nat)

/-- The spot behind the next character. -/
def Spot.forward (a : Spot) : Spot :=
  ⟨a.pos + 1, a.saved⟩

/-- The spot with its position saved in a slot. -/
def Spot.save (a : Spot) (slot : Nat) : Spot :=
  ⟨a.pos, (slot, a.pos) :: a.saved⟩

/-- Characters that stand one after the other. -/
def Spells (text : Array Char) : List Char → Spot → Spot → Prop
  | [], a, b => a = b
  | c :: cs, a, b => text[a.pos]? = some c ∧ Spells text cs a.forward b

/-- A number of ways, one after the other. -/
def Iterated (R : Spot → Spot → Prop) : Nat → Spot → Spot → Prop
  | 0 => Eq
  | n + 1 => Comp R (Iterated R n)

/-- A number of repetitions that lies between two bounds; the lesser one prevails. -/
def InBounds (min : Nat) (max : Option Nat) (n : Nat) : Prop :=
  min ≤ n ∧ ∀ m ∈ max, n - min ≤ m - min

mutual

/-- The ways of an expression through a text. -/
def Expr.Matches (text : Array Char) : Expr → Spot → Spot → Prop
  | .empty => Eq
  | .literal cs => Spells text cs
  | .set s => fun a b => text[a.pos]?.any s.contains = true ∧ a.forward = b
  | .look l => fun a b => l.holds (charBefore? text a.pos) text[a.pos]? = true ∧ a = b
  | .repeat min max _ body => fun a b => ∃ n, InBounds min max n ∧ Iterated (body.Matches text) n a b
  | .group index body => fun a b =>
    ∃ c, body.Matches text (a.save (2 * index + 2)) c ∧ c.save (2 * index + 3) = b
  | .concat parts => Expr.MatchesAll text parts
  | .choice branches => Expr.MatchesAny text branches

/-- The ways of several expressions, one after the other. -/
def Expr.MatchesAll (text : Array Char) : List Expr → Spot → Spot → Prop
  | [] => Eq
  | e :: es => Comp (e.Matches text) (Expr.MatchesAll text es)

/-- The ways of either of several expressions. -/
def Expr.MatchesAny (text : Array Char) : List Expr → Spot → Spot → Prop
  | [] => fun _ _ => False
  | e :: es => fun a b => e.Matches text a b ∨ Expr.MatchesAny text es a b

end

section Ways

variable {text : Array Char} {R S : Spot → Spot → Prop} {a b c : Spot}

/-- Ways can be put together. -/
lemma Iterated.add {m n} (h : Iterated R m a b) (h' : Iterated R n b c) : Iterated R (m + n) a c := by
  induction m generalizing a with
  | zero =>
    rw [Nat.zero_add]
    cases h
    exact h'
  | succ m ih =>
    obtain ⟨d, first, rest⟩ := h
    rw [Nat.succ_add]
    exact ⟨d, first, ih rest⟩

/-- Ways can be taken apart. -/
lemma Iterated.split {m n} (h : Iterated R (m + n) a c) : ∃ b, Iterated R m a b ∧ Iterated R n b c := by
  induction m generalizing a with
  | zero =>
    rw [Nat.zero_add] at h
    exact ⟨a, rfl, h⟩
  | succ m ih =>
    rw [Nat.succ_add] at h
    obtain ⟨d, first, rest⟩ := h
    obtain ⟨b, left, right⟩ := ih rest
    exact ⟨b, ⟨d, first, left⟩, right⟩

/-- Repetitions within bounds are as many as there have to be, and then some more. -/
lemma Iterated.inBounds_iff {min max} :
    (∃ n, InBounds min max n ∧ Iterated R n a c) ↔
      ∃ b, Iterated R min a b ∧ ∃ k, (∀ m ∈ max, k ≤ m - min) ∧ Iterated R k b c := by
  constructor
  · rintro ⟨n, ⟨hmin, hmax⟩, ways⟩
    rw [← Nat.add_sub_of_le hmin] at ways
    obtain ⟨b, first, rest⟩ := ways.split
    exact ⟨b, first, n - min, hmax, rest⟩
  · rintro ⟨b, first, k, hk, rest⟩
    refine ⟨min + k, ⟨Nat.le_add_right min k, ?_⟩, first.add rest⟩
    rwa [Nat.add_sub_cancel_left]

/-- A row is passed through by one part after the other. -/
lemma Expr.matchesAll_append (es fs : List Expr) :
    Expr.MatchesAll text (es ++ fs) a c ↔
      Comp (Expr.MatchesAll text es) (Expr.MatchesAll text fs) a c := by
  induction es generalizing a with
  | nil =>
    constructor
    · intro h
      exact ⟨a, rfl, h⟩
    · rintro ⟨b, rfl, h⟩
      exact h
  | cons e es ih =>
    constructor
    · rintro ⟨d, first, rest⟩
      obtain ⟨b, left, right⟩ := ih.1 rest
      exact ⟨b, ⟨d, first, left⟩, right⟩
    · rintro ⟨b, ⟨d, first, left⟩, right⟩
      exact ⟨d, first, ih.2 ⟨b, left, right⟩⟩

/-- A row of one part is that part. -/
lemma Expr.matchesAll_singleton (e : Expr) :
    Expr.MatchesAll text [e] a b ↔ e.Matches text a b := by
  constructor
  · rintro ⟨c, h, rfl⟩
    exact h
  · intro h
    exact ⟨b, h, rfl⟩

/-- Some alternative is passed through. -/
lemma Expr.matchesAny_iff {es : List Expr} :
    Expr.MatchesAny text es a b ↔ ∃ e ∈ es, e.Matches text a b := by
  induction es with
  | nil =>
    constructor
    · intro h
      exact h.elim
    · rintro ⟨e, he, -⟩
      exact absurd he List.not_mem_nil
  | cons e es ih =>
    simp only [Expr.MatchesAny, ih, List.mem_cons, exists_eq_or_imp]

/-- More alternatives are passed through by the former ones or by the latter. -/
lemma Expr.matchesAny_append (es fs : List Expr) :
    Expr.MatchesAny text (es ++ fs) a b ↔ Expr.MatchesAny text es a b ∨ Expr.MatchesAny text fs a b := by
  simp only [Expr.matchesAny_iff, List.mem_append, or_and_right, exists_or]

end Ways

/-- The text begins at its first place only. -/
lemma holds_start_iff {text : Array Char} {pos} (inside : pos ≤ text.size) :
    Look.start.holds (charBefore? text pos) text[pos]? = true ↔ pos = 0 := by
  unfold charBefore?
  cases pos with
  | zero => exact ⟨fun _ => rfl, fun _ => rfl⟩
  | succ pos =>
    rw [if_neg (Nat.succ_ne_zero pos), Nat.add_sub_cancel, Array.getElem?_eq_getElem inside]
    exact ⟨nofun, nofun⟩

end Transcript.Pattern
