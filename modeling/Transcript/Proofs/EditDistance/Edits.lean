import Mathlib.Order.Bounds.Defs
import Mathlib.Tactic.Common
import Transcript.Proofs.EditDistance.Recurrence

/-!
# Edits

An edit inserts, removes or replaces one character anywhere in a text. The distance of two texts is the
least number of edits, made one after the other, that turn one into the other (`editDistance_isLeast`): so
many edits can be read off the recurrence (`edits_distance`), and fewer do not do, since a single edit
changes the distance to any third text by one at most (`Edit.distance_le`).
-/

namespace Transcript.EditDistance

/-- One edit of a text, between what stands before and behind it. -/
inductive Edit : List Char → List Char → Prop where
  | insert (before c behind) :
    Edit (before ++ behind) (before ++ c :: behind)
  | remove (before c behind) :
    Edit (before ++ c :: behind) (before ++ behind)
  | replace (before c d behind) :
    Edit (before ++ c :: behind) (before ++ d :: behind)

/-- A number of edits that are made one after the other. -/
inductive Edits : Nat → List Char → List Char → Prop where
  | none {s} :
    Edits 0 s s
  | step {n s t u} :
    Edit s t →
    Edits n t u →
    Edits (n + 1) s u

variable {n : Nat} {c d : Char} {r s t u : List Char}

section Sequences

/-- An edit can be made behind a further character. -/
lemma Edit.cons (c) (e : Edit s t) : Edit (c :: s) (c :: t) := by
  cases e with
  | insert before d behind => exact .insert (c :: before) d behind
  | remove before d behind => exact .remove (c :: before) d behind
  | replace before d d' behind => exact .replace (c :: before) d d' behind

/-- Edits can be made behind a further character. -/
lemma Edits.cons (c) (es : Edits n s t) : Edits n (c :: s) (c :: t) := by
  induction es with
  | none => exact .none
  | step e _ ih => exact .step (e.cons c) ih

/-- Of two ways to edit, the shorter one will do. -/
lemma Edits.shorter {m n} (es : Edits m s t) (es' : Edits n s t) : Edits (min m n) s t := by
  rcases Nat.le_total m n with h | h
  · rw [Nat.min_eq_left h]
    exact es
  · rw [Nat.min_eq_right h]
    exact es'

/-- The recurrence is a way to edit. -/
lemma edits_distance (s t) : Edits (distance s t) s t := by
  induction s generalizing t with
  | nil =>
    induction t with
    | nil =>
      rw [distance]
      exact .none
    | cons d t ih =>
      rw [distance] at ih ⊢
      have first : Edit [] [d] := .insert [] d []
      exact .step first (ih.cons d)
  | cons c s ihs =>
    induction t with
    | nil =>
      have rest := ihs []
      rw [distance_nil] at rest ⊢
      exact .step (.remove [] c s) rest
    | cons d t iht =>
      have removing : Edits (distance s (d :: t) + 1) (c :: s) (d :: t) :=
        .step (.remove [] c s) (ihs (d :: t))
      have inserting : Edits (distance (c :: s) t + 1) (c :: s) (d :: t) :=
        .step (.insert [] d (c :: s)) (iht.cons d)
      have keeping : Edits (distance s t + if c = d then 0 else 1) (c :: s) (d :: t) := by
        split
        · rename_i same
          rw [same]
          exact (ihs t).cons d
        · exact .step (.replace [] c d s) ((ihs t).cons d)
      rw [distance]
      exact (removing.shorter inserting).shorter keeping

end Sequences

section Bounds

/-- A character more to be removed costs an edit at most. -/
lemma distance_cons_left_le (c s t) : distance (c :: s) t ≤ distance s t + 1 := by
  cases t with
  | nil =>
    have lengths : distance (c :: s) [] = distance s [] + 1 := by
      rw [distance_nil, distance_nil, List.length_cons]
    exact Nat.le_of_eq lengths
  | cons d t =>
    rw [distance]
    omega

/-- A character more to be inserted costs an edit at most. -/
lemma distance_cons_right_le (s d t) : distance s (d :: t) ≤ distance s t + 1 := by
  cases s with
  | nil =>
    have lengths : distance [] (d :: t) = distance [] t + 1 := by
      rw [distance, distance, List.length_cons]
    exact Nat.le_of_eq lengths
  | cons c s =>
    rw [distance]
    omega

/-- A character that need not be removed saves an edit at most. -/
lemma distance_le_cons_left (c s t) : distance s t ≤ distance (c :: s) t + 1 := by
  induction t with
  | nil =>
    rw [distance_nil, distance_nil, List.length_cons]
    omega
  | cons d t ih =>
    have longer := distance_cons_right_le s d t
    rw [distance]
    omega

/-- Another first character makes a difference of one edit at most. -/
lemma distance_replace_le (c d s t) : distance (c :: s) t ≤ distance (d :: s) t + 1 := by
  induction t with
  | nil =>
    rw [distance_nil, distance_nil, List.length_cons, List.length_cons]
    omega
  | cons b t ih =>
    rw [distance, distance]
    split <;> split <;> omega

/-- What holds of two texts at any third one also holds behind a further character. -/
lemma distance_le_cons (h : ∀ u, distance s u ≤ distance t u + 1) (c u) :
    distance (c :: s) u ≤ distance (c :: t) u + 1 := by
  induction u with
  | nil =>
    have lengths := h []
    rw [distance_nil, distance_nil] at lengths ⊢
    rw [List.length_cons, List.length_cons]
    omega
  | cons b u ih =>
    have removed := h (b :: u)
    have kept := h u
    rw [distance, distance]
    omega

/-- An edit changes the distance to any text by one at most. -/
lemma Edit.distance_le (e : Edit s t) (u) : distance s u ≤ distance t u + 1 := by
  have behind (before : List Char) {s t} (h : ∀ u, distance s u ≤ distance t u + 1) :
      ∀ u, distance (before ++ s) u ≤ distance (before ++ t) u + 1 := by
    induction before with
    | nil => exact h
    | cons c before ih => exact distance_le_cons ih c
  cases e with
  | insert before c r => exact behind before (distance_le_cons_left c r) u
  | remove before c r => exact behind before (distance_cons_left_le c r) u
  | replace before c d r => exact behind before (distance_replace_le c d r) u

/-- No edits do with fewer than the distance. -/
lemma Edits.distance_le (es : Edits n s t) : distance s t ≤ n := by
  induction es with
  | @none s =>
    have same : distance s s = 0 := (editDistance_eq s s).symm.trans (editDistance_self s)
    exact Nat.le_of_eq same
  | @step n s t u e _ ih =>
    have first := e.distance_le u
    omega

end Bounds

/-- The distance of two texts is the least number of edits that turn one into the other. -/
theorem editDistance_isLeast (s t) : IsLeast {n | Edits n s t} (editDistance s t) := by
  rw [editDistance_eq]
  constructor
  · exact edits_distance s t
  · intro n es
    exact es.distance_le

/-- A character that moves is removed and inserted again. -/
example : editDistance "flaw".toList "lawn".toList = 2 := by decide

end Transcript.EditDistance
