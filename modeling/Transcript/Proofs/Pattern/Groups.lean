import Mathlib.Tactic.Common
import Transcript.Proofs.Pattern.Search

/-!
# The whole match

A way through an expression goes forward, does not leave the text and keeps the slots of the whole match
(`Expr.Matches.leads`). So the first group of what is found is the text between the ends of a way
(`Expr.head?_of_find?`), and every group is a part of the text (`isInfix_of_groupsAtStart?`). Which ways
there are does not depend on what was saved before (`Expr.matches_blind`).
-/

namespace Transcript.Pattern

/-- From one spot to another nothing is lost: neither the place in the text nor the slots of the whole
match. -/
structure Leads (text : Array Char) (a b : Spot) : Prop where
  forward : a.pos ≤ b.pos
  inside : a.pos ≤ text.size → b.pos ≤ text.size
  kept : ∀ slot < 2, b.saved.lookup slot = a.saved.lookup slot

section Leading

variable {text : Array Char} {a b c : Spot}

/-- Nothing is lost by staying. -/
lemma Leads.refl (text a) : Leads text a a where
  forward := Nat.le_refl _
  inside := id
  kept _ _ := rfl

/-- Nothing is lost by going on. -/
lemma Leads.trans (h : Leads text a b) (h' : Leads text b c) : Leads text a c where
  forward := Nat.le_trans h.forward h'.forward
  inside within := h'.inside (h.inside within)
  kept slot hslot := (h'.kept slot hslot).trans (h.kept slot hslot)

/-- Where a character stands, the spot behind it is in the text. -/
lemma Leads.character (here : text[a.pos]?.isSome = true) : Leads text a a.forward where
  forward := Nat.le_succ _
  inside _ := by
    by_contra outside
    have behind : text.size ≤ a.pos := Nat.le_of_lt_succ (Nat.lt_of_not_le outside)
    have none : text[a.pos]? = none := Array.getElem?_eq_none behind
    rw [none] at here
    cases here
  kept _ _ := rfl

/-- The slots of a group are not those of the whole match. -/
lemma Leads.save (slot) : Leads text a (a.save (slot + 2)) where
  forward := Nat.le_refl _
  inside := id
  kept k hk := by
    -- groups save from slot 2 on
    have other : (k == slot + 2) = false := beq_false_of_ne (by omega)
    rw [Spot.save, List.lookup_cons, other]

/-- Spelling goes forward. -/
lemma Leads.of_spells {cs} (h : Spells text cs a b) : Leads text a b := by
  induction cs generalizing a with
  | nil =>
    cases h
    exact .refl text _
  | cons c cs ih =>
    obtain ⟨here, rest⟩ := h
    have first : Leads text a a.forward := .character (by rw [here]; rfl)
    exact first.trans (ih rest)

/-- What goes forward once goes forward any number of times. -/
lemma Leads.of_iterated {R : Spot → Spot → Prop} (once : ∀ {a b}, R a b → Leads text a b) {n}
    (h : Iterated R n a b) : Leads text a b := by
  induction n generalizing a with
  | zero =>
    cases h
    exact .refl text _
  | succ n ih =>
    obtain ⟨d, first, rest⟩ := h
    exact (once first).trans (ih rest)

end Leading

namespace Expr

mutual

/-- On a way through an expression nothing is lost. -/
theorem Matches.leads {text} : ∀ {e : Expr} {a b}, e.Matches text a b → Leads text a b
  | .empty, a, _, rfl => .refl text a
  | .literal _, _, _, h => .of_spells h
  | .set _, _, _, ⟨here, rfl⟩ => .character (Option.isSome_of_any here)
  | .look _, a, _, ⟨_, rfl⟩ => .refl text a
  | .repeat _ _ _ _, _, _, ⟨_, _, ways⟩ => .of_iterated (fun way => Matches.leads way) ways
  | .group index _, _, _, ⟨_, way, rfl⟩ =>
    (Leads.save (2 * index)).trans ((Matches.leads way).trans (Leads.save (2 * index + 1)))
  | .concat _, _, _, h => MatchesAll.leads h
  | .choice _, _, _, h => MatchesAny.leads h

/-- On a way through a row nothing is lost. -/
theorem MatchesAll.leads {text} : ∀ {es : List Expr} {a b}, MatchesAll text es a b → Leads text a b
  | [], a, _, rfl => .refl text a
  | _ :: _, _, _, ⟨_, first, rest⟩ => (Matches.leads first).trans (MatchesAll.leads rest)

/-- On a way through a choice nothing is lost. -/
theorem MatchesAny.leads {text} : ∀ {es : List Expr} {a b}, MatchesAny text es a b → Leads text a b
  | [], _, _, h => h.elim
  | _ :: _, _, _, .inl first => Matches.leads first
  | _ :: _, _, _, .inr others => MatchesAny.leads others

end

end Expr

/-- Ways that do not depend on what was saved before. -/
structure Blind (R : Spot → Spot → Prop) : Prop where
  resave {a b} : R a b → ∀ saved, ∃ saved', R ⟨a.pos, saved⟩ ⟨b.pos, saved'⟩

section Blindness

variable {R S : Spot → Spot → Prop}

/-- Where one stays, nothing is saved. -/
lemma Blind.eq : Blind Eq where
  resave := by
    rintro a _ rfl saved
    exact ⟨saved, rfl⟩

/-- Ways that meet still meet. -/
lemma Blind.comp (h : Blind R) (h' : Blind S) : Blind (Relation.Comp R S) where
  resave := by
    rintro a c ⟨b, first, second⟩ saved
    obtain ⟨middle, first⟩ := h.resave first saved
    obtain ⟨last, second⟩ := h'.resave second middle
    exact ⟨last, _, first, second⟩

/-- Characters are read whatever was saved. -/
lemma Blind.spells (text cs) : Blind (Spells text cs) := by
  induction cs with
  | nil => exact .eq
  | cons c cs ih =>
    refine ⟨?_⟩
    rintro a b ⟨here, rest⟩ saved
    obtain ⟨saved', rest⟩ := ih.resave rest saved
    exact ⟨saved', here, rest⟩

/-- Ways can be repeated whatever was saved. -/
lemma Blind.iterated (h : Blind R) (n) : Blind (Iterated R n) := by
  induction n with
  | zero => exact .eq
  | succ n ih => exact h.comp ih

end Blindness

namespace Expr

mutual

/-- The ways of an expression do not depend on what was saved before. -/
theorem matches_blind (text) : ∀ e : Expr, Blind (e.Matches text)
  | .empty => .eq
  | .literal cs => .spells text cs
  | .set _ => by
    refine ⟨?_⟩
    rintro a _ ⟨here, rfl⟩ saved
    exact ⟨saved, here, rfl⟩
  | .look _ => by
    refine ⟨?_⟩
    rintro a _ ⟨here, rfl⟩ saved
    exact ⟨saved, here, rfl⟩
  | .repeat _ _ _ body => by
    refine ⟨?_⟩
    rintro a b ⟨n, bounds, ways⟩ saved
    obtain ⟨saved', ways⟩ := ((matches_blind text body).iterated n).resave ways saved
    exact ⟨saved', n, bounds, ways⟩
  | .group index body => by
    refine ⟨?_⟩
    rintro a _ ⟨c, way, rfl⟩ saved
    obtain ⟨saved', way⟩ := (matches_blind text body).resave way ((2 * index + 2, a.pos) :: saved)
    exact ⟨_, ⟨c.pos, saved'⟩, way, rfl⟩
  | .concat parts => matchesAll_blind text parts
  | .choice branches => matchesAny_blind text branches

/-- The ways of a row do not depend on what was saved before. -/
theorem matchesAll_blind (text) : ∀ es : List Expr, Blind (MatchesAll text es)
  | [] => .eq
  | e :: es => (matches_blind text e).comp (matchesAll_blind text es)

/-- The ways of a choice do not depend on what was saved before. -/
theorem matchesAny_blind (text) : ∀ es : List Expr, Blind (MatchesAny text es)
  | [] => ⟨fun h => h.elim⟩
  | e :: es => by
    refine ⟨?_⟩
    rintro a b (way | way) saved
    · obtain ⟨saved', way⟩ := (matches_blind text e).resave way saved
      exact ⟨saved', .inl way⟩
    · obtain ⟨saved', way⟩ := (matchesAny_blind text es).resave way saved
      exact ⟨saved', .inr way⟩

end

mutual

/-- The whole match is a group. -/
lemma groupCount_pos : ∀ e : Expr, 0 < e.groupCount
  | .repeat _ _ _ body => groupCount_pos body
  | .group index body => Nat.lt_of_lt_of_le (Nat.succ_pos _) (Nat.le_max_left (index + 2) body.groupCount)
  | .concat parts => groupCountAll_pos parts
  | .choice branches => groupCountAll_pos branches
  | .empty | .literal _ | .set _ | .look _ => Nat.one_pos

/-- The whole match is a group of several expressions too. -/
lemma groupCountAll_pos : ∀ es : List Expr, 0 < groupCountAll es
  | [] => Nat.one_pos
  | e :: es => Nat.lt_of_lt_of_le (groupCount_pos e) (Nat.le_max_left e.groupCount (groupCountAll es))

end

variable {e : Expr} {s : List Char}

/-- The first group of a way of an expression is the text between its ends. -/
lemma head?_groups {first b} (way : e.Matches s.toArray ⟨first, [(0, first)]⟩ b) :
    ((List.range e.groupCount).map (groupText s.toArray ((1, b.pos) :: b.saved))).head? =
      some ((s.take b.pos).drop first) := by
  have leads : Leads s.toArray ⟨first, [(0, first)]⟩ b := way.leads
  have start : ((1, b.pos) :: b.saved).lookup 0 = some first := by
    rw [List.lookup_cons]
    exact leads.kept 0 (by omega)
  have stop : ((1, b.pos) :: b.saved).lookup 1 = some b.pos := rfl
  obtain ⟨n, count⟩ := Nat.exists_eq_succ_of_ne_zero (Nat.ne_of_gt (groupCount_pos e))
  rw [count, List.range_succ_eq_map, List.map_cons, List.head?_cons, groupText, Nat.mul_zero,
    Nat.zero_add, start, stop]
  simp only [List.extract_toArray, List.extract_eq_take_drop, Option.some.injEq]
  exact (List.drop_take ..).symm

/-- The first group that is found is the text between the ends of one of the ways of the expression. -/
theorem head?_of_find? {groups} (h : e.find? s = some groups) :
    ∃ first ≤ s.length, ∃ b, e.Matches s.toArray ⟨first, [(0, first)]⟩ b ∧
      groups.head? = some ((s.take b.pos).drop first) := by
  obtain ⟨first, hfirst, b, way, rfl⟩ := find?_some h
  exact ⟨first, hfirst, b, way, head?_groups way⟩

end Expr

/-- A group is a part of its text. -/
lemma groupText_isInfix (s saved index) : groupText (List.toArray s) saved index <:+: s := by
  unfold groupText
  split
  · rw [List.extract_toArray, List.extract_eq_take_drop]
    exact (List.take_prefix _ _).isInfix.trans (List.drop_suffix _ _).isInfix
  · exact List.nil_infix

/-- The groups of a match at the beginning of a text are parts of the text. -/
theorem isInfix_of_groupsAtStart? [Dialect] {p s groups} (h : groupsAtStart? p s = some groups) :
    ∀ g ∈ groups, g <:+: s := by
  unfold groupsAtStart? at h
  split at h
  · rename_i e _
    obtain ⟨saved, -, rfl⟩ := Option.map_eq_some_iff.1 h
    intro g hg
    obtain ⟨index, -, rfl⟩ := List.mem_map.1 hg
    exact groupText_isInfix s saved index
  · cases h

end Transcript.Pattern
