import Mathlib.Tactic.Common
import Transcript.Proofs.Pattern.Search

/-!
# What a search prefers

Of the ways to acceptance a search finds the one that the forks prefer (`Program.search_eq_of_prefers`).
An expression has ways that are preferred whatever follows it, since nothing that would be tried before
them can be passed through at all (`Expr.MatchesFirst`); where there is such a way from the beginning of
a text, it is the one that is found (`Expr.find?_eq_of_matchesFirst`).
-/

namespace Transcript.Pattern

open Relation (Comp)

namespace Program

/-- A thread that does not come to acceptance. -/
def Dead (p : Program) (text : Array Char) (t : Thread) : Prop :=
  ∀ n saved, ¬ p.AcceptsIn text n t saved

/-- In so many steps a thread comes to acceptance by the way that the forks prefer: what would be tried
before it is dead. -/
inductive Prefers (p : Program) (text : Array Char) : Nat → Thread → List (Nat × Nat) → Prop where
  | accept {t} :
    p.step text t = .accept →
    Prefers p text 0 t t.saved
  | goOn {t before u after n saved} :
    p.step text t = .goOn (before ++ u :: after) → (∀ d ∈ before, p.Dead text d) →
    Prefers p text n u saved →
    Prefers p text (n + 1) t saved

variable {p : Program} {text : Array Char} {t u : Thread} {ds ts : List Thread} {v : Visited}
  {saved saved' : List (Nat × Nat)} {n m : Nat}

/-- A preferred way is a way. -/
lemma Prefers.acceptsIn (h : p.Prefers text n t saved) : p.AcceptsIn text n t saved := by
  induction h with
  | accept step => exact ⟨step, rfl⟩
  | goOn step _ _ ih => exact ⟨_, step, _, List.mem_append_right _ List.mem_cons_self, ih⟩

/-- What a dead thread leads to is dead. -/
lemma Dead.of_step (h : p.Dead text t) {more} (step : p.step text t = .goOn more) :
    ∀ u ∈ more, p.Dead text u :=
  fun u hu n saved run => h (n + 1) saved ⟨more, step, u, hu, run⟩

/-- At the place of a thread that is preferred, no thread is dead. -/
lemma Prefers.not_dead (h : p.Prefers text n t saved) (same : t.place = u.place) :
    ¬ p.Dead text u := by
  intro dead
  obtain ⟨saved', run⟩ := h.acceptsIn.congr same
  exact dead n saved' run

/-- Between the same places there is one thread in front of which all are dead. -/
lemma place_eq_of_dead {before before' after after' : List Thread}
    (same : (before ++ t :: after).map Thread.place = (before' ++ u :: after').map Thread.place)
    (dead : ∀ d ∈ before, p.Dead text d) (dead' : ∀ d ∈ before', p.Dead text d)
    (ht : p.Prefers text n t saved) (hu : p.Prefers text m u saved') : t.place = u.place := by
  induction before generalizing before' with
  | nil =>
    cases before' with
    | nil => exact (List.cons.inj same).1
    | cons d before' =>
      exact absurd (dead' d List.mem_cons_self) (ht.not_dead (List.cons.inj same).1)
  | cons d before ih =>
    cases before' with
    | nil => exact absurd (dead d List.mem_cons_self) (hu.not_dead (List.cons.inj same).1.symm)
    | cons d' before' =>
      exact ih (List.cons.inj same).2 (fun x hx => dead x (List.mem_cons_of_mem d hx))
        fun x hx => dead' x (List.mem_cons_of_mem d' hx)

/-- From one place there is one number of steps to acceptance by preference. -/
lemma Prefers.unique (h : p.Prefers text n t saved) (h' : p.Prefers text m u saved')
    (same : t.place = u.place) : n = m := by
  induction h generalizing m u saved' with
  | @accept t step =>
    have places : (p.step text t).places = (p.step text u).places := step_places same
    cases h' with
    | accept => rfl
    | goOn step' =>
      rw [step, step'] at places
      cases places
  | @goOn t before x after n saved step dead rest ih =>
    have places : (p.step text t).places = (p.step text u).places := step_places same
    cases h' with
    | accept step' =>
      rw [step, step'] at places
      cases places
    | goOn step' dead' rest' =>
      rw [step, step'] at places
      exact congrArg (· + 1) (ih rest' (place_eq_of_dead (Option.some.inj places) dead dead' rest rest'))

variable (ts) in
/-- A search leaves dead threads behind, and visits dead places only as it does so. -/
lemma run_dead (fuel) (size : v.size = p.code.size) (dead : ∀ d ∈ ds, p.Dead text d)
    (within : ∀ d ∈ ds, d.pos ≤ text.size)
    (enough : 2 * (v.free (text.size + 1)).card + (ds ++ ts).length < fuel) :
    ∃ fuel' v', p.run text fuel v (ds ++ ts) = p.run text fuel' v' ts ∧ v'.size = p.code.size ∧
      (∀ t, v'.has t = true → v.has t = true ∨ p.Dead text t) ∧
      2 * (v'.free (text.size + 1)).card + ts.length < fuel' := by
  -- as in `run_none`, a first visit pays for the two threads it may lead to
  induction fuel generalizing v ds with
  | zero => exact absurd enough (Nat.not_lt_zero _)
  | succ fuel ih =>
    cases ds with
    | nil => exact ⟨fuel + 1, v, rfl, size, fun t ht => .inl ht, enough⟩
    | cons d ds =>
      obtain ⟨first, others⟩ := List.forall_mem_cons.1 within
      obtain ⟨dead, deads⟩ := List.forall_mem_cons.1 dead
      rw [List.cons_append, List.length_cons] at enough
      rw [List.cons_append, run]
      split
      · exact ih size deads others (by omega)
      · rename_i new
        rw [Bool.not_eq_true] at new
        cases step : p.step text d with
        | accept => exact absurd ⟨step, rfl⟩ (dead 0 d.saved)
        | goOn more =>
          have shorter := visit_shorter size step new first
          simp only
          rw [← List.append_assoc]
          have within' : ∀ t ∈ more ++ ds, t.pos ≤ text.size := by
            intro t ht
            rcases List.mem_append.1 ht with ht | ht
            · exact (step_goOn step).2.1 first t ht
            · exact others t ht
          have dead' : ∀ t ∈ more ++ ds, p.Dead text t := by
            intro t ht
            rcases List.mem_append.1 ht with ht | ht
            · exact dead.of_step step t ht
            · exact deads t ht
          obtain ⟨fuel', v', rest, size', visited, enough'⟩ :=
            ih (v := v.add d) (Visited.size_add.trans size) dead' within' (by
              rw [List.append_assoc, List.length_append]
              omega)
          refine ⟨fuel', v', rest, size', fun t ht => ?_, enough'⟩
          rcases visited t ht with old | dead'
          · rcases Visited.has_add.1 old with old | ⟨same, -⟩
            · exact .inl old
            · refine .inr fun n saved run => ?_
              obtain ⟨saved', run⟩ := run.congr same.symm
              exact dead n saved' run
          · exact .inr dead'

/-- A search finds what its first thread prefers. -/
theorem run_eq_of_prefers (h : p.Prefers text n t saved) {fuel} (size : v.size = p.code.size)
    (visited : ∀ u, v.has u = true → p.Dead text u ∨
      ∃ m w saved, n < m ∧ w.place = u.place ∧ p.Prefers text m w saved)
    (within : t.pos ≤ text.size)
    (enough : 2 * (v.free (text.size + 1)).card + (t :: ts).length < fuel) :
    p.run text fuel v (t :: ts) = some saved := by
  -- what was visited is dead, or lies further up on the preferred way
  induction h generalizing fuel v ts with
  | @accept t step =>
    cases fuel with
    | zero => exact absurd enough (Nat.not_lt_zero _)
    | succ fuel =>
      have new : v.has t = false := by
        by_contra old
        rw [Bool.not_eq_false] at old
        rcases visited t old with dead | ⟨m, w, saved, lt, same, h⟩
        · exact dead 0 t.saved ⟨step, rfl⟩
        · exact Nat.ne_of_gt lt (h.unique (.accept step) same)
      rw [run, new, step]
      rfl
  | @goOn t before u after n saved step dead rest ih =>
    have h : p.Prefers text (n + 1) t saved := .goOn step dead rest
    cases fuel with
    | zero => exact absurd enough (Nat.not_lt_zero _)
    | succ fuel =>
      have new : v.has t = false := by
        by_contra old
        rw [Bool.not_eq_false] at old
        rcases visited t old with dead | ⟨m, w, saved, lt, same, h'⟩
        · exact h.not_dead rfl dead
        · exact Nat.ne_of_gt lt (h'.unique h same)
      have shorter := visit_shorter size step new within
      have further := (step_goOn step).2.1 within
      rw [List.length_append, List.length_cons] at shorter
      rw [List.length_cons] at enough
      rw [run, new, step]
      simp only [Bool.false_eq_true, if_false, List.append_assoc, List.cons_append]
      obtain ⟨fuel', v', skip, size', visited', enough'⟩ :=
        run_dead (u :: (after ++ ts)) fuel (v := v.add t) (Visited.size_add.trans size) dead
          (fun d hd => further d (List.mem_append_left _ hd)) (by
            simp only [List.length_append, List.length_cons]
            omega)
      rw [skip]
      refine ih size' (fun w hw => ?_) (further u (List.mem_append_right _ List.mem_cons_self)) enough'
      rcases visited' w hw with old | dead'
      · rcases Visited.has_add.1 old with old | ⟨same, -⟩
        · rcases visited w old with dead' | ⟨m, x, saved, lt, same, h'⟩
          · exact .inl dead'
          · exact .inr ⟨m, x, saved, Nat.lt_of_succ_lt lt, same, h'⟩
        · exact .inr ⟨n + 1, t, saved, Nat.lt_succ_self n, same, h⟩
      · exact .inl dead'

/-- A search that prefers a way from the beginning of the text finds that way. -/
theorem search_eq_of_prefers (h : p.Prefers text n ⟨p.entry, 0, []⟩ saved) :
    p.search text = some saved := by
  have places := Visited.card_free_le (Array.replicate p.code.size 0) (text.size + 1)
  rw [Array.size_replicate] at places
  rw [search]
  simp only [List.range_succ_eq_map, List.map_cons]
  refine run_eq_of_prefers h Array.size_replicate (fun u hu => ?_) (Nat.zero_le _) ?_
  · rw [Visited.has_replicate] at hu
    cases hu
  · rw [List.length_cons, List.length_map, List.length_map, List.length_range, Nat.mul_assoc]
    omega

/-! ## Preferred ways between instructions -/

/-- A way of `R` from `entry` to `exit` is preferred when the way from there on is. -/
structure Guides (p : Program) (text : Array Char) (R : Spot → Spot → Prop) (entry exit : Nat) :
    Prop where
  follow {n a b saved} : R a b → p.Prefers text n (b.at exit) saved →
    ∃ m, p.Prefers text m (a.at entry) saved

/-- A builder adds instructions, and these prefer the ways of `R` to what the builder has put them in
front of. -/
structure Directs (text : Array Char) (f : Program → Program) (R : Spot → Spot → Prop) : Prop where
  adds q : (f q).Extends q
  guides {p q : Program} : p.Has (f q) q.code.size → p.Guides text R (f q).entry q.entry

section Guiding

variable {R R' S : Spot → Spot → Prop} {pc entry middle exit first second next slot : Nat} {a : Spot}
  {c : Char} {s : Unicode.CharSet} {l : Look} {f g : Program → Program}

/-- A thread that goes on with one thread prefers that one. -/
lemma Prefers.single (step : p.step text t = .goOn [u]) (h : p.Prefers text n u saved) :
    p.Prefers text (n + 1) t saved :=
  have first : p.step text t = .goOn ([] ++ u :: []) := step
  .goOn first (List.forall_mem_nil _) h

/-- A fork goes the first way where that is preferred. -/
lemma Prefers.forkFirst (code : p.code[pc]? = some (.fork first second))
    (h : p.Prefers text n (a.at first) saved) : p.Prefers text (n + 1) (a.at pc) saved := by
  have step : p.step text (a.at pc) = .goOn ([] ++ a.at first :: [a.at second]) := by
    simp only [Program.step, Spot.at, code, List.nil_append]
  exact .goOn step (List.forall_mem_nil _) h

/-- A fork goes the second way where the first one is dead. -/
lemma Prefers.forkSecond (code : p.code[pc]? = some (.fork first second))
    (dead : p.Dead text (a.at first)) (h : p.Prefers text n (a.at second) saved) :
    p.Prefers text (n + 1) (a.at pc) saved := by
  have step : p.step text (a.at pc) = .goOn ([a.at first] ++ a.at second :: []) := by
    simp only [Program.step, Spot.at, code, List.singleton_append]
  exact .goOn step (List.forall_mem_singleton.2 dead) h

/-- Where there is no way on, threads are dead. -/
lemma Connects.dead (h : p.Connects text R entry exit) (none : ∀ b, ¬ R a b) :
    p.Dead text (a.at entry) := by
  intro n saved run
  obtain ⟨m, b, -, way, -⟩ := h.sound run
  exact none b way

/-- One stays where one is. -/
lemma Guides.refl (p : Program) (text entry) : p.Guides text Eq entry entry where
  follow := by
    rintro n a _ saved rfl h
    exact ⟨n, h⟩

/-- Preferred ways that meet can be put together. -/
lemma Guides.comp (h : p.Guides text R entry middle) (h' : p.Guides text S middle exit) :
    p.Guides text (Comp R S) entry exit where
  follow := by
    rintro n a c saved ⟨b, first, second⟩ rest
    obtain ⟨m, rest⟩ := h'.follow second rest
    exact h.follow first rest

/-- A fork that prefers to stay does so as often as it can: up to where the body has no way. -/
lemma Guides.star {body} (code : p.code[pc]? = some (.fork body exit))
    (h : p.Guides text R' body pc) (h' : p.Connects text R body pc) :
    p.Guides text (fun a b => (∃ n, Iterated R' n a b) ∧ ∀ c, ¬ R b c) pc exit where
  follow := by
    rintro n a b saved ⟨⟨times, ways⟩, stop⟩ rest
    induction times generalizing a with
    | zero =>
      cases ways
      exact ⟨n + 1, .forkSecond code (h'.dead stop) rest⟩
    | succ times ih =>
      obtain ⟨d, first, ways⟩ := ways
      obtain ⟨m, rest⟩ := ih ways
      obtain ⟨k, rest⟩ := h.follow first rest
      exact ⟨k + 1, .forkFirst code rest⟩

namespace Directs

/-- Builders can be used one after the other. -/
lemma comp (hf : Directs text f R) (hg : Directs text g S) :
    Directs text (fun q => f (g q)) (Comp R S) where
  adds q := (hf.adds (g q)).trans (hg.adds q)
  guides {p q} has := by
    have inner := has.of_extends (hf.adds (g q))
    exact (hf.guides (has.later (hg.adds q).grows)).comp (hg.guides inner)

/-- Nothing is built. -/
lemma id (text) : Directs text (fun q => q) Eq where
  adds q := .enter q q.entry
  guides {p q} _ := Guides.refl p text q.entry

/-- Fewer ways are preferred too. -/
lemma of_imp (h : Directs text f R) (sub : ∀ a b, S a b → R a b) : Directs text f S where
  adds := h.adds
  guides has := ⟨fun way rest => (h.guides has).follow (sub _ _ way) rest⟩

/-- A single instruction in front, which goes on with one thread. -/
lemma instruction {i : Nat → Instr}
    (h : ∀ {p : Program} {pc next a b}, p.code[pc]? = some (i next) → R a b →
      p.step text (a.at pc) = .goOn [b.at next]) : Directs text (·.before i) R where
  adds q := before_extends q i
  guides has := ⟨fun way rest => ⟨_, .single (h (has.before (Nat.le_refl _)) way) rest⟩⟩

/-- A character in front. -/
lemma char (text c) :
    Directs text (·.before (.char c)) (fun a b => text[a.pos]? = some c ∧ a.forward = b) := by
  apply instruction
  rintro p pc next a _ code ⟨here, rfl⟩
  simp only [Program.step, Spot.at, code, here, beq_self_eq_true, if_true, Spot.forward]

/-- A set in front. -/
lemma set (text s) :
    Directs text (·.before (.set s)) (fun a b => text[a.pos]?.any s.contains = true ∧ a.forward = b) := by
  apply instruction
  rintro p pc next a _ code ⟨here, rfl⟩
  simp only [Program.step, Spot.at, code, here, if_true, Spot.forward]

/-- A condition in front. -/
lemma look (text l) :
    Directs text (·.before (.look l))
      (fun a b => l.holds (charBefore? text a.pos) text[a.pos]? = true ∧ a = b) := by
  apply instruction
  rintro p pc next a _ code ⟨here, rfl⟩
  simp only [Program.step, Spot.at, code, here, if_true]

/-- A slot in front. -/
lemma save (text slot) : Directs text (·.before (.save slot)) (fun a b => a.save slot = b) := by
  apply instruction
  rintro p pc next a _ code rfl
  simp only [Program.step, Spot.at, code, Spot.save]

/-- A builder used a number of times. -/
lemma times (h : Directs text f R) (n : Nat) : Directs text (Program.times f n) (Iterated R n) := by
  induction n with
  | zero => exact .id text
  | succ n ih =>
    refine (ih.comp h).of_imp fun a c ways => ?_
    obtain ⟨b, ways, d, last, e⟩ := Iterated.split (m := n) (n := 1) ways
    cases e
    exact ⟨b, ways, last⟩

/-- In a loop that prefers to stay, the fork is left where the body has no way. -/
lemma loop_guides (h : Directs text f R') (h' : Builds text f R) {p q : Program}
    (has : p.Has (q.loop true f) q.code.size) :
    p.Guides text R' (q.loop true f).entry q.code.size ∧
      p.Guides text (fun a b => (∃ n, Iterated R' n a b) ∧ ∀ c, ¬ R b c) q.code.size q.entry := by
  obtain ⟨code, inner⟩ := Builds.loop_has h.adds has
  have body : p.Guides text R' (q.loop true f).entry q.code.size := h.guides inner
  have ways : p.Connects text R (q.loop true f).entry q.code.size := h'.connects inner
  exact ⟨body, .star code body ways⟩

/-- A loop that is entered at its body: once or more, as often as it can. -/
lemma loop (h : Directs text f R') (h' : Builds text f R) :
    Directs text (·.loop true f)
      (Comp R' fun a b => (∃ n, Iterated R' n a b) ∧ ∀ c, ¬ R b c) where
  adds := h'.loop_adds true
  guides has := by
    obtain ⟨body, around⟩ := h.loop_guides h' has
    exact body.comp around

/-- Any number of times, as often as it can. -/
lemma star (h : Directs text f R') (h' : Builds text f R) (reads) :
    Directs text (·.star true reads f) (fun a b => (∃ n, Iterated R' n a b) ∧ ∀ c, ¬ R b c) where
  adds := (h'.star true reads).adds
  guides {p q} has := by
    cases reads with
    | true => exact (h.loop_guides h' has).2
    | false =>
      have last : p.Has ((q.loop true f).before (forkOf true · q.entry)) q.code.size := has
      have inner := last.of_extends (before_extends _ _)
      have fork := last.before (h'.loop_adds true q).grows
      obtain ⟨body, around⟩ := h.loop_guides h' inner
      refine ⟨?_⟩
      rintro n a b saved ⟨⟨_ | times, ways⟩, stop⟩ rest
      · cases ways
        have dead := (h'.loop_connects inner).1.dead stop
        exact ⟨n + 1, .forkSecond fork dead rest⟩
      · obtain ⟨d, first, ways⟩ := ways
        obtain ⟨m, rest⟩ := around.follow ⟨⟨times, ways⟩, stop⟩ rest
        obtain ⟨k, rest⟩ := body.follow first rest
        exact ⟨k + 1, .forkFirst fork rest⟩

/-- At least a number of times, as often as it can. -/
lemma repeated (h : Directs text f R') (h' : Builds text f R) (min reads) :
    Directs text (·.repeated min none true reads f)
      (fun a b => (∃ n, min ≤ n ∧ Iterated R' n a b) ∧ ∀ c, ¬ R b c) := by
  cases min with
  | zero =>
    refine (h.star h' reads).of_imp fun a b way => ?_
    obtain ⟨⟨n, -, ways⟩, stop⟩ := way
    exact ⟨⟨n, ways⟩, stop⟩
  | succ min =>
    refine ((h.times min).comp (h.loop h')).of_imp fun a c way => ?_
    obtain ⟨⟨n, hmin, ways⟩, stop⟩ := way
    obtain ⟨k, rfl⟩ := Nat.exists_eq_add_of_le hmin
    rw [Nat.add_right_comm, Nat.add_assoc] at ways
    obtain ⟨b, first, d, once, rest⟩ := ways.split
    exact ⟨b, first, d, once, ⟨k, rest⟩, stop⟩

end Directs

end Guiding

end Program

namespace Expr

open Program (Builds Directs)

mutual

/-- The ways of an expression that are preferred whatever follows it: what would be tried before them has
no way at all. Where a repetition is bounded or lazy this is left open. -/
def MatchesFirst (text : Array Char) : Expr → Spot → Spot → Prop
  | .empty => Eq
  | .literal cs => Spells text cs
  | .set s => (Expr.set s).Matches text
  | .look l => (Expr.look l).Matches text
  | .repeat min none true body => fun a b =>
    (∃ n, min ≤ n ∧ Iterated (body.MatchesFirst text) n a b) ∧ ∀ c, ¬ body.Matches text b c
  | .repeat _ _ _ _ => fun _ _ => False
  | .group index body => fun a b =>
    ∃ c, body.MatchesFirst text (a.save (2 * index + 2)) c ∧ c.save (2 * index + 3) = b
  | .concat parts => MatchesFirstAll text parts
  | .choice branches => MatchesFirstAny text branches

/-- The ways of several expressions, one after the other, that are preferred whatever follows. -/
def MatchesFirstAll (text : Array Char) : List Expr → Spot → Spot → Prop
  | [] => Eq
  | e :: es => Comp (e.MatchesFirst text) (MatchesFirstAll text es)

/-- The ways of the first of several expressions that has any, if they are preferred. -/
def MatchesFirstAny (text : Array Char) : List Expr → Spot → Spot → Prop
  | [] => fun _ _ => False
  | e :: es => fun a b =>
    e.MatchesFirst text a b ∨ (∀ c, ¬ e.Matches text a c) ∧ MatchesFirstAny text es a b

end

/-- Characters in front. -/
lemma prepend_literal_directs (text cs) :
    Directs text (fun q => List.foldr (fun c q => q.before (.char c)) q cs) (Spells text cs) := by
  induction cs with
  | nil => exact .id text
  | cons c cs ih =>
    refine ((Directs.char text c).comp ih).of_imp fun a b way => ?_
    obtain ⟨here, rest⟩ := way
    exact ⟨a.forward, ⟨here, rfl⟩, rest⟩

/-- A set in front; without members it has no way. -/
lemma prepend_set_directs (text s) : Directs text (Expr.set s).prepend ((Expr.set s).Matches text) where
  adds := (prepend_builds text (.set s)).adds
  guides {p q} has := by
    by_cases empty : s.isEmpty = true
    · exact ⟨fun way _ => absurd way (not_matches_set empty _ _)⟩
    · rw [prepend_set empty] at has ⊢
      exact (Directs.set text s).guides has

/-- Where no way is known to be preferred, nothing is to be shown. -/
lemma directs_of_false (text) (e : Expr) (none : ∀ a b, ¬ e.MatchesFirst text a b) :
    Directs text e.prepend (e.MatchesFirst text) where
  adds := (prepend_builds text e).adds
  guides _ := ⟨fun way _ => absurd way (none _ _)⟩

mutual

/-- An expression in front of a program prefers those ways. -/
theorem prepend_directs (text) : ∀ e : Expr, Directs text e.prepend (e.MatchesFirst text)
  | .empty => .id text
  | .literal cs => prepend_literal_directs text cs
  | .set s => prepend_set_directs text s
  | .look l => .look text l
  | .repeat min none true body =>
    (prepend_directs text body).repeated (prepend_builds text body) min _
  | .repeat min (some max) greedy body => directs_of_false text _ fun _ _ => id
  | .repeat min none false body => directs_of_false text _ fun _ _ => id
  | .group index body => by
    have directs := (Directs.save text (2 * index + 2)).comp
      ((prepend_directs text body).comp (Directs.save text (2 * index + 3)))
    refine directs.of_imp fun a b way => ?_
    obtain ⟨c, way, e⟩ := way
    exact ⟨a.save (2 * index + 2), rfl, c, way, e⟩
  | .concat parts => prependAll_directs text parts
  | .choice branches => prependEach_directs text branches

/-- Expressions in front of a program prefer those ways, one after the other. -/
theorem prependAll_directs (text) : ∀ es, Directs text (prependAll es) (MatchesFirstAll text es)
  | [] => .id text
  | e :: es => (prepend_directs text e).comp (prependAll_directs text es)

/-- A choice in front of a program prefers the ways of the first alternative that has any. -/
theorem prependEach_directs (text) : ∀ es, Directs text (prependEach es) (MatchesFirstAny text es)
  | [] => ⟨(prependEach_builds text []).adds, fun _ => ⟨fun way _ => way.elim⟩⟩
  | [e] => by
    refine (prepend_directs text e).of_imp fun a b way => ?_
    rcases way with way | ⟨-, none⟩
    · exact way
    · exact none.elim
  | e :: f :: es => by
    have first := prepend_directs text e
    have others := prependEach_directs text (f :: es)
    have grown (q) : (e.prepend ((prependEach (f :: es) q).enter q.entry)).Extends q :=
      (first.adds _).trans ((Program.Extends.enter _ _).trans (others.adds q))
    have shape : prependEach (e :: f :: es) = fun q =>
      (e.prepend ((prependEach (f :: es) q).enter q.entry)).before
        (Program.forkOf true · (prependEach (f :: es) q).entry) := rfl
    rw [shape]
    refine ⟨fun q => (Program.before_extends _ _).trans (grown q), fun {p q} has => ?_⟩
    have fork := has.before (grown q).grows
    have inner := has.of_extends (Program.before_extends _ _)
    have behind := inner.of_extends ((first.adds _).trans (Program.Extends.enter _ _))
    have inFront := inner.later (others.adds q).grows
    have one : p.Guides text _ _ q.entry :=
      first.guides (q := (prependEach (f :: es) q).enter q.entry) inFront
    refine ⟨fun {n a b saved} way rest => ?_⟩
    rcases way with way | ⟨none, way⟩
    · obtain ⟨m, rest⟩ := one.follow way rest
      exact ⟨m + 1, .forkFirst fork rest⟩
    · obtain ⟨m, rest⟩ := (others.guides behind).follow way rest
      have dead := ((prepend_builds text e).connects_enter inFront).dead none
      exact ⟨m + 1, .forkSecond fork dead rest⟩

end

/-- A way from the beginning of a text that is preferred whatever follows is the one that is found. -/
theorem find?_eq_of_matchesFirst {e : Expr} {s : List Char} {b}
    (way : e.MatchesFirst s.toArray ⟨0, [(0, 0)]⟩ b) :
    e.find? s =
      some ((List.range e.groupCount).map (groupText s.toArray ((1, b.pos) :: b.saved))) := by
  have directs := (Directs.save s.toArray 0).comp
    ((prepend_directs s.toArray e).comp (Directs.save s.toArray 1))
  have accept : e.program.code[0]? = some .accept := (directs.adds .done).keeps (by decide)
  have guides : e.program.Guides s.toArray _ e.program.entry 0 :=
    directs.guides (q := .done) fun _ _ _ => rfl
  have last : e.program.Prefers s.toArray 0 ((b.save 1).at 0) ((1, b.pos) :: b.saved) :=
    .accept (by simp only [Program.step, Spot.at, accept])
  obtain ⟨n, preferred⟩ := guides.follow (a := ⟨0, []⟩) ⟨_, rfl, b, way, rfl⟩ last
  rw [find?, Program.search_eq_of_prefers preferred]
  rfl

end Expr

end Transcript.Pattern
