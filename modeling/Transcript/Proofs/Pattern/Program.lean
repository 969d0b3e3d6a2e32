import Mathlib.Tactic.Common
import Transcript.Proofs.Pattern.Matching

/-!
# What programs do

A program that was put in front of another one admits the ways of its expression, and then goes on as
the other one does. A builder is correct when this holds for every program that has the instructions it
added (`Builds`); the builders of loops and forks keep this property, and so an expression in front of a
program is correct (`Expr.prepend_builds`).
-/

namespace Transcript.Pattern

open Relation (Comp)

/-- A spot at an instruction. -/
def Spot.at (a : Spot) (pc : Nat) : Thread :=
  ⟨pc, a.pos, a.saved⟩

namespace Program

/-- In so many steps a thread can come to acceptance, with these positions saved. -/
def AcceptsIn (p : Program) (text : Array Char) : Nat → Thread → List (Nat × Nat) → Prop
  | 0, t, saved => p.step text t = .accept ∧ t.saved = saved
  | n + 1, t, saved => ∃ more, p.step text t = .goOn more ∧ ∃ u ∈ more, p.AcceptsIn text n u saved

/-- From `entry` every way to acceptance begins with a way of `R` to `exit`, and any such way will do. -/
structure Connects (p : Program) (text : Array Char) (R : Spot → Spot → Prop) (entry exit : Nat) :
    Prop where
  sound {n a saved} : p.AcceptsIn text n (a.at entry) saved →
    ∃ m b, m ≤ n ∧ R a b ∧ p.AcceptsIn text m (b.at exit) saved
  complete {m a b saved} : R a b → p.AcceptsIn text m (b.at exit) saved →
    ∃ n, p.AcceptsIn text n (a.at entry) saved

section Instructions

variable {p : Program} {text : Array Char} {pc next first second slot n : Nat} {t : Thread} {a : Spot}
  {c : Char} {s : Unicode.CharSet} {l : Look} {saved : List (Nat × Nat)}

/-- A thread that goes on comes to acceptance by one of those that it goes on with. -/
lemma acceptsIn_goOn {more} (h : p.step text t = .goOn more) :
    p.AcceptsIn text n t saved ↔ ∃ m, n = m + 1 ∧ ∃ u ∈ more, p.AcceptsIn text m u saved := by
  cases n with
  | zero =>
    constructor
    · rintro ⟨accept, -⟩
      rw [h] at accept
      cases accept
    · rintro ⟨m, hm, -⟩
      cases hm
  | succ n =>
    constructor
    · rintro ⟨others, h', hu⟩
      rw [h] at h'
      cases h'
      exact ⟨n, rfl, hu⟩
    · rintro ⟨m, hm, hu⟩
      cases hm
      exact ⟨more, h, hu⟩

/-- At an accepting instruction a thread is accepted at once. -/
lemma acceptsIn_accept (h : p.code[pc]? = some .accept) :
    p.AcceptsIn text n (a.at pc) saved ↔ n = 0 ∧ a.saved = saved := by
  have step : p.step text (a.at pc) = .accept := by
    simp only [Program.step, Spot.at, h]
  cases n with
  | zero => exact ⟨fun run => ⟨rfl, run.2⟩, fun run => ⟨step, run.2⟩⟩
  | succ n =>
    constructor
    · rintro ⟨more, h', -⟩
      rw [step] at h'
      cases h'
    · rintro ⟨hn, -⟩
      cases hn

/-- A failing instruction leads nowhere. -/
lemma acceptsIn_fail (h : p.code[pc]? = some .fail) : ¬ p.AcceptsIn text n (a.at pc) saved := by
  have step : p.step text (a.at pc) = .goOn [] := by
    simp only [Program.step, Spot.at, h]
  rw [acceptsIn_goOn step]
  rintro ⟨m, -, u, hu, -⟩
  exact List.not_mem_nil hu

/-- A character is read where it stands. -/
lemma acceptsIn_char (h : p.code[pc]? = some (.char c next)) :
    p.AcceptsIn text n (a.at pc) saved ↔
      ∃ m, n = m + 1 ∧ text[a.pos]? = some c ∧ p.AcceptsIn text m (a.forward.at next) saved := by
  by_cases hc : text[a.pos]? = some c
  · have step : p.step text (a.at pc) = .goOn [a.forward.at next] := by
      simp only [Program.step, Spot.at, h, hc, beq_self_eq_true, if_true, Spot.forward]
    simp only [acceptsIn_goOn step, List.mem_singleton, exists_eq_left, hc, true_and]
  · have step : p.step text (a.at pc) = .goOn [] := by
      simp only [Program.step, Spot.at, h, beq_iff_eq, hc, if_false]
    simp only [acceptsIn_goOn step, List.not_mem_nil, hc, false_and, exists_false, and_false]

/-- A character of a set is read where one stands. -/
lemma acceptsIn_set (h : p.code[pc]? = some (.set s next)) :
    p.AcceptsIn text n (a.at pc) saved ↔
      ∃ m, n = m + 1 ∧ text[a.pos]?.any s.contains = true ∧
        p.AcceptsIn text m (a.forward.at next) saved := by
  by_cases hs : text[a.pos]?.any s.contains = true
  · have step : p.step text (a.at pc) = .goOn [a.forward.at next] := by
      simp only [Program.step, Spot.at, h, hs, if_true, Spot.forward]
    simp only [acceptsIn_goOn step, List.mem_singleton, exists_eq_left, hs, true_and]
  · have step : p.step text (a.at pc) = .goOn [] := by
      simp only [Program.step, Spot.at, h, hs, if_false, Bool.false_eq_true]
    simp only [acceptsIn_goOn step, List.not_mem_nil, hs, false_and, exists_false, and_false,
      Bool.false_eq_true]

/-- A place is looked at where the condition holds. -/
lemma acceptsIn_look (h : p.code[pc]? = some (.look l next)) :
    p.AcceptsIn text n (a.at pc) saved ↔
      ∃ m, n = m + 1 ∧ l.holds (charBefore? text a.pos) text[a.pos]? = true ∧
        p.AcceptsIn text m (a.at next) saved := by
  by_cases hl : l.holds (charBefore? text a.pos) text[a.pos]? = true
  · have step : p.step text (a.at pc) = .goOn [a.at next] := by
      simp only [Program.step, Spot.at, h, hl, if_true]
    simp only [acceptsIn_goOn step, List.mem_singleton, exists_eq_left, hl, true_and]
  · have step : p.step text (a.at pc) = .goOn [] := by
      simp only [Program.step, Spot.at, h, hl, if_false, Bool.false_eq_true]
    simp only [acceptsIn_goOn step, List.not_mem_nil, hl, false_and, exists_false, and_false,
      Bool.false_eq_true]

/-- A position is saved anywhere. -/
lemma acceptsIn_save (h : p.code[pc]? = some (.save slot next)) :
    p.AcceptsIn text n (a.at pc) saved ↔
      ∃ m, n = m + 1 ∧ p.AcceptsIn text m ((a.save slot).at next) saved := by
  have step : p.step text (a.at pc) = .goOn [(a.save slot).at next] := by
    simp only [Program.step, Spot.at, h, Spot.save]
  simp only [acceptsIn_goOn step, List.mem_singleton, exists_eq_left]

/-- At a fork either way may be taken. -/
lemma acceptsIn_fork (h : p.code[pc]? = some (.fork first second)) :
    p.AcceptsIn text n (a.at pc) saved ↔
      ∃ m, n = m + 1 ∧
        (p.AcceptsIn text m (a.at first) saved ∨ p.AcceptsIn text m (a.at second) saved) := by
  have step : p.step text (a.at pc) = .goOn [a.at first, a.at second] := by
    simp only [Program.step, Spot.at, h]
  simp only [acceptsIn_goOn step, List.mem_cons, List.not_mem_nil, or_false, exists_eq_or_imp,
    exists_eq_left]

/-- At a fork it does not matter which way is preferred. -/
lemma acceptsIn_forkOf {greedy} (h : p.code[pc]? = some (forkOf greedy first second)) :
    p.AcceptsIn text n (a.at pc) saved ↔
      ∃ m, n = m + 1 ∧
        (p.AcceptsIn text m (a.at first) saved ∨ p.AcceptsIn text m (a.at second) saved) := by
  cases greedy with
  | true => exact acceptsIn_fork h
  | false =>
    rw [acceptsIn_fork h]
    simp only [or_comm]

end Instructions

/-! ## Ways between instructions -/

namespace Connects

variable {p : Program} {text : Array Char} {R S : Spot → Spot → Prop} {entry middle exit : Nat}

/-- Nothing leads from an instruction to itself. -/
lemma refl (p : Program) (text entry) : p.Connects text Eq entry entry where
  sound {n a _} h := ⟨n, a, Nat.le_refl n, rfl, h⟩
  complete := by
    rintro m a b saved rfl h
    exact ⟨m, h⟩

/-- Ways that meet can be put together. -/
lemma comp (h : p.Connects text R entry middle) (h' : p.Connects text S middle exit) :
    p.Connects text (Comp R S) entry exit where
  sound run := by
    obtain ⟨m, b, hm, first, run⟩ := h.sound run
    obtain ⟨k, c, hk, second, run⟩ := h'.sound run
    exact ⟨k, c, Nat.le_trans hk hm, ⟨b, first, second⟩, run⟩
  complete := by
    rintro m a c saved ⟨b, first, second⟩ run
    obtain ⟨k, run⟩ := h'.complete second run
    exact h.complete first run

/-- The same ways, described in another manner. -/
lemma of_iff (h : p.Connects text R entry exit) (same : ∀ a b, R a b ↔ S a b) :
    p.Connects text S entry exit := by
  have eq : R = S := by
    funext a b
    exact propext (same a b)
  rwa [eq] at h

/-- A fork admits what either of its ways admits. -/
lemma fork {greedy stay leave pc} (code : p.code[pc]? = some (forkOf greedy stay leave))
    (h : p.Connects text R stay exit) (h' : p.Connects text S leave exit) :
    p.Connects text (fun a b => R a b ∨ S a b) pc exit where
  sound run := by
    obtain ⟨k, rfl, run | run⟩ := (acceptsIn_forkOf code).1 run
    · obtain ⟨m, b, hm, way, run⟩ := h.sound run
      exact ⟨m, b, Nat.le_succ_of_le hm, .inl way, run⟩
    · obtain ⟨m, b, hm, way, run⟩ := h'.sound run
      exact ⟨m, b, Nat.le_succ_of_le hm, .inr way, run⟩
  complete := by
    rintro m a b saved (way | way) run
    · obtain ⟨k, run⟩ := h.complete way run
      exact ⟨k + 1, (acceptsIn_forkOf code).2 ⟨k, rfl, .inl run⟩⟩
    · obtain ⟨k, run⟩ := h'.complete way run
      exact ⟨k + 1, (acceptsIn_forkOf code).2 ⟨k, rfl, .inr run⟩⟩

/-- A fork that leads back to itself through a body admits any number of ways of the body. -/
lemma star {greedy body pc} (code : p.code[pc]? = some (forkOf greedy body exit))
    (h : p.Connects text R body pc) :
    p.Connects text (fun a b => ∃ n, Iterated R n a b) pc exit where
  sound {n} := by
    -- each round takes at least the step of the fork
    induction n using Nat.strongRecOn with
    | ind n ih =>
      intro a saved run
      obtain ⟨k, rfl, run | run⟩ := (acceptsIn_forkOf code).1 run
      · obtain ⟨m, b, hm, first, run⟩ := h.sound run
        obtain ⟨m', c, hm', ⟨times, rest⟩, run⟩ := ih m (Nat.lt_succ_of_le hm) run
        exact ⟨m', c, by omega, ⟨times + 1, b, first, rest⟩, run⟩
      · exact ⟨k, a, Nat.le_succ k, ⟨0, rfl⟩, run⟩
  complete := by
    rintro m a b saved ⟨times, ways⟩ run
    induction times generalizing a with
    | zero =>
      cases ways
      exact ⟨m + 1, (acceptsIn_forkOf code).2 ⟨m, rfl, .inr run⟩⟩
    | succ times ih =>
      obtain ⟨c, first, rest⟩ := ways
      obtain ⟨k, run⟩ := ih rest
      obtain ⟨k', run⟩ := h.complete first run
      exact ⟨k' + 1, (acceptsIn_forkOf code).2 ⟨k', rfl, .inl run⟩⟩

end Connects

/-! ## Builders -/

/-- A program has the instructions of another one from a place on. -/
def Has (p q : Program) (first : Nat) : Prop :=
  ∀ k, first ≤ k → k < q.code.size → p.code[k]? = q.code[k]?

/-- A program begins with the instructions of another one. -/
structure Extends (r q : Program) : Prop where
  grows : q.code.size ≤ r.code.size
  keeps {k} : k < q.code.size → r.code[k]? = q.code[k]?

/-- A builder adds instructions, and these admit the ways of `R` to what the builder has put them in
front of. -/
structure Builds (text : Array Char) (f : Program → Program) (R : Spot → Spot → Prop) : Prop where
  adds q : (f q).Extends q
  connects {p q : Program} : p.Has (f q) q.code.size → p.Connects text R (f q).entry q.entry

section Extension

variable {p q r : Program} {i : Nat → Instr} {first : Nat}

/-- A program extends itself. -/
lemma Extends.refl (q : Program) : q.Extends q :=
  ⟨Nat.le_refl _, fun _ => rfl⟩

/-- A program extends itself, wherever it is entered. -/
lemma Extends.enter (q : Program) (entry) : (q.enter entry).Extends q :=
  ⟨Nat.le_refl _, fun _ => rfl⟩

/-- Extensions can be extended. -/
lemma Extends.trans (h : r.Extends q) (h' : q.Extends p) : r.Extends p where
  grows := Nat.le_trans h'.grows h.grows
  keeps hk := (h.keeps (Nat.lt_of_lt_of_le hk h'.grows)).trans (h'.keeps hk)

/-- An instruction in front is one more. -/
lemma size_before (q : Program) (i) : (q.before i).code.size = q.code.size + 1 :=
  Array.size_push _

/-- An instruction in front extends a program. -/
lemma before_extends (q : Program) (i) : (q.before i).Extends q where
  grows := by
    rw [size_before]
    exact Nat.le_succ _
  keeps hk := by
    rw [before, Array.getElem?_push_lt hk, Array.getElem?_eq_getElem hk]

/-- What has the instructions of an extension has those of the program too. -/
lemma Has.of_extends (h : p.Has r first) (h' : r.Extends q) : p.Has q first := by
  intro k hfirst hk
  rw [h k hfirst (Nat.lt_of_lt_of_le hk h'.grows), h'.keeps hk]

/-- Instructions from a place on are there from a later place on. -/
lemma Has.later {later} (h : p.Has q first) (le : first ≤ later) : p.Has q later :=
  fun k hk => h k (Nat.le_trans le hk)

/-- The instruction in front of a program is the last one that was added. -/
lemma Has.before (h : p.Has (q.before i) first) (le : first ≤ q.code.size) :
    p.code[q.code.size]? = some (i q.entry) := by
  rw [h _ le (by rw [size_before]; exact Nat.lt_succ_self _)]
  simp only [Program.before, Array.getElem?_push_size]

/-- What extends a program has its first instruction. -/
lemma Extends.code_entry (h : p.Extends (q.before i)) :
    p.code[(q.before i).entry]? = some (i q.entry) := by
  have entry : (q.before i).entry = q.code.size := rfl
  rw [entry, h.keeps (by rw [size_before]; exact Nat.lt_succ_self _)]
  simp only [Program.before, Array.getElem?_push_size]

end Extension

namespace Builds

variable {text : Array Char} {f g : Program → Program} {R S : Spot → Spot → Prop} {greedy : Bool}

/-- Builders can be used one after the other. -/
lemma comp (hf : Builds text f R) (hg : Builds text g S) : Builds text (fun q => f (g q)) (Comp R S) where
  adds q := (hf.adds (g q)).trans (hg.adds q)
  connects {p q} has := by
    have inner := has.of_extends (hf.adds (g q))
    exact (hf.connects (has.later (hg.adds q).grows)).comp (hg.connects inner)

/-- Nothing is built. -/
lemma id (text) : Builds text (fun q => q) Eq where
  adds q := .enter q q.entry
  connects {p q} _ := .refl p text q.entry

/-- The same ways, described in another manner. -/
lemma of_iff (h : Builds text f R) (same : ∀ a b, R a b ↔ S a b) : Builds text f S where
  adds := h.adds
  connects has := (h.connects has).of_iff same

/-- A single instruction in front. -/
lemma instruction {i : Nat → Instr}
    (h : ∀ {p : Program} {pc next}, p.code[pc]? = some (i next) → p.Connects text R pc next) :
    Builds text (·.before i) R where
  adds q := before_extends q i
  connects has := h (has.before (Nat.le_refl _))

/-- A character in front. -/
lemma char (text c) :
    Builds text (·.before (.char c)) (fun a b => text[a.pos]? = some c ∧ a.forward = b) := by
  apply instruction
  intro p pc next code
  refine ⟨fun {n a saved} run => ?_, fun {m a b saved} way run => ?_⟩
  · obtain ⟨m, rfl, hc, run⟩ := (acceptsIn_char code).1 run
    exact ⟨m, a.forward, Nat.le_succ m, ⟨hc, rfl⟩, run⟩
  · obtain ⟨hc, rfl⟩ := way
    exact ⟨m + 1, (acceptsIn_char code).2 ⟨m, rfl, hc, run⟩⟩

/-- A set in front. -/
lemma set (text s) :
    Builds text (·.before (.set s)) (fun a b => text[a.pos]?.any s.contains = true ∧ a.forward = b) := by
  apply instruction
  intro p pc next code
  refine ⟨fun {n a saved} run => ?_, fun {m a b saved} way run => ?_⟩
  · obtain ⟨m, rfl, hs, run⟩ := (acceptsIn_set code).1 run
    exact ⟨m, a.forward, Nat.le_succ m, ⟨hs, rfl⟩, run⟩
  · obtain ⟨hs, rfl⟩ := way
    exact ⟨m + 1, (acceptsIn_set code).2 ⟨m, rfl, hs, run⟩⟩

/-- A condition in front. -/
lemma look (text l) :
    Builds text (·.before (.look l))
      (fun a b => l.holds (charBefore? text a.pos) text[a.pos]? = true ∧ a = b) := by
  apply instruction
  intro p pc next code
  refine ⟨fun {n a saved} run => ?_, fun {m a b saved} way run => ?_⟩
  · obtain ⟨m, rfl, hl, run⟩ := (acceptsIn_look code).1 run
    exact ⟨m, a, Nat.le_succ m, ⟨hl, rfl⟩, run⟩
  · obtain ⟨hl, rfl⟩ := way
    exact ⟨m + 1, (acceptsIn_look code).2 ⟨m, rfl, hl, run⟩⟩

/-- A slot in front. -/
lemma save (text slot) : Builds text (·.before (.save slot)) (fun a b => a.save slot = b) := by
  apply instruction
  intro p pc next code
  refine ⟨fun {n a saved} run => ?_, fun {m a b saved} way run => ?_⟩
  · obtain ⟨m, rfl, rest⟩ := (acceptsIn_save code).1 run
    exact ⟨m, a.save slot, Nat.le_succ m, rfl, rest⟩
  · subst way
    exact ⟨m + 1, (acceptsIn_save code).2 ⟨m, rfl, run⟩⟩

/-- A failing instruction in front. -/
lemma fail (text) : Builds text (·.before fun _ => .fail) (fun _ _ => False) := by
  apply instruction
  intro p pc next code
  refine ⟨fun {n a saved} run => ?_, fun {m a b saved} way run => ?_⟩
  · exact absurd run (acceptsIn_fail code)
  · exact way.elim

/-- Another place to enter does not matter to what is built in front. -/
lemma connects_enter (h : Builds text f R) {p q : Program} {exit}
    (has : p.Has (f (q.enter exit)) q.code.size) :
    p.Connects text R (f (q.enter exit)).entry exit :=
  h.connects (q := q.enter exit) has

/-- A builder used a number of times. -/
lemma times (h : Builds text f R) (n : Nat) : Builds text (Program.times f n) (Iterated R n) := by
  induction n with
  | zero => exact .id text
  | succ n ih =>
    refine (ih.comp h).of_iff fun a c => ?_
    constructor
    · rintro ⟨b, ways, last⟩
      exact ways.add (n := 1) ⟨c, last, rfl⟩
    · intro ways
      obtain ⟨b, ways, d, last, e⟩ := Iterated.split (m := n) (n := 1) ways
      cases e
      exact ⟨b, ways, last⟩

/-- A builder used a number of times at most adds instructions. -/
lemma atMost_adds (h : Builds text f R) (greedy leave n q) :
    (atMost greedy f leave n q).Extends q := by
  induction n generalizing q with
  | zero => exact .enter q q.entry
  | succ n ih => exact (ih ((f q).orLeave greedy leave)).trans ((before_extends _ _).trans (h.adds q))

/-- A builder used a number of times at most, where `k` more times are possible behind it. -/
lemma atMost_connects (h : Builds text f R) {p : Program} {leave} (n) {q : Program} {k}
    (behind : p.Connects text (fun a b => ∃ m ≤ k, Iterated R m a b) q.entry leave)
    (has : p.Has (atMost greedy f leave n q) q.code.size) :
    p.Connects text (fun a b => ∃ m ≤ k + n, Iterated R m a b)
      (atMost greedy f leave n q).entry leave := by
  -- the forks are put in front one by one, so the bound grows from the last one on
  induction n generalizing q k with
  | zero => exact behind
  | succ n ih =>
    have inner := has.of_extends (h.atMost_adds greedy leave n ((f q).orLeave greedy leave))
    have body := (h.connects (inner.of_extends (before_extends _ _))).comp behind
    have fork := Connects.fork (inner.before (h.adds q).grows) body (.refl p text leave)
    have grown : ((f q).orLeave greedy leave).Extends q := (before_extends _ _).trans (h.adds q)
    rw [← Nat.succ_add_eq_add_succ]
    refine ih (fork.of_iff fun a c => ?_) (has.later grown.grows)
    constructor
    · rintro (⟨b, first, m, hm, rest⟩ | rfl)
      · exact ⟨m + 1, Nat.succ_le_succ hm, b, first, rest⟩
      · exact ⟨0, Nat.zero_le _, rfl⟩
    · rintro ⟨_ | m, hm, ways⟩
      · exact .inr ways
      · obtain ⟨b, first, rest⟩ := ways
        exact .inl ⟨b, first, m, Nat.le_of_succ_le_succ hm, rest⟩

/-- A loop adds instructions. -/
lemma loop_adds (h : Builds text f R) (greedy) (q : Program) : (q.loop greedy f).Extends q := by
  have grown : (f (q.before fun _ => .fail)).Extends q :=
    (h.adds _).trans (before_extends q fun _ => .fail)
  refine ⟨?_, fun {k} hk => ?_⟩
  · rw [loop, Array.set!_eq_setIfInBounds, Array.size_setIfInBounds]
    exact grown.grows
  · rw [loop, Array.set!_eq_setIfInBounds, Array.getElem?_setIfInBounds_ne (Nat.ne_of_gt hk)]
    exact grown.keeps hk

/-- The instructions of a loop: a fork at the place that was kept free, and those of the body behind it. -/
lemma loop_has (h : ∀ q, (f q).Extends q) {p q : Program} (has : p.Has (q.loop greedy f) q.code.size) :
    p.code[q.code.size]? = some (forkOf greedy (q.loop greedy f).entry q.entry) ∧
      p.Has (f (q.before fun _ => .fail)) (q.before fun _ => .fail).code.size := by
  -- the place of the fork is kept free by an instruction that fails, which the body never changes
  have size : q.code.size < (f (q.before fun _ => .fail)).code.size := by
    have grows := (h (q.before fun _ => .fail)).grows
    rw [size_before] at grows
    exact grows
  constructor
  · rw [has _ (Nat.le_refl _) ?_]
    · rw [loop, Array.set!_eq_setIfInBounds, Array.getElem?_setIfInBounds_self, if_pos size]
    · rw [loop, Array.set!_eq_setIfInBounds, Array.size_setIfInBounds]
      exact size
  · intro k hk hk'
    rw [size_before] at hk
    have there := has k (Nat.le_of_succ_le hk) (by
      rw [loop, Array.set!_eq_setIfInBounds, Array.size_setIfInBounds]
      exact hk')
    rw [there, loop, Array.set!_eq_setIfInBounds, Array.getElem?_setIfInBounds_ne (Nat.ne_of_lt hk)]

/-- In a loop the body leads to the fork, and the fork any number of times through the body. -/
lemma loop_connects (h : Builds text f R) {p q : Program} (has : p.Has (q.loop greedy f) q.code.size) :
    p.Connects text R (q.loop greedy f).entry q.code.size ∧
      p.Connects text (fun a b => ∃ n, Iterated R n a b) q.code.size q.entry := by
  obtain ⟨code, inner⟩ := loop_has h.adds has
  have body : p.Connects text R (q.loop greedy f).entry q.code.size := h.connects inner
  exact ⟨body, .star code body⟩

/-- Any number of times, through the body first or past it. -/
lemma star (h : Builds text f R) (greedy reads) :
    Builds text (·.star greedy reads f) (fun a b => ∃ n, Iterated R n a b) where
  adds q := by
    cases reads with
    | true => exact (Extends.enter (q.loop greedy f) q.code.size).trans (h.loop_adds greedy q)
    | false =>
      exact (before_extends (q.loop greedy f) (forkOf greedy · q.entry)).trans (h.loop_adds greedy q)
  connects {p q} has := by
    cases reads with
    | true => exact (h.loop_connects has).2
    | false =>
      have last : p.Has ((q.loop greedy f).before (forkOf greedy · q.entry)) q.code.size := has
      obtain ⟨body, around⟩ := h.loop_connects (last.of_extends (before_extends _ _))
      have fork := Connects.fork (last.before (h.loop_adds greedy q).grows) (body.comp around)
        (.refl p text q.entry)
      refine fork.of_iff fun a c => ?_
      constructor
      · rintro (⟨b, first, n, rest⟩ | rfl)
        · exact ⟨n + 1, b, first, rest⟩
        · exact ⟨0, rfl⟩
      · rintro ⟨_ | n, ways⟩
        · exact .inr ways
        · obtain ⟨b, first, rest⟩ := ways
          exact .inl ⟨b, first, n, rest⟩

/-- A loop that is entered at its body: once or more. -/
lemma loop (h : Builds text f R) (greedy) :
    Builds text (·.loop greedy f) (Comp R fun a b => ∃ n, Iterated R n a b) where
  adds := h.loop_adds greedy
  connects has := by
    obtain ⟨body, around⟩ := h.loop_connects has
    exact body.comp around

/-- A number of times at most. -/
lemma atMost (h : Builds text f R) (greedy n) :
    Builds text (fun q => atMost greedy f q.entry n q) (fun a b => ∃ m ≤ n, Iterated R m a b) where
  adds q := h.atMost_adds greedy q.entry n q
  connects {p q} has := by
    have nothing : p.Connects text (fun a b => ∃ m ≤ 0, Iterated R m a b) q.entry q.entry := by
      refine (Connects.refl p text q.entry).of_iff fun a b => ?_
      constructor
      · intro e
        exact ⟨0, Nat.le_refl 0, e⟩
      · rintro ⟨m, hm, ways⟩
        cases Nat.le_zero.1 hm
        exact ways
    have all := h.atMost_connects n nothing has
    rwa [Nat.zero_add] at all

/-- A number of times between two bounds. -/
lemma repeated (h : Builds text f R) (min max greedy reads) :
    Builds text (·.repeated min max greedy reads f)
      (fun a b => ∃ n, InBounds min max n ∧ Iterated R n a b) := by
  cases max with
  | some m =>
    refine ((h.times min).comp (h.atMost greedy (m - min))).of_iff fun a c => ?_
    simp only [Iterated.inBounds_iff, Option.mem_some_iff, forall_eq', Comp]
  | none =>
    cases min with
    | zero =>
      refine (h.star greedy reads).of_iff fun a c => ?_
      constructor
      · rintro ⟨n, ways⟩
        exact ⟨n, ⟨Nat.zero_le n, nofun⟩, ways⟩
      · rintro ⟨n, -, ways⟩
        exact ⟨n, ways⟩
    | succ min =>
      refine ((h.times min).comp (h.loop greedy)).of_iff fun a c => ?_
      constructor
      · rintro ⟨b, first, d, once, n, rest⟩
        exact ⟨min + (n + 1), ⟨by omega, nofun⟩, first.add ⟨d, once, rest⟩⟩
      · rintro ⟨n, ⟨hmin, -⟩, ways⟩
        obtain ⟨k, rfl⟩ := Nat.exists_eq_add_of_le hmin
        rw [Nat.add_right_comm, Nat.add_assoc] at ways
        obtain ⟨b, first, d, once, rest⟩ := ways.split
        exact ⟨b, first, d, once, k, rest⟩

end Builds

end Program

namespace Expr

open Program (Builds)

/-- Characters in front. -/
lemma prepend_literal_builds (text cs) :
    Builds text (fun q => List.foldr (fun c q => q.before (.char c)) q cs) (Spells text cs) := by
  induction cs with
  | nil => exact .id text
  | cons c cs ih =>
    refine ((Builds.char text c).comp ih).of_iff fun a b => ?_
    constructor
    · rintro ⟨_, ⟨hc, rfl⟩, rest⟩
      exact ⟨hc, rest⟩
    · rintro ⟨hc, rest⟩
      exact ⟨a.forward, ⟨hc, rfl⟩, rest⟩

/-- A set without members has no way. -/
lemma not_matches_set {s : Unicode.CharSet} (empty : s.isEmpty = true) (a b) :
    ¬ (Expr.set s).Matches text a b := by
  rintro ⟨here, -⟩
  have none (c) : s.contains c = false := by
    rw [Unicode.CharSet.contains, Unicode.CharSet.containsCode, List.isEmpty_iff.1 empty]
    rfl
  cases h : text[a.pos]? with
  | none =>
    rw [h] at here
    cases here
  | some c =>
    rw [h, Option.any_some, none c] at here
    cases here

/-- A set with members becomes the instruction that reads one of them. -/
lemma prepend_set {s : Unicode.CharSet} (some : s.isEmpty ≠ true) :
    (Expr.set s).prepend = (·.before (.set s)) := by
  funext q
  rw [prepend, if_neg some]

/-- A set in front; without members it fails. -/
lemma prepend_set_builds (text s) : Builds text (Expr.set s).prepend ((Expr.set s).Matches text) := by
  by_cases empty : s.isEmpty = true
  · have nothing : (Expr.set s).prepend = (·.before fun _ => .fail) := by
      funext q
      rw [prepend, if_pos empty]
    rw [nothing]
    exact (Builds.fail text).of_iff fun a b => (iff_false_intro (not_matches_set empty a b)).symm
  · rw [prepend_set empty]
    exact .set text s

mutual

/-- An expression in front of a program admits its ways. -/
theorem prepend_builds (text) : ∀ e : Expr, Builds text e.prepend (e.Matches text)
  | .empty => .id text
  | .literal cs => prepend_literal_builds text cs
  | .set s => prepend_set_builds text s
  | .look l => .look text l
  | .repeat min max greedy body =>
    (prepend_builds text body).repeated min max greedy _
  | .group index body => by
    have builds := (Builds.save text (2 * index + 2)).comp
      ((prepend_builds text body).comp (Builds.save text (2 * index + 3)))
    refine builds.of_iff fun a b => ?_
    constructor
    · rintro ⟨_, rfl, c, way, e⟩
      exact ⟨c, way, e⟩
    · rintro ⟨c, way, e⟩
      exact ⟨a.save (2 * index + 2), rfl, c, way, e⟩
  | .concat parts => prependAll_builds text parts
  | .choice branches => prependEach_builds text branches

/-- Expressions in front of a program admit their ways, one after the other. -/
theorem prependAll_builds (text) : ∀ es, Builds text (prependAll es) (MatchesAll text es)
  | [] => .id text
  | e :: es => (prepend_builds text e).comp (prependAll_builds text es)

/-- A choice in front of a program admits the ways of every alternative. -/
theorem prependEach_builds (text) : ∀ es, Builds text (prependEach es) (MatchesAny text es)
  | [] => .fail text
  | [e] => (prepend_builds text e).of_iff fun a b => by simp only [MatchesAny, or_false]
  | e :: f :: es => by
    have first := prepend_builds text e
    have others := prependEach_builds text (f :: es)
    have grown (q) : (e.prepend ((prependEach (f :: es) q).enter q.entry)).Extends q :=
      (first.adds _).trans ((Program.Extends.enter _ _).trans (others.adds q))
    have shape : prependEach (e :: f :: es) = fun q =>
      (e.prepend ((prependEach (f :: es) q).enter q.entry)).before
        (Program.forkOf true · (prependEach (f :: es) q).entry) := rfl
    rw [shape]
    refine ⟨fun q => (Program.before_extends _ _).trans (grown q), fun {p q} has => ?_⟩
    -- the instructions of the other alternatives lie between the first one and what follows
    have inner := has.of_extends (Program.before_extends _ _)
    have behind := inner.of_extends ((first.adds _).trans (Program.Extends.enter _ _))
    have one := first.connects_enter (inner.later (others.adds q).grows)
    exact .fork (has.before (grown q).grows) one (others.connects behind)

end

end Expr

end Transcript.Pattern
