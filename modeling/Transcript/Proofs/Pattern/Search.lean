import Mathlib.Data.Finset.Prod
import Mathlib.Data.Finset.Range
import Mathlib.Tactic.Common
import Transcript.Proofs.Pattern.Program

/-!
# What a search finds

A search finds saved positions only of a thread that can come to acceptance, and it finds some when
there is such a thread: as long as it runs, the places that it has left behind lead only to such places
and to those that still wait, so that at its end none of them leads to acceptance. Each visit is the
first one of its place, which bounds the length of a search.
-/

namespace Transcript.Pattern

/-- The place of a thread: its instruction and its position. -/
def Thread.place (t : Thread) : Nat × Nat :=
  (t.pc, t.pos)

/-- The places that come after one instruction, unless it accepts. -/
def Step.places : Step → Option (List (Nat × Nat))
  | .accept => none
  | .goOn threads => some (threads.map Thread.place)

namespace Visited

variable {v : Visited} {t u : Thread}

/-- A visit is one of a place. -/
lemma has_congr (same : t.place = u.place) : v.has t = v.has u := by
  rw [has, has, show t.pc = u.pc from congrArg Prod.fst same,
    show t.pos = u.pos from congrArg Prod.snd same]

/-- After a visit that place is visited, and every place that was. -/
lemma has_add : (v.add t).has u = true ↔ v.has u = true ∨ t.place = u.place ∧ t.pc < v.size := by
  rw [add, has, has, Array.getD_eq_getD_getElem?, Array.getElem?_setIfInBounds]
  by_cases hpc : t.pc = u.pc
  · by_cases hsize : t.pc < v.size
    · rw [if_pos hpc, if_pos hsize, Option.getD_some, Nat.testBit_or, Nat.one_shiftLeft,
        Nat.testBit_two_pow, Bool.or_eq_true, decide_eq_true_eq, hpc]
      simp only [Thread.place, Prod.mk.injEq, hpc, true_and, hpc ▸ hsize, and_true]
    · rw [if_pos hpc, if_neg hsize, Option.getD_none, Array.getD_eq_getD_getElem?,
        Array.getElem?_eq_none (hpc ▸ Nat.le_of_not_lt hsize), Option.getD_none]
      simp only [hsize, and_false, or_false]
  · rw [if_neg hpc, Array.getD_eq_getD_getElem?]
    simp only [Thread.place, Prod.mk.injEq, hpc, false_and, or_false]

/-- A visit adds no instruction. -/
lemma size_add : (v.add t).size = v.size := by
  rw [add, Array.size_setIfInBounds]

/-- The places up to a position that were not visited. -/
def free (v : Visited) (places : Nat) : Finset (Nat × Nat) :=
  (Finset.range v.size ×ˢ Finset.range places).filter fun x => v.has ⟨x.1, x.2, []⟩ = false

/-- A visit leaves no further place. -/
lemma free_add_subset (places) : (v.add t).free places ⊆ v.free places := by
  intro x hx
  rw [free, Finset.mem_filter, size_add] at hx
  rw [free, Finset.mem_filter]
  refine ⟨hx.1, ?_⟩
  cases old : v.has ⟨x.1, x.2, []⟩ with
  | false => rfl
  | true =>
    rw [has_add.2 (.inl old)] at hx
    exact hx.2

/-- A first visit leaves fewer places. -/
lemma card_free_add {places} (new : v.has t = false) (hpc : t.pc < v.size) (hpos : t.pos < places) :
    ((v.add t).free places).card < (v.free places).card := by
  apply Finset.card_lt_card
  rw [Finset.ssubset_iff_of_subset (free_add_subset places)]
  refine ⟨t.place, ?_, ?_⟩
  · rw [free, Finset.mem_filter, Finset.mem_product, Finset.mem_range, Finset.mem_range]
    exact ⟨⟨hpc, hpos⟩, new⟩
  · rw [free, Finset.mem_filter]
    rintro ⟨-, left⟩
    have visited : (v.add t).has ⟨t.pc, t.pos, []⟩ = true := has_add.2 (.inr ⟨rfl, hpc⟩)
    rw [Thread.place, visited] at left
    cases left

/-- There are as many places as instructions and positions. -/
lemma card_free_le (v : Visited) (places) : (v.free places).card ≤ v.size * places := by
  refine (Finset.card_filter_le _ _).trans ?_
  rw [Finset.card_product, Finset.card_range, Finset.card_range]

/-- At first no place is visited. -/
lemma has_replicate (n t) : has (Array.replicate n 0) t = false := by
  rw [has, Array.getD_eq_getD_getElem?, Array.getElem?_replicate]
  split <;> exact Nat.zero_testBit _

end Visited

namespace Program

variable {p : Program} {text : Array Char} {t u w : Thread} {more ts : List Thread} {v : Visited}
  {saved : List (Nat × Nat)} {n : Nat}

/-! ## Single steps -/

/-- What comes after an instruction is decided by its place. -/
lemma step_places (same : t.place = u.place) : (p.step text t).places = (p.step text u).places := by
  unfold step
  rw [show t.pc = u.pc from congrArg Prod.fst same, show t.pos = u.pos from congrArg Prod.snd same]
  cases p.code[u.pc]? with
  | none => rfl
  | some i => cases i <;> (simp only []; try split) <;> rfl

/-- From the same place threads lead to the same places. -/
lemma step_goOn_congr (same : t.place = u.place) (h : p.step text t = .goOn more) :
    ∃ more', p.step text u = .goOn more' ∧ more'.map Thread.place = more.map Thread.place := by
  have places : (p.step text t).places = (p.step text u).places := step_places same
  rw [h] at places
  cases step : p.step text u with
  | accept =>
    rw [step] at places
    cases places
  | goOn more' =>
    rw [step] at places
    exact ⟨more', rfl, (Option.some.inj places).symm⟩

/-- Among threads at the same places there is one for every place. -/
lemma exists_place {more' : List Thread} (same : more'.map Thread.place = more.map Thread.place)
    (hu : u ∈ more) : ∃ u' ∈ more', u'.place = u.place := by
  have member := List.mem_map_of_mem (f := Thread.place) hu
  rw [← same] at member
  exact List.mem_map.1 member

/-- From the same place there is a way to acceptance too. -/
lemma AcceptsIn.congr (h : p.AcceptsIn text n t saved) (same : t.place = u.place) :
    ∃ saved, p.AcceptsIn text n u saved := by
  induction n generalizing t u with
  | zero =>
    have places : (p.step text t).places = (p.step text u).places := step_places same
    rw [h.1] at places
    cases step : p.step text u with
    | accept => exact ⟨u.saved, step, rfl⟩
    | goOn more =>
      rw [step] at places
      cases places
  | succ n ih =>
    obtain ⟨more, step, t', ht', run⟩ := h
    obtain ⟨more', step', same'⟩ := step_goOn_congr same step
    obtain ⟨u', hu', e⟩ := exists_place same' ht'
    obtain ⟨saved', run'⟩ := ih run e.symm
    exact ⟨saved', more', step', u', hu', run'⟩

/-- At most two threads come after one instruction, within the text, and none where there is no
instruction. -/
lemma step_goOn (h : p.step text t = .goOn more) :
    more.length ≤ 2 ∧ (t.pos ≤ text.size → ∀ u ∈ more, u.pos ≤ text.size) ∧
      (p.code.size ≤ t.pc → more = []) := by
  -- what can be read stands in the text
  have inside : text[t.pos]?.isSome = true → t.pos + 1 ≤ text.size := by
    intro some
    by_contra outside
    rw [Array.getElem?_eq_none (Nat.le_of_lt_succ (Nat.lt_of_not_le outside))] at some
    cases some
  have nowhere : ([] : List Thread).length ≤ 2 ∧
      (t.pos ≤ text.size → ∀ u ∈ ([] : List Thread), u.pos ≤ text.size) :=
    ⟨Nat.zero_le _, fun _ _ hu => absurd hu List.not_mem_nil⟩
  have onward (u : Thread) (within : t.pos ≤ text.size → u.pos ≤ text.size) :
      [u].length ≤ 2 ∧ (t.pos ≤ text.size → ∀ w ∈ [u], w.pos ≤ text.size) := by
    refine ⟨Nat.le_succ 1, fun ht w hw => ?_⟩
    rw [List.mem_singleton.1 hw]
    exact within ht
  cases code : p.code[t.pc]? with
  | none =>
    simp only [step, code, Step.goOn.injEq] at h
    subst h
    exact ⟨nowhere.1, nowhere.2, fun _ => rfl⟩
  | some i =>
    have there : ¬ p.code.size ≤ t.pc := fun outside => by
      rw [Array.getElem?_eq_none outside] at code
      cases code
    simp only [there, false_implies, and_true]
    cases i with
    | accept => simp only [step, code, reduceCtorEq] at h
    | fail =>
      simp only [step, code, Step.goOn.injEq] at h
      subst h
      exact nowhere
    | char c next =>
      simp only [step, code] at h
      split at h <;> cases h
      · rename_i here
        exact onward _ fun _ => inside (by rw [eq_of_beq here]; rfl)
      · exact nowhere
    | set s next =>
      simp only [step, code] at h
      split at h <;> cases h
      · rename_i here
        exact onward _ fun _ => inside (Option.isSome_of_any here)
      · exact nowhere
    | look l next =>
      simp only [step, code] at h
      split at h <;> cases h
      · exact onward _ id
      · exact nowhere
    | save slot next =>
      simp only [step, code, Step.goOn.injEq] at h
      subst h
      exact onward _ id
    | fork first second =>
      simp only [step, code, Step.goOn.injEq] at h
      subst h
      refine ⟨Nat.le_refl 2, fun within u hu => ?_⟩
      rw [List.mem_pair] at hu
      rcases hu with rfl | rfl <;> exact within

/-! ## Searches -/

/-- What is found was saved by a thread that came to acceptance. -/
theorem run_sound {fuel} (h : p.run text fuel v ts = some saved) :
    ∃ t ∈ ts, ∃ n, p.AcceptsIn text n t saved := by
  induction fuel generalizing v ts with
  | zero => cases h
  | succ fuel ih =>
    cases ts with
    | nil => cases h
    | cons t ts =>
      rw [run] at h
      split at h
      · obtain ⟨u, hu, found⟩ := ih h
        exact ⟨u, List.mem_cons_of_mem t hu, found⟩
      · cases step : p.step text t with
        | accept =>
          rw [step] at h
          exact ⟨t, List.mem_cons_self, 0, step, Option.some.inj h⟩
        | goOn more =>
          rw [step] at h
          obtain ⟨u, hu, n, found⟩ := ih h
          rcases List.mem_append.1 hu with hu | hu
          · exact ⟨t, List.mem_cons_self, n + 1, more, step, u, hu, found⟩
          · exact ⟨u, List.mem_cons_of_mem t hu, n, found⟩

/-- A place that needs no further visit: it was visited, or it waits, or there is no instruction. -/
def Covered (p : Program) (v : Visited) (ts : List Thread) (t : Thread) : Prop :=
  v.has t = true ∨ (∃ u ∈ ts, u.place = t.place) ∨ p.code.size ≤ t.pc

/-- From visited places the ways lead on to covered ones. -/
def Closed (p : Program) (text : Array Char) (v : Visited) (ts : List Thread) : Prop :=
  ∀ t, v.has t = true → ∃ more, p.step text t = .goOn more ∧ ∀ u ∈ more, p.Covered v ts u

/-- Where a visited thread is passed over, no place is lost. -/
lemma Covered.passOver (visited : v.has w = true) (h : p.Covered v (w :: ts) t) : p.Covered v ts t := by
  rcases h with ht | ⟨u, hu, same⟩ | outside
  · exact .inl ht
  · rcases List.mem_cons.1 hu with rfl | hu
    · rw [Visited.has_congr same] at visited
      exact .inl visited
    · exact .inr (.inl ⟨u, hu, same⟩)
  · exact .inr (.inr outside)

/-- Where a thread is visited, no place is lost. -/
lemma Covered.visit (size : v.size = p.code.size) (more) (h : p.Covered v (w :: ts) t) :
    p.Covered (v.add w) (more ++ ts) t := by
  rcases h with ht | ⟨u, hu, same⟩ | outside
  · exact .inl (Visited.has_add.2 (.inl ht))
  · rcases List.mem_cons.1 hu with rfl | hu
    · rcases Nat.lt_or_ge u.pc v.size with lt | ge
      · exact .inl (Visited.has_add.2 (.inr ⟨same, lt⟩))
      · rw [size, show u.pc = t.pc from congrArg Prod.fst same] at ge
        exact .inr (.inr ge)
    · exact .inr (.inl ⟨u, List.mem_append_right more hu, same⟩)
  · exact .inr (.inr outside)

/-- Where a visited thread is passed over, ways still lead to covered places. -/
lemma Closed.passOver (visited : v.has w = true) (h : p.Closed text v (w :: ts)) :
    p.Closed text v ts := by
  intro t ht
  obtain ⟨more, step, next⟩ := h t ht
  exact ⟨more, step, fun u hu => (next u hu).passOver visited⟩

/-- Where a thread is visited and goes on, ways still lead to covered places. -/
lemma Closed.visit (size : v.size = p.code.size) (h : p.Closed text v (w :: ts))
    (step : p.step text w = .goOn more) : p.Closed text (v.add w) (more ++ ts) := by
  intro t ht
  rcases Visited.has_add.1 ht with old | ⟨same, -⟩
  · obtain ⟨others, step', next⟩ := h t old
    exact ⟨others, step', fun u hu => (next u hu).visit size more⟩
  · obtain ⟨others, step', same'⟩ := step_goOn_congr same step
    refine ⟨others, step', fun u hu => .inr (.inl ?_)⟩
    obtain ⟨u', hu', e⟩ := exists_place same'.symm hu
    exact ⟨u', List.mem_append_left ts hu', e⟩

/-- A first visit brings a search nearer to its end. -/
lemma visit_shorter (size : v.size = p.code.size) (step : p.step text w = .goOn more)
    (new : v.has w = false) (within : w.pos ≤ text.size) :
    2 * ((v.add w).free (text.size + 1)).card + more.length ≤
      2 * (v.free (text.size + 1)).card := by
  obtain ⟨two, -, nowhere⟩ := step_goOn step
  rcases Nat.lt_or_ge w.pc v.size with lt | ge
  · have fewer := Visited.card_free_add new lt (Nat.lt_add_one_of_le within)
    omega
  · have same := Finset.card_le_card (Visited.free_add_subset (v := v) (t := w) (text.size + 1))
    rw [nowhere (size ▸ ge), List.length_nil]
    omega

/-- When no place waits, covered places do not lead to acceptance. -/
lemma Closed.not_accepts (closed : p.Closed text v []) (covered : p.Covered v [] t) :
    ¬ p.AcceptsIn text n t saved := by
  -- from covered places the ways lead to covered places only, and none of these accepts
  induction n generalizing t with
  | zero =>
    rintro ⟨accept, -⟩
    rcases covered with visited | ⟨u, hu, -⟩ | outside
    · obtain ⟨more, step, -⟩ := closed t visited
      rw [accept] at step
      cases step
    · exact List.not_mem_nil hu
    · simp only [step, Array.getElem?_eq_none outside, reduceCtorEq] at accept
  | succ n ih =>
    rintro ⟨more, step, u, hu, run⟩
    rcases covered with visited | ⟨w, hw, -⟩ | outside
    · obtain ⟨more', step', next⟩ := closed t visited
      rw [step] at step'
      cases step'
      exact ih (next u hu) run
    · exact List.not_mem_nil hw
    · rw [(step_goOn step).2.2 outside] at hu
      exact List.not_mem_nil hu

/-- When a search comes to nothing, no covered place leads to acceptance. -/
theorem run_none {fuel} (size : v.size = p.code.size) (closed : p.Closed text v ts)
    (within : ∀ t ∈ ts, t.pos ≤ text.size)
    (enough : 2 * (v.free (text.size + 1)).card + ts.length < fuel)
    (h : p.run text fuel v ts = none) (covered : p.Covered v ts t) :
    ¬ p.AcceptsIn text n t saved := by
  -- a first visit uses up a free place, which pays for the two threads it may lead to
  induction fuel generalizing v ts t with
  | zero => exact absurd enough (Nat.not_lt_zero _)
  | succ fuel ih =>
    cases ts with
    | nil => exact closed.not_accepts covered
    | cons w ts =>
      obtain ⟨first, others⟩ := List.forall_mem_cons.1 within
      rw [List.length_cons] at enough
      rw [run] at h
      split at h
      · rename_i visited
        exact ih size (closed.passOver visited) others (by omega) h (covered.passOver visited)
      · rename_i new
        rw [Bool.not_eq_true] at new
        cases step : p.step text w with
        | accept =>
          rw [step] at h
          cases h
        | goOn more =>
          rw [step] at h
          have shorter := visit_shorter size step new first
          have within' : ∀ t ∈ more ++ ts, t.pos ≤ text.size := by
            intro t ht
            rcases List.mem_append.1 ht with ht | ht
            · exact (step_goOn step).2.1 first t ht
            · exact others t ht
          refine ih (Visited.size_add.trans size) (closed.visit size step) within' ?_ h
            (covered.visit size more)
          rw [List.length_append]
          omega

/-- A search finds something exactly when some place leads from the entry to acceptance. -/
theorem search_isSome_iff (p : Program) (text) :
    (p.search text).isSome ↔
      ∃ first ≤ text.size, ∃ n saved, p.AcceptsIn text n ⟨p.entry, first, []⟩ saved := by
  constructor
  · intro found
    obtain ⟨saved, h⟩ := Option.isSome_iff_exists.1 found
    obtain ⟨t, ht, n, run⟩ := run_sound h
    obtain ⟨first, hfirst, rfl⟩ := List.mem_map.1 ht
    exact ⟨first, Nat.le_of_lt_succ (List.mem_range.1 hfirst), n, saved, run⟩
  · rintro ⟨first, hfirst, n, saved, run⟩
    by_contra none
    rw [Option.not_isSome_iff_eq_none, search] at none
    -- at first nothing is visited, and every place to begin waits
    refine run_none ?_ ?_ ?_ ?_ none ?_ run
    · exact Array.size_replicate
    · intro t ht
      rw [Visited.has_replicate] at ht
      cases ht
    · intro t ht
      obtain ⟨pos, hpos, rfl⟩ := List.mem_map.1 ht
      exact Nat.le_of_lt_succ (List.mem_range.1 hpos)
    · have places := Visited.card_free_le (Array.replicate p.code.size 0) (text.size + 1)
      rw [Array.size_replicate] at places
      rw [List.length_map, List.length_range, Nat.mul_assoc]
      omega
    · exact .inr (.inl ⟨_, List.mem_map_of_mem (List.mem_range.2 (Nat.lt_succ_of_le hfirst)), rfl⟩)

end Program

namespace Expr

variable {e : Expr} {s : List Char}

/-- The program of an expression comes to acceptance by the ways of the expression, and saves where
these begin and end. -/
theorem program_acceptsIn (e : Expr) (text) (a : Spot) (saved) :
    (∃ n, e.program.AcceptsIn text n (a.at e.program.entry) saved) ↔
      ∃ b, e.Matches text (a.save 0) b ∧ (1, b.pos) :: b.saved = saved := by
  have builds := (Program.Builds.save text 0).comp
    ((prepend_builds text e).comp (Program.Builds.save text 1))
  have connects : e.program.Connects text _ e.program.entry 0 :=
    builds.connects (q := .done) fun _ _ _ => rfl
  have accept : e.program.code[0]? = some .accept :=
    (builds.adds .done).keeps (by decide)
  constructor
  · rintro ⟨n, run⟩
    obtain ⟨m, _, -, ⟨_, rfl, b, way, rfl⟩, run⟩ := connects.sound run
    exact ⟨b, way, ((Program.acceptsIn_accept accept).1 run).2⟩
  · rintro ⟨b, way, rfl⟩
    exact connects.complete ⟨_, rfl, b, way, rfl⟩ ((Program.acceptsIn_accept accept).2 ⟨rfl, rfl⟩)

/-- An expression is found exactly where one of its ways begins. -/
theorem find?_isSome_iff (e : Expr) (s) :
    (e.find? s).isSome ↔
      ∃ first ≤ s.length, ∃ b, e.Matches s.toArray ⟨first, [(0, first)]⟩ b := by
  rw [find?, Option.isSome_map, Program.search_isSome_iff, List.size_toArray]
  constructor
  · rintro ⟨first, hfirst, n, saved, run⟩
    obtain ⟨b, way, -⟩ := (program_acceptsIn e s.toArray ⟨first, []⟩ saved).1 ⟨n, run⟩
    exact ⟨first, hfirst, b, way⟩
  · rintro ⟨first, hfirst, b, way⟩
    obtain ⟨n, run⟩ := (program_acceptsIn e s.toArray ⟨first, []⟩ _).2 ⟨b, way, rfl⟩
    exact ⟨first, hfirst, n, _, run⟩

/-- The groups that are found are those of one of its ways. -/
theorem find?_some {groups} (h : e.find? s = some groups) :
    ∃ first ≤ s.length, ∃ b, e.Matches s.toArray ⟨first, [(0, first)]⟩ b ∧
      groups = (List.range e.groupCount).map (groupText s.toArray ((1, b.pos) :: b.saved)) := by
  obtain ⟨saved, found, rfl⟩ := Option.map_eq_some_iff.1 h
  obtain ⟨t, ht, n, run⟩ := Program.run_sound found
  obtain ⟨first, hfirst, rfl⟩ := List.mem_map.1 ht
  rw [List.mem_range, List.size_toArray] at hfirst
  obtain ⟨b, way, rfl⟩ := (program_acceptsIn e s.toArray ⟨first, []⟩ saved).1 ⟨n, run⟩
  exact ⟨first, Nat.le_of_lt_succ hfirst, b, way, rfl⟩

end Expr

end Transcript.Pattern
