import Mathlib.Tactic.Common
import Transcript.Proofs.Pattern.Builders
import Transcript.Proofs.Pattern.Search

/-!
# Searches from the beginning

Every instruction of the program of an expression leads to instructions of that program
(`Expr.prepend_linked`), so that a search that is inside it stays there, whatever the program is extended
by (`Program.run_extends`). An expression with a beginning of the text in front of it therefore finds what
the expression finds on its own, where one of its ways begins with the text (`Expr.search_start_eq`).
-/

namespace Transcript.Pattern

/-- The places of the instructions that may come next. -/
def Instr.targets : Instr → List Nat
  | .accept | .fail => []
  | .char _ next | .set _ next | .look _ next | .save _ next => [next]
  | .fork first second => [first, second]

namespace Program

/-- A program is entered at one of its instructions, and each of them leads to its instructions. -/
structure Linked (p : Program) : Prop where
  entry : p.entry < p.code.size
  targets {k : Nat} {i : Instr} : p.code[k]? = some i → ∀ next ∈ i.targets, next < p.code.size

/-- A builder adds instructions, and keeps programs linked. -/
structure Links (f : Program → Program) : Prop where
  grows q : q.code.size ≤ (f q).code.size
  linked {q : Program} : q.Linked → (f q).Linked

/-! ## Builders -/

section Builders

variable {p q : Program} {i : Nat → Instr} {f : Program → Program} {greedy reads : Bool} {leave n : Nat}

/-- The program that accepts at once is linked. -/
lemma Linked.done : done.Linked where
  entry := Nat.one_pos
  targets {k i} h next hnext := by
    cases k with
    | zero =>
      cases h
      exact absurd hnext List.not_mem_nil
    | succ k => cases h

/-- A program is linked wherever it is entered. -/
lemma Linked.enter (h : p.Linked) (lt : n < p.code.size) : (p.enter n).Linked :=
  ⟨lt, h.targets⟩

/-- An instruction in front leads to the program. -/
lemma Linked.before (h : p.Linked) (onward : ∀ next ∈ (i p.entry).targets, next < p.code.size) :
    (p.before i).Linked where
  entry := by
    rw [size_before]
    exact Nat.lt_succ_self _
  targets {k j} code next hnext := by
    rw [Program.before, Array.getElem?_push] at code
    rw [size_before]
    apply Nat.lt_succ_of_lt
    split at code
    · cases code
      exact onward next hnext
    · exact h.targets code next hnext

/-- An instruction in front that leads to the entry. -/
lemma Linked.before_entry (h : p.Linked) (only : (i p.entry).targets = [p.entry]) :
    (p.before i).Linked := by
  refine h.before fun next hnext => ?_
  rw [only, List.mem_singleton] at hnext
  rw [hnext]
  exact h.entry

/-- A fork leads either way. -/
lemma mem_targets_forkOf {stay next} (h : next ∈ (forkOf greedy stay leave).targets) :
    next = stay ∨ next = leave := by
  cases greedy with
  | true => exact List.mem_pair.1 h
  | false => exact (List.mem_pair.1 h).symm

/-- A fork in front that may leave to a place of the program. -/
lemma Linked.orLeave (h : p.Linked) (lt : leave < p.code.size) : (p.orLeave greedy leave).Linked := by
  refine h.before fun next hnext => ?_
  rcases mem_targets_forkOf hnext with rfl | rfl
  · exact h.entry
  · exact lt

/-- A loop adds at least its fork. -/
lemma Links.loop_grows (h : Links f) (q : Program) : q.code.size < (q.loop greedy f).code.size := by
  have all := h.grows (q.before fun _ => .fail)
  rw [size_before] at all
  rw [Program.loop, Array.set!_eq_setIfInBounds, Array.size_setIfInBounds]
  exact all

/-- A loop leads to its body or on to the program. -/
lemma Links.loop (h : Links f) (hq : q.Linked) : (q.loop greedy f).Linked := by
  have inner : (f (q.before fun _ => .fail)).Linked :=
    h.linked (hq.before fun _ hnext => absurd hnext List.not_mem_nil)
  have grows : q.code.size < (q.loop greedy f).code.size := h.loop_grows q
  have size : (q.loop greedy f).code.size = (f (q.before fun _ => .fail)).code.size := by
    rw [Program.loop, Array.set!_eq_setIfInBounds, Array.size_setIfInBounds]
  refine ⟨size ▸ inner.entry, fun {k j} code next hnext => ?_⟩
  rw [Program.loop, Array.set!_eq_setIfInBounds, Array.getElem?_setIfInBounds] at code
  split at code
  · -- the fork at the place that was kept free
    split at code
    · cases code
      rcases mem_targets_forkOf hnext with rfl | rfl
      · exact size ▸ inner.entry
      · exact Nat.lt_trans hq.entry grows
    · cases code
  · exact size ▸ inner.targets code next hnext

/-- Any number of times. -/
lemma Links.star (h : Links f) (hq : q.Linked) : (q.star greedy reads f).Linked := by
  have inner : (q.loop greedy f).Linked := h.loop hq
  have grows : q.code.size < (q.loop greedy f).code.size := h.loop_grows q
  cases reads with
  | true => exact inner.enter grows
  | false => exact inner.orLeave (Nat.lt_trans hq.entry grows)

/-- A number of times. -/
lemma Links.times (h : Links f) (hq : q.Linked) : (times f n q).Linked := by
  induction n generalizing q with
  | zero => exact hq
  | succ n ih => exact ih (h.linked hq)

/-- A number of times at most. -/
lemma Links.atMost (h : Links f) (hq : q.Linked) (lt : leave < q.code.size) :
    (atMost greedy f leave n q).Linked := by
  induction n generalizing q with
  | zero => exact hq
  | succ n ih =>
    have lt' : leave < (f q).code.size := Nat.lt_of_lt_of_le lt (h.grows q)
    refine ih ((h.linked hq).orLeave lt') ?_
    rw [Program.orLeave, size_before]
    exact Nat.lt_succ_of_lt lt'

/-- A number of times between two bounds. -/
lemma Links.repeated (h : Links f) (hq : q.Linked) (min max) :
    (q.repeated min max greedy reads f).Linked := by
  cases max with
  | some max => exact h.times (h.atMost hq hq.entry)
  | none =>
    cases min with
    | zero => exact h.star hq
    | succ min => exact h.times (h.loop hq)

end Builders

/-! ## Runs inside a program -/

section Runs

variable {p p' r : Program} {text : Array Char} {v v' : Visited} {t u : Thread} {ts us : List Thread}
  {saved : List (Nat × Nat)} {fuel fuel' : Nat}

/-- What a thread goes on with is where its instruction leads to. -/
lemma step_targets {more} (h : p.step text t = .goOn more) :
    ∀ u ∈ more, ∃ i, p.code[t.pc]? = some i ∧ u.pc ∈ i.targets := by
  have single {i} {u : Thread} (code : p.code[t.pc]? = some i) (only : i.targets = [u.pc]) :
      ∀ w ∈ [u], ∃ i, p.code[t.pc]? = some i ∧ w.pc ∈ i.targets := by
    intro w hw
    rw [List.mem_singleton.1 hw]
    exact ⟨i, code, only ▸ List.mem_singleton_self _⟩
  have none : ∀ w ∈ ([] : List Thread), ∃ i, p.code[t.pc]? = some i ∧ w.pc ∈ i.targets := nofun
  unfold step at h
  split at h
  · cases h
  · rename_i code
    split at h <;> cases h
    · exact single code rfl
    · exact none
  · rename_i code
    split at h <;> cases h
    · exact single code rfl
    · exact none
  · rename_i code
    split at h <;> cases h
    · exact single code rfl
    · exact none
  · rename_i code
    cases h
    exact single code rfl
  · rename_i first second code
    cases h
    intro w hw
    rcases List.mem_pair.1 hw with rfl | rfl
    · exact ⟨_, code, List.mem_cons_self⟩
    · exact ⟨_, code, List.mem_cons_of_mem _ List.mem_cons_self⟩
  · cases h
    exact none
  · cases h
    exact none

/-- A search that finds something finds it with more steps and with more threads behind. -/
lemma run_more (h : p.run text fuel v ts = some saved) (le : fuel ≤ fuel') :
    p.run text fuel' v (ts ++ us) = some saved := by
  induction fuel generalizing fuel' v ts with
  | zero => cases h
  | succ fuel ih =>
    obtain ⟨k, rfl⟩ : ∃ k, fuel' = k + 1 := Nat.exists_eq_succ_of_ne_zero (by omega)
    have le := Nat.le_of_succ_le_succ le
    -- threads are taken from the front, so those behind are never reached
    cases ts with
    | nil => cases h
    | cons t ts =>
      rw [run] at h
      rw [List.cons_append, run]
      split at h
      · rename_i visited
        rw [if_pos visited]
        exact ih h le
      · rename_i new
        rw [if_neg new]
        cases step : p.step text t with
        | accept =>
          rw [step] at h
          exact h
        | goOn more =>
          rw [step] at h
          have found := ih h le
          rw [List.append_assoc] at found
          exact found

/-- A search inside a program is the same in whatever extends it. -/
theorem run_extends (linked : r.Linked) (h : p.Extends r) (h' : p'.Extends r)
    (size : r.code.size ≤ v.size) (size' : r.code.size ≤ v'.size)
    (same : ∀ t : Thread, t.pc < r.code.size → v.has t = v'.has t)
    (inside : ∀ t ∈ ts, t.pc < r.code.size) :
    p.run text fuel v ts = p'.run text fuel v' ts := by
  induction fuel generalizing v v' ts with
  | zero => rfl
  | succ fuel ih =>
    cases ts with
    | nil => rfl
    | cons t ts =>
      obtain ⟨first, others⟩ := List.forall_mem_cons.1 inside
      have code : p.code[t.pc]? = p'.code[t.pc]? := (h.keeps first).trans (h'.keeps first).symm
      have step : p.step text t = p'.step text t := by
        simp only [Program.step, code]
      rw [run, run, same t first, step]
      split
      · exact ih size size' same others
      · cases goes : p'.step text t with
        | accept => rfl
        | goOn more =>
          refine ih (size.trans_eq Visited.size_add.symm) (size'.trans_eq Visited.size_add.symm)
            (fun u hu => ?_) fun u hu => ?_
          · -- the same places are visited in both
            rw [Bool.eq_iff_iff, Visited.has_add, Visited.has_add, same u hu]
            have lt := Nat.lt_of_lt_of_le first size
            have lt' := Nat.lt_of_lt_of_le first size'
            simp only [lt, lt']
          · rcases List.mem_append.1 hu with new | old
            · obtain ⟨i, code', target⟩ := step_targets goes u new
              exact linked.targets ((h'.keeps first).symm.trans code') u.pc target
            · exact others u old

/-- A thread that goes on with one thread is followed by that one. -/
lemma run_single (new : v.has t = false) (step : p.step text t = .goOn [u]) :
    p.run text (fuel + 1) v (t :: ts) = p.run text fuel (v.add t) (u :: ts) := by
  rw [run, new, step]
  rfl

/-- A visit of one instruction is none of another. -/
lemma has_add_of_ne (other : u.pc ≠ t.pc) : (v.add u).has t = v.has t := by
  rw [Bool.eq_iff_iff, Visited.has_add]
  constructor
  · rintro (old | ⟨same, -⟩)
    · exact old
    · exact absurd (congrArg Prod.fst same) other
  · exact .inl

/-- The steps that a search may take. -/
def stepLimit (p : Program) (text : Array Char) : Nat :=
  2 * p.code.size * (text.size + 1) + (text.size + 1) + 1

/-- Where acceptance is reached from the beginning of the text, a search from there reaches it. -/
lemma exists_run_start {n} (run : p.AcceptsIn text n ⟨p.entry, 0, []⟩ saved) :
    ∃ saved, p.run text (p.stepLimit text) (Array.replicate p.code.size 0) [⟨p.entry, 0, []⟩] =
      some saved := by
  rw [← Option.isSome_iff_exists]
  by_contra none
  rw [Option.not_isSome_iff_eq_none] at none
  refine run_none Array.size_replicate ?_ ?_ ?_ none (.inr (.inl ⟨_, List.mem_cons_self, rfl⟩)) run
  · intro t ht
    rw [Visited.has_replicate] at ht
    cases ht
  · intro t ht
    rw [List.mem_singleton.1 ht]
    exact Nat.zero_le _
  · have places := Visited.card_free_le (Array.replicate p.code.size 0) (text.size + 1)
    rw [Array.size_replicate] at places
    rw [List.length_singleton, stepLimit, Nat.mul_assoc]
    omega

/-- What a search from the beginning of the text finds is what the search finds. -/
lemma search_of_run_start (le : fuel ≤ p.stepLimit text)
    (h : p.run text fuel (Array.replicate p.code.size 0) [⟨p.entry, 0, []⟩] = some saved) :
    p.search text = some saved := by
  rw [search]
  simp only [List.range_succ_eq_map, List.map_cons]
  exact run_more h le

/-- A place that is saved. -/
lemma Extends.step_save {slot pos} (h : p.Extends (r.before (.save slot))) :
    p.step text ⟨(r.before (.save slot)).entry, pos, saved⟩ =
      .goOn [⟨r.entry, pos, (slot, pos) :: saved⟩] := by
  simp only [step, h.code_entry]

/-- A beginning of the text that is asked for there. -/
lemma Extends.step_start (h : p.Extends (r.before (.look .start))) :
    p.step text ⟨(r.before (.look .start)).entry, 0, saved⟩ = .goOn [⟨r.entry, 0, saved⟩] := by
  have holds := (holds_start_iff (Nat.zero_le text.size)).2 rfl
  simp only [step, h.code_entry, holds, if_true]

/-- A beginning of the text that is asked for behind the first instruction does not change what is found,
where acceptance is reached from the beginning of the text. -/
theorem search_start_eq (linked : r.Linked) {slot n}
    (run : (r.before (.save slot)).AcceptsIn text n ⟨(r.before (.save slot)).entry, 0, []⟩ saved) :
    ((r.before (.look .start)).before (.save slot)).search text =
      (r.before (.save slot)).search text := by
  obtain ⟨saved, own⟩ := exists_run_start run
  rw [search_of_run_start (Nat.le_refl _) own]
  generalize looking : r.before (.look .start) = q
  have ext : q.Extends r := looking ▸ before_extends r _
  have start : q.entry = r.code.size := looking ▸ rfl
  have size : q.code.size = r.code.size + 1 := looking ▸ size_before r _
  have second : (q.before (.save slot)).step text ⟨q.entry, 0, [(slot, 0)]⟩ =
      .goOn [⟨r.entry, 0, [(slot, 0)]⟩] := by
    subst looking
    exact (before_extends _ _).step_start
  -- behind these instructions both searches are inside the same program
  obtain ⟨fuel, limit⟩ : ∃ fuel, (r.before (.save slot)).stepLimit text = fuel + 1 := ⟨_, rfl⟩
  have more : fuel + 2 ≤ (q.before (.save slot)).stepLimit text := by
    rw [stepLimit, size_before] at limit
    rw [stepLimit, size_before, size, Nat.mul_succ 2 (_ + 1), Nat.add_mul]
    omega
  rw [limit, run_single (Visited.has_replicate _ _) (Extends.refl _).step_save] at own
  refine search_of_run_start more ?_
  rw [run_single (Visited.has_replicate _ _) (Extends.refl _).step_save, run_single ?_ second, ← own]
  · refine run_extends linked ((before_extends q _).trans ext) (before_extends r _) ?_ ?_
      (fun t ht => ?_) ?_
    · rw [Visited.size_add, Visited.size_add, Array.size_replicate, size_before, size]
      omega
    · rw [Visited.size_add, Array.size_replicate, size_before]
      omega
    · have before : t.pc < q.code.size := size ▸ Nat.lt_succ_of_lt ht
      rw [has_add_of_ne (Nat.ne_of_gt (start ▸ ht)), has_add_of_ne (Nat.ne_of_gt before),
        has_add_of_ne (Nat.ne_of_gt ht), Visited.has_replicate, Visited.has_replicate]
    · intro t ht
      rw [List.mem_singleton.1 ht]
      exact linked.entry
  · have before : q.entry < q.code.size := by
      rw [start, size]
      exact Nat.lt_succ_self _
    rw [has_add_of_ne (Nat.ne_of_gt before), Visited.has_replicate]

end Runs

end Program

namespace Expr

open Program (Links Linked)

mutual

/-- An expression in front of a linked program. -/
theorem prepend_linked : ∀ (e : Expr) {q : Program}, q.Linked → (e.prepend q).Linked
  | .empty, _, h => h
  | .literal cs, _, h => by
    rw [prepend]
    induction cs with
    | nil => exact h
    | cons c cs ih => exact ih.before_entry rfl
  | .set s, q, h => by
    rw [prepend]
    split
    · exact h.before fun _ hnext => absurd hnext List.not_mem_nil
    · exact h.before_entry rfl
  | .look _, _, h => h.before_entry rfl
  | .repeat min max _ body, _, h =>
    Links.repeated ⟨fun q => ((prepend_builds #[] body).adds q).grows, prepend_linked body⟩ h min max
  | .group _ body, _, h => (prepend_linked body (h.before_entry rfl)).before_entry rfl
  | .concat parts, _, h => prependAll_linked parts h
  | .choice branches, _, h => prependEach_linked branches h

/-- Expressions one after the other in front of a linked program. -/
theorem prependAll_linked : ∀ (es : List Expr) {q : Program}, q.Linked → (prependAll es q).Linked
  | [], _, h => h
  | e :: es, _, h => prepend_linked e (prependAll_linked es h)

/-- A choice in front of a linked program. -/
theorem prependEach_linked : ∀ (es : List Expr) {q : Program}, q.Linked → (prependEach es q).Linked
  | [], _, h => h.before fun _ hnext => absurd hnext List.not_mem_nil
  | [e], _, h => prepend_linked e h
  | e :: f :: es, q, h => by
    have others : (prependEach (f :: es) q).Linked := prependEach_linked (f :: es) h
    have grows : q.code.size ≤ (prependEach (f :: es) q).code.size :=
      ((prependEach_builds #[] (f :: es)).adds q).grows
    have first : (e.prepend ((prependEach (f :: es) q).enter q.entry)).Linked :=
      prepend_linked e (others.enter (Nat.lt_of_lt_of_le h.entry grows))
    have grows' := ((prepend_builds #[] e).adds ((prependEach (f :: es) q).enter q.entry)).grows
    exact first.orLeave (Nat.lt_of_lt_of_le others.entry grows')

end

/-! ## Rows in front of programs -/

/-- A row is put in front of a program part by part. -/
lemma prepend_row (es : List Expr) : (row es).prepend = prependAll es := by
  have append (es fs : List Expr) : prependAll (es ++ fs) = fun q => prependAll es (prependAll fs q) := by
    induction es with
    | nil => rfl
    | cons e es ih =>
      funext q
      rw [List.cons_append, prependAll, ih, prependAll]
  have parts (e es) : prependAll (rowParts e ++ es) = prependAll (e :: es) := by
    funext q
    rw [append, prependAll]
    unfold rowParts
    split <;> rfl
  -- joined literals are put in front character by character, as they were
  have joined (e es) : prependAll (consPart e es) = prependAll (e :: es) := by
    unfold consPart
    split
    · funext q
      simp only [prependAll, prepend, List.foldr_append]
    · rfl
  have whole := row_eq prependAll parts joined
    (fun e _ _ same => by funext q; rw [prependAll, prependAll, same]) es
  rw [← whole]
  rfl

/-- Where a way of an expression begins with the text, a beginning of the text in front of the expression
does not change what a search finds. -/
theorem search_start_eq {e : Expr} {text b} (way : e.Matches text ⟨0, [(0, 0)]⟩ b) :
    (row [.look .start, e]).program.search text = e.program.search text := by
  obtain ⟨n, accepts⟩ := (program_acceptsIn e text ⟨0, []⟩ _).2 ⟨b, way, rfl⟩
  have shape : (row [.look .start, e]).program = ((e.prepend (Program.done.before (.save 1))).before
      (.look .start)).before (.save 0) := by
    rw [program, prepend_row]
    rfl
  have linked : (e.prepend (Program.done.before (.save 1))).Linked :=
    prepend_linked e (Linked.done.before_entry rfl)
  rw [shape]
  exact Program.search_start_eq linked accepts

end Expr

end Transcript.Pattern
