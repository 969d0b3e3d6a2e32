import Mathlib.Tactic.Common
import Transcript.Deadline

/-!
# Polls of a child

A child is polled up to the first reading that decides (`await_of_decided`). What this reading says and what has
come of the output by then determine the outcome (`Concludes`), and the child is left alone if it was seen to end
and killed and waited for if it was not. A child that is polled in intervals comes to what its decisive reading
alone would come to (`await_timeline`).
-/

namespace Transcript.Deadline

variable {timeout : Duration} {output : Nat → Option Text.Bytes} {r : Reading}
variable {before rest : List Reading} {outcome : Except Mishap RunOutcome}

/-- A reading that decides: the child has ended or is lost sight of, or it runs on when the time is up. -/
def Decides (timeout : Duration) (r : Reading) : Prop :=
  r.poll ≠ .running ∨ timeout.nanos < r.elapsed

instance (timeout) (r : Reading) : Decidable (Decides timeout r) :=
  inferInstanceAs (Decidable (r.poll ≠ .running ∨ timeout.nanos < r.elapsed))

/-- What a child comes to by the reading that decides. It succeeds only with status 0 and all of its output in the
time that remains, ends without success where it was seen to, whatever the time, is lost only where it was lost
sight of, and has run for too long otherwise. -/
structure Concludes (timeout : Duration) (output : Nat → Option Text.Bytes) (r : Reading)
    (outcome : Except Mishap RunOutcome) : Prop where
  success_iff : ∀ text, outcome = .ok (.success text) ↔ r.poll = .ended (.exited 0) ∧
    ∃ bytes, output (timeout.nanos - r.elapsed) = some bytes ∧ text = (Text.decodeLossy bytes).toList
  exited_iff : ∀ code, outcome = .ok (.exited code) ↔ code ≠ 0 ∧ r.poll = .ended (.exited code)
  signalled_iff : ∀ number, outcome = .ok (.signalled number) ↔ r.poll = .ended (.signalled number)
  error_iff : ∀ mishap, outcome = .error mishap ↔ ∃ cause, mishap = .lost cause ∧ r.poll = .lost cause
  timedOut_iff : outcome = .ok .timedOut ↔
    r.poll = .running ∨ r.poll = .ended (.exited 0) ∧ output (timeout.nanos - r.elapsed) = none

/-- What is done to a child after the poll that decides. -/
def Poll.lastActs : Poll → List Act
  | .ended _ => []
  | _ => [.kill, .wait]

section Steps

/-- What an end comes to. -/
lemma concludes_ended {how elapsed} :
    Concludes timeout output ⟨.ended how, elapsed⟩ (.ok (outcomeOf output (timeout.nanos - elapsed) how)) := by
  cases how with
  | exited code =>
    by_cases zero : code = 0
    · subst zero
      rw [outcomeOf]
      cases came : output (timeout.nanos - elapsed) with
      | none => constructor <;> simp [came, eq_comm]
      | some bytes => constructor <;> simp [came, eq_comm]
    · have unsuccessful : outcomeOf output (timeout.nanos - elapsed) (.exited code) = .exited code := by
        rw [outcomeOf]
        exact zero
      have other (code') (same : code = code') : code' ≠ 0 := same ▸ zero
      rw [unsuccessful]
      constructor
      case exited_iff => simpa using other
      all_goals simp [zero]
  | signalled number => constructor <;> simp [outcomeOf]

/-- A reading that does not decide is followed by the next. -/
lemma await_goOn (goesOn : ¬ Decides timeout r) (rest) :
    await timeout output (r :: rest) = (await timeout output rest).map .behindPoll := by
  obtain ⟨poll, elapsed⟩ := r
  rw [Decides, not_or, not_not] at goesOn
  obtain ⟨rfl, inTime⟩ := goesOn
  rw [await]
  exact if_neg inTime

/-- A reading that decides is the last one. -/
lemma await_decided (decides : Decides timeout r) (output) :
    ∃ outcome, Concludes timeout output r outcome ∧
      ∀ rest, await timeout output (r :: rest) = some ⟨outcome, .poll :: r.poll.lastActs⟩ := by
  obtain ⟨poll, elapsed⟩ := r
  cases poll with
  | running =>
    have late : timeout.nanos < elapsed := decides.resolve_left fun runs => runs rfl
    refine ⟨.ok .timedOut, ?_, ?_⟩
    · constructor <;> simp
    · intro rest
      rw [await]
      exact if_pos late
  | ended how => exact ⟨_, concludes_ended, fun _ => rfl⟩
  | lost cause =>
    refine ⟨.error (.lost cause), ?_, fun _ => rfl⟩
    constructor <;> simp [eq_comm]

end Steps

section Runs

/-- Readings that do not decide add a poll each. -/
lemma await_append (goOn : ∀ q ∈ before, ¬ Decides timeout q) (rest) :
    await timeout output (before ++ rest) = (await timeout output rest).map fun w =>
      { w with acts := List.replicate before.length .poll ++ w.acts } := by
  induction before with
  | nil => exact Option.map_id'.symm
  | cons q before ih =>
    rw [List.cons_append, await_goOn (goOn q List.mem_cons_self), ih fun p hp => goOn p (List.mem_cons_of_mem q hp),
      Option.map_map]
    rfl

/-- Without a reading that decides there is always another poll. -/
theorem await_eq_none (goOn : ∀ q ∈ before, ¬ Decides timeout q) : await timeout output before = none := by
  have run : await timeout output (before ++ []) = none := await_append goOn []
  rwa [List.append_nil] at run

/-- Some reading is the first that decides. -/
lemma exists_first (decided : ∃ r ∈ rest, Decides timeout r) :
    ∃ before r after, rest = before ++ r :: after ∧ (∀ q ∈ before, ¬ Decides timeout q) ∧ Decides timeout r := by
  obtain ⟨r, mem, decides⟩ := decided
  have found : (rest.find? fun r => Decides timeout r).isSome :=
    List.find?_isSome.2 ⟨r, mem, decide_eq_true decides⟩
  obtain ⟨r, first⟩ := Option.isSome_iff_exists.1 found
  obtain ⟨decides, before, after, split, goOn⟩ := List.find?_eq_some_iff_append.1 first
  refine ⟨before, r, after, split, fun q hq => ?_, of_decide_eq_true decides⟩
  simpa using goOn q hq

end Runs

/-- Watching a child ends with the first reading that decides, if there is one. The outcome is what this reading
says; the child was polled once for each reading up to it, and is then left alone if it was seen to end, and killed
and waited for if it was not. -/
theorem await_of_decided {timeout : Duration} {readings : List Reading} (output : Nat → Option Text.Bytes)
    (decided : ∃ r ∈ readings, Decides timeout r) :
    ∃ before r after w, readings = before ++ r :: after ∧
      (∀ q ∈ before, ¬ Decides timeout q) ∧ Decides timeout r ∧
      await timeout output readings = some w ∧ Concludes timeout output r w.outcome ∧
      w.acts = List.replicate (before.length + 1) .poll ++ r.poll.lastActs := by
  obtain ⟨before, r, after, rfl, goOn, decides⟩ := exists_first decided
  obtain ⟨outcome, concludes, last⟩ := await_decided decides output
  refine ⟨before, r, after, ⟨outcome, List.replicate (before.length + 1) .poll ++ r.poll.lastActs⟩, rfl, goOn,
    decides, ?_, concludes, rfl⟩
  rw [await_append goOn, last, List.replicate_succ', List.append_assoc]
  rfl

/-- A child that is seen to have ended after the time is up has ended, and is not killed. -/
theorem await_of_decided_late :
    let readings : List Reading := [⟨.running, 1⟩, ⟨.ended (.exited 3), 9⟩, ⟨.running, 12⟩]
    (∃ r ∈ readings, Decides ⟨5⟩ r) ∧
      ∃ r ∈ readings, ∃ w, await ⟨5⟩ (fun _ => none) readings = some w ∧
        r.poll = .ended (.exited 3) ∧ w.acts = [.poll, .poll] := by
  intro readings
  have decided : ∃ r ∈ readings, Decides ⟨5⟩ r := by decide
  obtain ⟨before, r, after, w, split, _, _, returned, concludes, _⟩ := await_of_decided (fun _ => none) decided
  have same : w = ⟨.ok (.exited 3), [.poll, .poll]⟩ := (Option.some.inj returned).symm
  subst same
  refine ⟨decided, r, ?_, _, returned, ((concludes.exited_iff 3).1 rfl).2, rfl⟩
  rw [split]
  exact List.mem_append_right before List.mem_cons_self

section Timeline

/-- The reading of a poll of a child that ends at a time or runs on. -/
def reading (ending : Option (Ending × Nat)) (k : Nat) : Reading where
  poll := match ending with
    | some (how, time) => if time ≤ pollTime k then .ended how else .running
    | none => .running
  elapsed := pollTime k

variable {ending : Option (Ending × Nat)}

lemma le_pollTime_iff {time k} : time ≤ pollTime k ↔ pollFrom time ≤ k := by
  simp only [pollTime, pollFrom, firstPoll, pollInterval]
  omega

lemma pollFrom_pollTime (k) : pollFrom (pollTime k) = k := by
  simp only [pollTime, pollFrom, firstPoll, pollInterval]
  omega

lemma decides_reading_iff {k} :
    Decides timeout (reading ending k) ↔
      (∃ how time, ending = some (how, time) ∧ pollFrom time ≤ k) ∨ pollFrom (timeout.nanos + 1) ≤ k := by
  rw [Decides, ← le_pollTime_iff, Nat.succ_le_iff]
  apply or_congr_left
  rcases ending with _ | ⟨how, time⟩
  · simp [reading]
  · simp [reading, le_pollTime_iff]

/-- The decisive reading is the first one that decides. -/
lemma exists_decisive (timeout ending) :
    ∃ k ≤ pollFrom (timeout.nanos + 1), decisive timeout ending = reading ending k ∧
      Decides timeout (reading ending k) ∧ ∀ j < k, ¬ Decides timeout (reading ending j) := by
  simp only [decides_reading_iff]
  rcases ending with _ | ⟨how, time⟩
  · refine ⟨pollFrom (timeout.nanos + 1), Nat.le_refl _, rfl, .inr (Nat.le_refl _), fun j earlier => ?_⟩
    simpa using earlier
  · have order : killTime timeout < pollTime (pollFrom time) ↔ pollFrom (timeout.nanos + 1) < pollFrom time := by
      rw [killTime, ← Nat.not_le, ← Nat.not_le, le_pollTime_iff, pollFrom_pollTime]
    by_cases late : pollFrom (timeout.nanos + 1) < pollFrom time
    · refine ⟨pollFrom (timeout.nanos + 1), Nat.le_refl _, ?_, .inr (Nat.le_refl _), fun j earlier => ?_⟩
      · have runs : ¬ time ≤ killTime timeout := fun ends => absurd (le_pollTime_iff.1 ends) (Nat.not_le.2 late)
        rw [decisive, if_pos (order.2 late)]
        exact (congrArg (Reading.mk · _) (if_neg runs)).symm
      · simp
        omega
    · refine ⟨pollFrom time, Nat.not_lt.1 late, ?_, .inl ⟨how, time, rfl, Nat.le_refl _⟩, fun j earlier => ?_⟩
      · rw [decisive, if_neg fun later => late (order.1 later)]
        exact (congrArg (Reading.mk · _) (if_pos (le_pollTime_iff.2 (Nat.le_refl _)))).symm
      · simp
        omega

/-- A child that is polled in intervals, for as long as the time limit asks at least, comes to what its decisive
reading alone comes to. -/
theorem await_timeline (timeout output ending) {n} (enough : pollFrom (timeout.nanos + 1) < n) :
    (await timeout output ((List.range n).map (reading ending))).map Watched.outcome =
      (await timeout output [decisive timeout ending]).map Watched.outcome := by
  obtain ⟨k, within, same, decides, goOn⟩ := exists_decisive timeout ending
  obtain ⟨more, rfl⟩ : ∃ more, n = k + (more + 1) := ⟨n - (k + 1), by omega⟩
  have notYet : ∀ q ∈ (List.range k).map (reading ending), ¬ Decides timeout q := by
    intro q hq
    obtain ⟨j, hj, rfl⟩ := List.mem_map.1 hq
    exact goOn j (List.mem_range.1 hj)
  obtain ⟨rest, polls⟩ : ∃ rest, (List.range (k + (more + 1))).map (reading ending) =
      (List.range k).map (reading ending) ++ reading ending k :: rest := by
    rw [List.range_add, List.map_append, List.range_succ_eq_map]
    exact ⟨_, rfl⟩
  obtain ⟨outcome, _, last⟩ := await_decided decides output
  rw [polls, same, await_append notYet, last, last]
  rfl

end Timeline

end Transcript.Deadline
