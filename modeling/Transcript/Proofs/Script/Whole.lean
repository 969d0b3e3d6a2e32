import Mathlib.Tactic.Common
import Transcript.Proofs.Script.Reading

/-!
# Reading to the end

All instructions that a reader still has, read by one expansion (`Reader.all`): one equation for each of
the things that can come of a call, and the instructions that are counted (`count_eq`).
-/

namespace Transcript.Script

section All

variable {expand : List Char → Except Fault (List Char)} {r : Reader}

/-- Where something is read, its last line stands behind those that were read before. -/
lemma Reader.line_lt_next {σ : Type} {expand : Expander σ} {state}
    (e : (r.next expand state).result ≠ .ok none) : r.line < (r.next expand state).reader.line := by
  obtain ⟨taken, some, -, count⟩ := Reader.next_taken e
  have length := List.length_pos_iff.2 some
  omega

/-- All instructions up to the end of a script. -/
def Reader.all (expand : List Char → Except Fault (List Char)) (r : Reader) :
    Except Misread (List Instruction) :=
  match _ : (r.next (.ofFunction expand) ()).result with
  | .error fault => .error ⟨(r.next (.ofFunction expand) ()).reader.line, fault⟩
  | .ok none => .ok []
  | .ok (some i) => (all expand (r.next (.ofFunction expand) ()).reader).map (i :: ·)
termination_by r.rest.length
decreasing_by
  apply Reader.next_some_shorter
  assumption

/-- Nothing is read where nothing is left. -/
lemma Reader.all_end (e : (r.next (.ofFunction expand) ()).result = .ok none) :
    r.all expand = .ok [] := by
  rw [Reader.all]
  split <;> rename_i e' <;> rw [e] at e' <;> cases e'

/-- A fault ends the reading at its line. -/
lemma Reader.all_fault {f} (e : (r.next (.ofFunction expand) ()).result = .error f) :
    r.all expand = .error ⟨(r.next (.ofFunction expand) ()).reader.line, f⟩ := by
  rw [Reader.all]
  split <;> rename_i e' <;> rw [e] at e' <;> cases e'
  rfl

/-- An instruction stands in front of those behind it. -/
lemma Reader.all_goOn {i} (e : (r.next (.ofFunction expand) ()).result = .ok (some i)) :
    r.all expand = ((r.next (.ofFunction expand) ()).reader.all expand).map (i :: ·) := by
  rw [Reader.all]
  split <;> rename_i e' <;> rw [e] at e' <;> cases e'
  rfl

/-- A fault is found behind the lines that were read before. -/
lemma Reader.line_lt_of_all_error {m} (e : r.all expand = .error m) : r.line < m.line := by
  generalize length : r.rest.length = n
  induction n using Nat.strongRecOn generalizing r with
  | ind n ih =>
    rcases read : (r.next (.ofFunction expand) ()).result with f | _ | i
    · rw [Reader.all_fault read] at e
      cases e
      exact Reader.line_lt_next (by rw [read]; exact nofun)
    · rw [Reader.all_end read] at e
      cases e
    · rw [Reader.all_goOn read] at e
      cases rest : (r.next (.ofFunction expand) ()).reader.all expand with
      | error m' =>
        rw [rest] at e
        cases e
        have behind := ih _ (length ▸ Reader.next_some_shorter read) rest rfl
        have taken := Reader.line_lt_next (r := r) (by rw [read]; exact nofun)
        exact Nat.lt_trans taken behind
      | ok is =>
        rw [rest] at e
        cases e

end All

/-- The instructions that are counted are those that are read. -/
lemma countFrom_eq {fuel r} (h : r.rest.length < fuel) (n) :
    countFrom fuel n r = (r.all .ok).map fun is => n + is.countP (· ≠ .comment) := by
  induction fuel generalizing r n with
  | zero => exact absurd h (Nat.not_lt_zero _)
  | succ fuel ih =>
    rw [countFrom]
    rcases e : (r.next (.ofFunction .ok) ()).result with f | _ | i
    · rw [Reader.all_fault e]
      rfl
    · rw [Reader.all_end e]
      rfl
    · have shorter := Reader.next_some_shorter e
      have behind := fun n => ih (r := (r.next (.ofFunction .ok) ()).reader) (by omega) n
      rw [Reader.all_goOn e]
      simp only [behind]
      cases (r.next (.ofFunction .ok) ()).reader.all .ok with
      | error m => cases i <;> rfl
      | ok is =>
        have counted : (i :: is).countP (· ≠ .comment) =
            is.countP (· ≠ .comment) + if i = .comment then 0 else 1 := by
          rw [List.countP_cons]
          by_cases comment : i = .comment <;> simp [comment]
        simp only [Except.map, counted, ← Nat.add_assoc]
        cases i <;> simp [Nat.add_right_comm]

/-- A script has as many instructions as are read from it, comments left out. -/
theorem count_eq (text) :
    count text = ((Reader.ofText text).all .ok).map fun is => is.countP (· ≠ .comment) := by
  have counted := countFrom_eq (Nat.lt_succ_self (Reader.ofText text).rest.length) 0
  simp only [Nat.zero_add] at counted
  exact counted

end Transcript.Script
