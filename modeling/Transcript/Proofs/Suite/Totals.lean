import Mathlib.Data.List.Induction
import Mathlib.Tactic.Common
import Transcript.Suite.Execution

/-!
# Totals of suites

Scripts are run one after the other, each in the tree that those before it have left, and none is left out
(`getElem?_runAll`). The totals count how each came out (`summarize_eq`), and the exit status can be
trusted however many scripts there are: it is 0 only when all have passed, and further scripts do not make
it smaller (`runAll_exitCode`).
-/

namespace Transcript

/-- The program under test did not do what the script expects. -/
def Verdict.isFailed : Verdict → Bool
  | .failed .. => true
  | _ => false

/-- The script could not be carried out. -/
def Verdict.isFaulty : Verdict → Bool
  | .faulty .. => true
  | _ => false

namespace Suite

variable {rs rs' : List Reported}

section Counting

/-- A further script is recorded behind the others. -/
lemma summarize_concat (rs r) : summarize (rs ++ [r]) = (summarize rs).record r.result.verdict := by
  rw [summarize, List.foldl_append]
  rfl

/-- The totals count the scripts that came out in each way. -/
lemma summarize_eq (rs) :
    summarize rs = {
      passed := rs.countP (·.result.verdict.isPassed)
      failed := rs.countP (·.result.verdict.isFailed)
      faulty := rs.countP (·.result.verdict.isFaulty) } := by
  induction rs using List.reverseRecOn with
  | nil => rfl
  | append_singleton rs r ih =>
    rw [summarize_concat, ih, List.countP_append, List.countP_append, List.countP_append,
      List.countP_singleton, List.countP_singleton, List.countP_singleton]
    cases r.result.verdict <;> rfl

/-- Every script is counted once. -/
lemma total_summarize (rs) : (summarize rs).total = rs.length := by
  induction rs using List.reverseRecOn with
  | nil => rfl
  | append_singleton rs r ih =>
    have once (s : Summary) (v : Verdict) : (s.record v).total = s.total + 1 := by
      cases v <;> simp only [Summary.record, Summary.total] <;> omega
    rw [summarize_concat, once, ih, List.length_append, List.length_singleton]

/-- The exit status counts the scripts that did not pass, up to 255. -/
lemma exitCode_summarize (rs) :
    (summarize rs).exitCode =
      min 255 (rs.countP (·.result.verdict.isFailed) + rs.countP (·.result.verdict.isFaulty)) := by
  rw [summarize_eq, Summary.exitCode, Nat.min_comm]

/-- The exit status is 0 when all scripts passed, and only then. -/
lemma exitCode_eq_zero_iff :
    (summarize rs).exitCode = 0 ↔ ∀ r ∈ rs, r.result.verdict = .passed := by
  have none_iff : (summarize rs).exitCode = 0 ↔
      rs.countP (·.result.verdict.isFailed) = 0 ∧ rs.countP (·.result.verdict.isFaulty) = 0 := by
    rw [exitCode_summarize]
    omega
  rw [none_iff, List.countP_eq_zero, List.countP_eq_zero]
  constructor
  · rintro ⟨failed, faulty⟩ r hr
    have notFailed := failed r hr
    have notFaulty := faulty r hr
    cases v : r.result.verdict with
    | passed => rfl
    | failed line failure =>
      rw [v] at notFailed
      exact absurd rfl notFailed
    | faulty line fault =>
      rw [v] at notFaulty
      exact absurd rfl notFaulty
  · intro passed
    constructor <;> intro r hr <;> rw [passed r hr] <;> exact Bool.false_ne_true

/-- Further scripts do not lower the exit status. -/
lemma exitCode_le_append (rs rs') : (summarize rs).exitCode ≤ (summarize (rs ++ rs')).exitCode := by
  rw [exitCode_summarize, exitCode_summarize, List.countP_append, List.countP_append]
  omega

end Counting

section Running

variable {behaviour : Behaviour} {here : List Char} {config : Configuration} {t : FileTree}

/-- A first script is run, and the others in the tree that it leaves. -/
lemma runAll_cons (path paths t) :
    runAll behaviour here config (path :: paths) t =
      ((runOne behaviour here config path t).1 ::
          (runAll behaviour here config paths (runOne behaviour here config path t).2).1,
        (runAll behaviour here config paths (runOne behaviour here config path t).2).2) :=
  rfl

/-- The results of scripts stay as they are when others are run behind them. -/
lemma runAll_append (paths more t) :
    (runAll behaviour here config (paths ++ more) t).1 =
      (runAll behaviour here config paths t).1 ++
        (runAll behaviour here config more (runAll behaviour here config paths t).2).1 := by
  induction paths generalizing t with
  | nil => rfl
  | cons path paths ih => rw [List.cons_append, runAll_cons, runAll_cons, ih, List.cons_append]

/-- There is one result for each script, in order: that of running it in the tree which the scripts before
it have left. -/
lemma getElem?_runAll (paths : List (List Char)) (t n) :
    (runAll behaviour here config paths t).1[n]? = paths[n]?.map fun path =>
      (runOne behaviour here config path (runAll behaviour here config (paths.take n) t).2).1 := by
  induction paths generalizing t n with
  | nil => rfl
  | cons path paths ih =>
    cases n with
    | zero => rfl
    | succ n =>
      rw [runAll_cons, List.getElem?_cons_succ, List.getElem?_cons_succ, List.take_succ_cons, ih]
      rfl

/-- There are as many results as scripts. -/
lemma length_runAll (paths : List (List Char)) (t) :
    (runAll behaviour here config paths t).1.length = paths.length := by
  induction paths generalizing t with
  | nil => rfl
  | cons path paths ih => rw [runAll_cons, List.length_cons, List.length_cons, ih]

end Running

/-- Each script of a suite has one result, in order, whatever becomes of the others: the verdict of its own
run. The totals count the verdicts and add up to the number of scripts; the exit status is the number of
scripts that did not pass, at most 255, is 0 when all have passed and only then, and does not get smaller
when scripts are appended. -/
theorem runAll_exitCode (behaviour : Behaviour) (here : List Char) (config : Configuration)
    (paths : List (List Char)) (t : FileTree) :
    let rs := (runAll behaviour here config paths t).1
    let count := fun (p : Verdict → Bool) => rs.countP fun r => p r.result.verdict
    rs.length = paths.length ∧
    (∀ n : Nat, rs[n]?.map (fun r => (r.result.path, r.result.verdict)) = paths[n]?.map fun path =>
      (path, (runScript behaviour here config path
        (runAll behaviour here config (paths.take n) t).2).verdict)) ∧
    summarize rs = ⟨count Verdict.isPassed, count Verdict.isFailed, count Verdict.isFaulty⟩ ∧
    (summarize rs).total = paths.length ∧
    (summarize rs).exitCode = min 255 (count Verdict.isFailed + count Verdict.isFaulty) ∧
    (summarize rs).exitCode ≤ 255 ∧
    ((summarize rs).exitCode = 0 ↔ ∀ r ∈ rs, r.result.verdict = .passed) ∧
    ∀ more, (summarize rs).exitCode ≤
      (summarize (runAll behaviour here config (paths ++ more) t).1).exitCode := by
  intro rs count
  have length : rs.length = paths.length := length_runAll paths t
  refine ⟨length, ?_, summarize_eq rs, ?_, exitCode_summarize rs, ?_, exitCode_eq_zero_iff, ?_⟩
  · intro n
    have result : rs[n]? = _ := getElem?_runAll paths t n
    rw [result, Option.map_map]
    rfl
  · rw [total_summarize, length]
  · rw [exitCode_summarize]
    exact Nat.min_le_left _ _
  · intro more
    rw [runAll_append]
    exact exitCode_le_append rs _

end Suite

end Transcript
