import Mathlib.Data.List.Induction
import Mathlib.Tactic.Common
import Transcript.Suite.Execution

/-!
# Details about scripts that did not pass

The limit on details is passed on from script to script. What is left of it depends on nothing but the number of
scripts so far that did not pass (`limitAfter_eq`), so that the details go to the first of these, as many as the
limit allows (`render_human`). What the details say is written out apart from the definitions (`IsFollowUp`).
-/

namespace Transcript.Suite

variable {limit : Option ShowLimit} {r : Reported} {rs : List Reported}

/-- The number of scripts that did not pass. -/
def failures (rs : List Reported) : Nat :=
  rs.countP fun r => !r.result.verdict.isPassed

/-- What is written behind the heading of a script when a number of scripts before it did not pass. -/
def followUp (limit : Option ShowLimit) (before : Nat) (r : Reported) : List Char :=
  if r.result.verdict.isPassed then []
  else match limit with
    | none => []
    | some .all => details r
    | some (.count most) => if before < most then details r else limitExceeded

/-- The line of a detail: an output that was not the expected one has it, and nothing else does. -/
inductive IsDetailLine : Verdict → List Char → Prop where
  | detail (line detail) :
    IsDetailLine (.failed line (.incorrectOutput detail)) ("    ".toList ++ detail ++ ['\n'])
  | nothing {v} :
    (∀ line detail, v ≠ .failed line (.incorrectOutput detail)) →
    IsDetailLine v []

/-- What is written about a source: its listing, or why it could not be read. -/
inductive IsSourceNote (r : Reported) : List Char → Prop where
  | listing {source} :
    r.source = .ok source →
    IsSourceNote r (r.result.listing source)
  | unreadable {e} :
    r.source = .error e →
    IsSourceNote r ("    (could not read ".toList ++ r.result.path ++ ": ".toList ++ e.message.toList ++ [')', '\n'])

/-- A limit allows details when a number of scripts before did not pass. -/
inductive Allows (before : Nat) : Option ShowLimit → Prop where
  | all : Allows before (some .all)
  | count {most} : before < most → Allows before (some (.count most))

/-- What stands behind the heading of a script when a number of scripts before it did not pass. -/
inductive IsFollowUp (limit : Option ShowLimit) (before : Nat) (r : Reported) : List Char → Prop where
  | passed :
    r.result.verdict = .passed →
    IsFollowUp limit before r []
  | unasked :
    r.result.verdict ≠ .passed → limit = none →
    IsFollowUp limit before r []
  | details {line note} :
    r.result.verdict ≠ .passed → Allows before limit →
    IsDetailLine r.result.verdict line → IsSourceNote r note →
    IsFollowUp limit before r (line ++ note)
  | exceeded {most} :
    r.result.verdict ≠ .passed → limit = some (.count most) → most ≤ before →
    IsFollowUp limit before r "   Limit on error details exceeded.\n".toList

/-- What is left of a limit when a number of scripts did not pass. -/
def remaining (limit : Option ShowLimit) (before : Nat) : Option ShowLimit :=
  match limit with
  | some (.count most) => some (.count (most - before))
  | limit => limit

/-- The limit for what follows some scripts. -/
def limitAfter (limit : Option ShowLimit) (rs : List Reported) : Option ShowLimit :=
  rs.foldl (fun limit r => (showResult limit r).2) limit

section Texts

variable {before : Nat} {text line note : List Char}

/-- Only an output that was not the expected one has a detail. -/
lemma detail?_eq_some_iff {result : ScriptResult} {detail} :
    result.detail? = some detail ↔ ∃ place, result.verdict = .failed place (.incorrectOutput detail) := by
  unfold ScriptResult.detail?
  constructor
  · intro h
    split at h
    · rename_i place found verdict
      cases h
      exact ⟨place, verdict⟩
    · cases h
  · rintro ⟨place, verdict⟩
    rw [verdict]

lemma isDetailLine_iff {result : ScriptResult} :
    IsDetailLine result.verdict line ↔
      line = match result.detail? with
        | some detail => "    ".toList ++ detail ++ ['\n']
        | none => [] := by
  cases found : result.detail? with
  | some detail =>
    obtain ⟨place, verdict⟩ := detail?_eq_some_iff.1 found
    rw [verdict]
    constructor
    · intro isLine
      cases isLine with
      | detail => rfl
      | nothing other => exact absurd rfl (other place detail)
    · rintro rfl
      exact .detail place detail
  | none =>
    have other (place detail) : result.verdict ≠ .failed place (.incorrectOutput detail) := by
      intro verdict
      rw [detail?_eq_some_iff.2 ⟨place, verdict⟩] at found
      cases found
    constructor
    · intro isLine
      generalize result.verdict = v at isLine other
      cases isLine with
      | detail place detail => exact absurd rfl (other place detail)
      | nothing => rfl
    · rintro rfl
      exact .nothing other

lemma isSourceNote_iff :
    IsSourceNote r note ↔
      note = match r.source with
        | .ok source => r.result.listing source
        | .error e =>
          "    (could not read ".toList ++ r.result.path ++ ": ".toList ++ e.message.toList ++ ")\n".toList := by
  constructor
  · intro isNote
    cases isNote with
    | listing read => rw [read]
    | unreadable read =>
      rw [read]
      rfl
  · rintro rfl
    cases read : r.source with
    | ok source => exact .listing read
    | error e => exact .unreadable read

/-- The details of a script are the line of its detail and what is written about its source. -/
lemma details_eq_iff :
    details r = text ↔
      ∃ line note, IsDetailLine r.result.verdict line ∧ IsSourceNote r note ∧ line ++ note = text := by
  constructor
  · rintro rfl
    exact ⟨_, _, isDetailLine_iff.2 rfl, isSourceNote_iff.2 rfl, rfl⟩
  · rintro ⟨line, note, isLine, isNote, rfl⟩
    rw [isDetailLine_iff.1 isLine, isSourceNote_iff.1 isNote]
    rfl

lemma isPassed_iff : r.result.verdict.isPassed = true ↔ r.result.verdict = .passed := by
  cases r.result.verdict with
  | passed => exact iff_of_true rfl rfl
  | failed | faulty => exact iff_of_false Bool.false_ne_true nofun

lemma followUp_of_passed (passed : r.result.verdict = .passed) : followUp limit before r = [] :=
  if_pos (isPassed_iff.2 passed)

lemma followUp_none : followUp none before r = [] :=
  ite_self []

lemma followUp_of_allows (unsuccessful : r.result.verdict ≠ .passed) (allows : Allows before limit) :
    followUp limit before r = details r := by
  unfold followUp
  rw [if_neg (mt isPassed_iff.1 unsuccessful)]
  cases allows with
  | all => rfl
  | count within => exact if_pos within

lemma followUp_of_le {most} (unsuccessful : r.result.verdict ≠ .passed) (used : most ≤ before) :
    followUp (some (.count most)) before r = limitExceeded := by
  unfold followUp
  rw [if_neg (mt isPassed_iff.1 unsuccessful)]
  exact if_neg (Nat.not_lt.2 used)

/-- What stands behind a heading is what is written out. -/
theorem followUp_eq_iff : followUp limit before r = text ↔ IsFollowUp limit before r text := by
  constructor
  · rintro rfl
    by_cases passed : r.result.verdict = .passed
    · rw [followUp_of_passed passed]
      exact .passed passed
    · by_cases allows : Allows before limit
      · rw [followUp_of_allows passed allows]
        obtain ⟨line, note, isLine, isNote, same⟩ := details_eq_iff.1 (Eq.refl (details r))
        rw [← same]
        exact .details passed allows isLine isNote
      · rcases limit with _ | most | _
        · rw [followUp_none]
          exact .unasked passed rfl
        · have used : most ≤ before := Nat.not_lt.1 fun within => allows (.count within)
          rw [followUp_of_le passed used]
          exact .exceeded passed rfl used
        · exact absurd .all allows
  · intro isText
    cases isText with
    | passed passed => exact followUp_of_passed passed
    | unasked unsuccessful unlimited =>
      rw [unlimited]
      exact followUp_none
    | details unsuccessful allows isLine isNote =>
      rw [followUp_of_allows unsuccessful allows]
      exact details_eq_iff.2 ⟨_, _, isLine, isNote, rfl⟩
    | exceeded unsuccessful limited used =>
      rw [limited]
      exact followUp_of_le unsuccessful used

end Texts

section Steps

lemma remaining_zero (limit) : remaining limit 0 = limit := by
  rcases limit with _ | _ | _ <;> rfl

lemma failures_cons (r rs) : failures (r :: rs) = failures [r] + failures rs := by
  rw [failures, ← List.singleton_append, List.countP_append]
  rfl

/-- Where details are still allowed they are written, and one less is allowed for what follows. -/
lemma showDetails_remaining (before) (unsuccessful : r.result.verdict.isPassed = false) :
    showDetails (remaining limit before) r = (followUp limit before r, remaining limit (before + 1)) := by
  unfold followUp
  rw [unsuccessful, if_neg Bool.false_ne_true]
  rcases limit with _ | most | _
  · rfl
  · by_cases within : before < most
    · obtain ⟨left, rfl⟩ : ∃ left, most = before + (left + 1) := ⟨most - (before + 1), by omega⟩
      have here : before + (left + 1) - before = left + 1 := by omega
      have next : before + (left + 1) - (before + 1) = left := by omega
      simp only [remaining, here, next, if_pos within]
      rfl
    · have here : most - before = 0 := by omega
      have next : most - (before + 1) = 0 := by omega
      simp only [remaining, here, next, if_neg within]
      rfl
  · rfl

/-- What is written about a script and what is left of the limit behind it. -/
lemma showResult_remaining (limit before r) :
    showResult (remaining limit before) r =
      (heading r ++ followUp limit before r, remaining limit (before + failures [r])) := by
  rw [showResult, failures, List.countP_singleton]
  cases passed : r.result.verdict.isPassed with
  | true =>
    unfold followUp
    rw [passed]
    simp
  | false =>
    rw [showDetails_remaining before passed]
    simp

end Steps

section Runs

lemma limitAfter_cons (limit r rs) : limitAfter limit (r :: rs) = limitAfter (showResult limit r).2 rs :=
  rfl

/-- A first script is written about, and the others with the limit that it leaves. -/
lemma showResults_cons (limit r rs) :
    showResults limit (r :: rs) = (showResult limit r).1 ++ showResults (showResult limit r).2 rs :=
  rfl

/-- What is left of a limit depends on the number of scripts that did not pass. -/
lemma limitAfter_remaining (limit before rs) :
    limitAfter (remaining limit before) rs = remaining limit (before + failures rs) := by
  induction rs generalizing before with
  | nil => rfl
  | cons r rs ih =>
    rw [limitAfter_cons, showResult_remaining, ih, failures_cons r rs, Nat.add_assoc]

lemma limitAfter_eq (limit rs) : limitAfter limit rs = remaining limit (failures rs) := by
  have run := limitAfter_remaining limit 0 rs
  rwa [remaining_zero, Nat.zero_add] at run

/-- What is written about scripts when a number of scripts before them did not pass. -/
lemma showResults_remaining (limit before rs) :
    showResults (remaining limit before) rs =
      (rs.mapIdx fun n r => heading r ++ followUp limit (before + failures (rs.take n)) r).flatten := by
  induction rs generalizing before with
  | nil => rfl
  | cons r rs ih =>
    have later (n) : failures ((r :: rs).take (n + 1)) = failures [r] + failures (rs.take n) :=
      failures_cons r (rs.take n)
    rw [showResults_cons, showResult_remaining, ih, List.mapIdx_cons, List.flatten_cons]
    simp only [later, Nat.add_assoc]
    rfl

lemma showResults_eq (limit rs) :
    showResults limit rs =
      (rs.mapIdx fun n r => heading r ++ followUp limit (failures (rs.take n)) r).flatten := by
  have shown := showResults_remaining limit 0 rs
  simp only [remaining_zero, Nat.zero_add] at shown
  exact shown

end Runs

/-- The report of a suite for a reader: each script has its heading, in order. Behind that of a script that did not
pass stand its details where the limit is above the number of such scripts before it, or where there is none to
their number; otherwise the note that the limit is exceeded; and nothing where no details are asked for. The
details are the detail of an unexpected output on a line of its own, and the listing of the source or the note
that it could not be read. Nothing stands behind the heading of a script that passed. A limit of `most` is spent
on the first `most` scripts that did not pass and is never less than nothing; what is left and what was spent add
up to it at every script. -/
theorem render_human (limit : Option ShowLimit) (rs : List Reported) :
    render .human limit rs =
      (rs.mapIdx fun n r => heading r ++ followUp limit (failures (rs.take n)) r).flatten ++
        '\n' :: (summarize rs).line.toList ++ ['\n'] ∧
    (∀ before r text, followUp limit before r = text ↔ IsFollowUp limit before r text) ∧
    (∀ n : Nat, limitAfter none (rs.take n) = none ∧ limitAfter (some .all) (rs.take n) = some .all) ∧
    ∀ most n : Nat, ∃ left, limitAfter (some (.count most)) (rs.take n) = some (.count left) ∧
      left + min most (failures (rs.take n)) = most := by
  refine ⟨?_, fun _ _ _ => followUp_eq_iff, fun n => ?_, fun most n => ?_⟩
  · rw [render, showResults_eq]
  · rw [limitAfter_eq, limitAfter_eq]
    exact ⟨rfl, rfl⟩
  · rw [limitAfter_eq]
    refine ⟨most - failures (rs.take n), rfl, ?_⟩
    omega

end Transcript.Suite
