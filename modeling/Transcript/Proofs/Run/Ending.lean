import Mathlib.Tactic.Common
import Transcript.Proofs.Report.Listing
import Transcript.Proofs.Run.Composition
import Transcript.Proofs.Run.History
import Transcript.Proofs.Run.Scratch

/-!
# Where scripts end

A script that does not pass ends at one of its lines, the last of those that were read, unless it has got
no scratch directory (`runText_ends`). A fault that carries a line number carries that one, and the listing
of the script marks that line and no other.
-/

namespace Transcript

open Script (Reader)

namespace Scene

/-- What is read at a point of a run ends it with a verdict: it cannot be read, or it halts the script. -/
inductive Halts (scene : Scene) (r : Reader) (s : Session) : Verdict → Prop where
  | fault {f} :
    (s.read r).result = .error f →
    Halts scene r s (.faulty (s.read r).reader.line f)
  | halt {i halt s'} :
    (s.read r).result = .ok (some i) →
    scene.apply s i = (some halt, s') →
    Halts scene r s (halt.verdict (s.read r).reader.line)

/-- A run of a script ends with a verdict at a line, the last of the lines that are taken at a point of the
run where what is read ends it. -/
inductive EndsAt (scene : Scene) (text : List Char) (s₀ : Session) (v : Verdict) : Nat → Prop where
  | intro {past r s front taken} :
    scene.Reaches (.ofText text) s₀ past r s →
    scene.Halts r s v →
    Text.lines text = front ++ r.rest →
    r.rest = taken ++ (s.read r).reader.rest →
    taken ≠ [] →
    EndsAt scene text s₀ v (front.length + taken.length)

variable {scene : Scene} {r : Reader} {s : Session} {v : Verdict} {text : List Char} {s₀ : Session}

/-- What ends a run ends it with the number of the last line that was read. -/
lemma Halts.line? (h : scene.Halts r s v) : v.line? = some (s.read r).reader.line := by
  cases h with
  | fault e => rfl
  | @halt i halt s' e a => cases halt <;> rfl

/-- What ends a run has been read. -/
lemma Halts.some (h : scene.Halts r s v) : (s.read r).result ≠ .ok none := by
  cases h with
  | fault e =>
    rw [e]
    exact nofun
  | halt e a =>
    rw [e]
    exact nofun

/-- A run that is ended has its verdict from what ends it. -/
lemma Halts.resume_eq (h : scene.Halts r s v) : (scene.resume r s).1 = v := by
  cases h with
  | fault e => rw [resume_fault e]
  | halt e a => rw [resume_halt e a]

/-- A malformed line that ends a run is reported with its own number. -/
lemma Halts.malformed {line n} (h : scene.Halts r s v) (same : v = .faulty line (.malformed n)) :
    n = line := by
  cases h with
  | fault e =>
    cases same
    exact Reader.next_malformed s.expander_unnumbered e
  | @halt i halt s' e a =>
    cases halt with
    | failure f => cases same
    | fault f =>
      cases same
      exact absurd rfl (apply_numbered a n)

/-- A run passes, or it ends at a line. -/
lemma passed_or_endsAt (scene : Scene) (text s₀) :
    (scene.execute text s₀).1 = .passed ∨ ∃ line, scene.EndsAt text s₀ (scene.execute text s₀).1 line := by
  obtain ⟨past, r, s, reached, ended⟩ := reaches_end scene (.ofText text) s₀
  rw [execute_eq_resume, reached.resume_eq]
  obtain ⟨front, split, -⟩ := reached.front
  have here {v} (h : scene.Halts r s v) : ∃ line, scene.EndsAt text s₀ (scene.resume r s).1 line := by
    obtain ⟨taken, some, rest, -⟩ := Session.read_taken h.some
    rw [h.resume_eq]
    exact ⟨_, .intro reached h split rest some⟩
  rcases ended with e | ⟨f, e⟩ | ⟨i, halt, s', e, a⟩
  · rw [resume_end e]
    exact .inl rfl
  · exact .inr (here (.fault e))
  · exact .inr (here (.halt e a))

/-- A run ends with the number of a line of its script. -/
lemma EndsAt.line? {line} (h : scene.EndsAt text s₀ v line) :
    v.line? = some line ∧ 1 ≤ line ∧ line ≤ (Text.lines text).length := by
  cases h with
  | @intro past r s front taken reached ended split rest some =>
    obtain ⟨front', split', count⟩ := reached.front
    have same : front' = front := List.append_cancel_right (split'.symm.trans split)
    obtain ⟨taken', -, rest', line⟩ := Session.read_taken ended.some
    have same' : taken' = taken := List.append_cancel_right (rest'.symm.trans rest)
    have positive := List.length_pos_iff.2 some
    refine ⟨?_, by omega, ?_⟩
    · rw [ended.line?, line, count, same, same']
      show Option.some (0 + front.length + taken.length) = _
      rw [Nat.zero_add]
    · rw [split, rest, List.length_append, List.length_append]
      omega

/-- A malformed line that a run ends at is reported with its own number. -/
lemma EndsAt.malformed {last line n} (h : scene.EndsAt text s₀ v last)
    (same : v = .faulty line (.malformed n)) : n = line := by
  cases h with
  | intro _ ended _ _ _ => exact ended.malformed same

end Scene

/-- A script passes, gets no scratch directory, or ends at one of its lines. -/
lemma runText_passed_or_endsAt (behaviour here config name text t) :
    let v := (runText behaviour here config name text t).verdict
    v = .passed ∨ v = .faulty 0 (.noScratch name) ∨
      ∃ work t₁ line, Scratch.create t (Path.join here config.workRoot) name = .ok (work, t₁) ∧
        Scene.EndsAt ⟨config, behaviour, here, work⟩ text ⟨config.timeout, {}, t₁⟩ v line := by
  intro v
  cases made : Scratch.create t (Path.join here config.workRoot) name with
  | error f => exact .inr (.inl (congrArg Run.verdict (runText_of_error made text)))
  | ok pair =>
    obtain ⟨work, t₁⟩ := pair
    let scene : Scene := { config, behaviour, here, work }
    have created : Scratch.create t (Path.join scene.here scene.config.workRoot) name =
        .ok (scene.work, t₁) := made
    have verdict : v = (scene.execute text (scene.start t₁)).1 :=
      congrArg Run.verdict (runText_of_create created text)
    rw [verdict]
    rcases scene.passed_or_endsAt text (scene.start t₁) with passed | ⟨line, ends⟩
    · exact .inl passed
    · exact .inr (.inr ⟨work, t₁, line, rfl, ends⟩)

/-- A script passes, gets no scratch directory, or ends at one of its lines, the last that was read; a
malformed line is reported with its own number; and a listing of the script has one row for each of its
lines, of which it marks the one that the verdict is at, with a heading when there is one. -/
theorem runText_ends (behaviour here config name text t) :
    let v := (runText behaviour here config name text t).verdict
    (v = .passed ∨ v = .faulty 0 (.noScratch name) ∨
      ∃ work t₁ line, Scratch.create t (Path.join here config.workRoot) name = .ok (work, t₁) ∧
        Scene.EndsAt ⟨config, behaviour, here, work⟩ text ⟨config.timeout, {}, t₁⟩ v line ∧
        v.line? = some line ∧ 1 ≤ line ∧ line ≤ (Text.lines text).length) ∧
    (∀ line n, v = .faulty line (.malformed n) → n = line) ∧
    ∀ result : ScriptResult, result.verdict = v → ∃ heading rows,
      Listing.IsRows v text rows ∧ Listing.IsHeading v result.baseName rows heading ∧
      result.listing text = (heading ++ Listing.openingRule result.baseName :: rows ++
        [Listing.closingRule result.baseName]).flatMap (· ++ ['\n']) := by
  intro v
  have ends : v = .passed ∨ v = .faulty 0 (.noScratch name) ∨ _ :=
    runText_passed_or_endsAt behaviour here config name text t
  refine ⟨?_, ?_, ?_⟩
  · rcases ends with passed | unbegun | ⟨work, t₁, line, made, ended⟩
    · exact .inl passed
    · exact .inr (.inl unbegun)
    · exact .inr (.inr ⟨work, t₁, line, made, ended, ended.line?⟩)
  · intro line n malformed
    rcases ends with passed | unbegun | ⟨work, t₁, last, made, ended⟩
    · cases passed.symm.trans malformed
    · cases unbegun.symm.trans malformed
    · exact ended.malformed malformed
  · intro result same
    rw [← same]
    apply result.listing_eq
    intro line here
    rw [same] at here
    rcases ends with passed | unbegun | ⟨work, t₁, last, made, ended⟩
    · rw [passed] at here
      cases here
    · rw [unbegun] at here
      cases here
      exact Nat.zero_le _
    · obtain ⟨there, -, within⟩ := ended.line?
      cases there.symm.trans here
      exact within

/-- A block that is cut off is reported at the last line, not at the one of its command. -/
example : (runText Scene.echo.behaviour ['/'] Scene.echo.config ['t'] "# c\n> a\nb\n".toList {}).verdict =
    .faulty 3 (.unterminated ['a']) := by
  decide +kernel

end Transcript
