import Mathlib.Tactic.Common
import Transcript.Proofs.Expectation.Comparison
import Transcript.Proofs.Run.Effect
import Transcript.Proofs.Run.Resume
import Transcript.Proofs.Script.Block
import Transcript.Proofs.Variables.Histories

/-!
# What a session owes to the past

The points of a run between two instructions, each with the instructions that were carried out before
it. The time limit, the groups and the definitions of a session can be read off these instructions
(`Scene.Reaches.session_eq`): each is decided by the last instruction that sets it, and by no other.
-/

namespace Transcript

open Script (Reader terminator? readForm IsBlock)
open Text (trimEnd)

/-- An instruction that was carried out, and the session that it was carried out in. -/
structure Event where
  before : Session
  instruction : Instruction

namespace Scene

/-- The points of a run, with the instructions carried out before them, last first. -/
inductive Reaches (scene : Scene) (r₀ : Reader) (s₀ : Session) :
    List Event → Reader → Session → Prop where
  | start :
    Reaches scene r₀ s₀ [] r₀ s₀
  | goOn {past r s i s'} :
    Reaches scene r₀ s₀ past r s →
    (s.read r).result = .ok (some i) →
    scene.apply s i = (none, s') →
    Reaches scene r₀ s₀ (⟨s, i⟩ :: past) (s.read r).reader s'

/-- The limit that the last `T` has set, or else the one that is configured. -/
def lastTimeout (configured : Duration) : List Event → Duration
  | [] => configured
  | e :: past =>
    match e.instruction with
    | .setTimeout secs => .ofSeconds secs
    | _ => lastTimeout configured past

/-- What the program under test wrote when a command was carried out. -/
def output? (scene : Scene) (e : Event) (command : List Char) : Option (List Char) :=
  match (scene.behaviour (scene.invocation command e.before) e.before.tree).1 with
  | .ok (.success output) => some output
  | _ => none

/-- The groups of the last line that was compared with a pattern, if an instruction compared one. -/
def groups? (scene : Scene) (e : Event) : Option (List (List Char)) :=
  match e.instruction with
  | .runAndCheck command expected .pattern => do
    let output ← scene.output? e command
    let pair ← (Expectation.comparedLines expected output).getLast?
    Pattern.groupsAtStart? (pair.1 ++ ['$']) pair.2
  | _ => none

/-- The groups of the last instruction that compared a line with a pattern. -/
def lastGroups (scene : Scene) : List Event → List (List Char)
  | [] => []
  | e :: past => (scene.groups? e).getD (lastGroups scene past)

/-- What the last definition of a name has made of its value. -/
def lastValue (name : List Char) : List Event → Option (List Char)
  | [] => none
  | e :: past =>
    match e.instruction with
    | .define n raw => if n = name then (e.before.vars.substitute raw).toOption else lastValue name past
    | _ => lastValue name past

end Scene

namespace Scene

variable {scene : Scene} {s s' : Session} {i : Instruction}

/-- Only `T` changes the time limit. -/
lemma Effect.timeout_eq (ef : scene.Effect s i s') (configured past)
    (before : s.timeout = lastTimeout configured past) :
    s'.timeout = lastTimeout configured (⟨s, i⟩ :: past) := by
  cases ef with
  | setTimeout secs => rfl
  | _ => exact before

/-- A comparison with patterns leaves the groups of its last line. -/
lemma groups?_pattern {command expected output t groups}
    (run : scene.behaviour (scene.invocation command s) s.tree = (.ok (.success output), t))
    (accepted : Expectation.compare expected output .pattern = .accepted groups) :
    scene.groups? ⟨s, .runAndCheck command expected .pattern⟩ = groups := by
  obtain ⟨_, passed, left⟩ := Expectation.compare_accepted_iff.1 accepted
  have wrote : scene.output? ⟨s, .runAndCheck command expected .pattern⟩ command = some output := by
    rw [output?, run]
  simp only [groups?, wrote, Option.bind_eq_bind, Option.bind_some]
  rw [left, Expectation.lastGroups_pattern]

/-- A comparison within a few edits leaves no groups. -/
lemma groups_exact {expected output groups}
    (accepted : Expectation.compare expected output .exact = .accepted groups) : groups = none := by
  obtain ⟨_, _, left⟩ := Expectation.compare_accepted_iff.1 accepted
  rw [left, Expectation.lastGroups_exact]

/-- Only a comparison of a line with a pattern changes the groups. -/
lemma Effect.groups_eq (ef : scene.Effect s i s') (past)
    (before : s.vars.groups = scene.lastGroups past) :
    s'.vars.groups = scene.lastGroups (⟨s, i⟩ :: past) := by
  cases ef with
  | @runAndCheck command expected mode output t groups run accepted =>
    cases mode with
    | exact =>
      rw [groups_exact accepted]
      exact before
    | pattern =>
      rw [lastGroups, groups?_pattern run accepted, ← before]
      cases groups <;> rfl
  | _ => exact before

/-- Only a definition of a name changes its value. -/
lemma Effect.lookup_eq (ef : scene.Effect s i s') (name past)
    (before : s.vars.defs.lookup name = lastValue name past) :
    s'.vars.defs.lookup name = lastValue name (⟨s, i⟩ :: past) := by
  cases ef with
  | @runAndCheck command expected mode output t groups run accepted =>
    cases groups <;> exact before
  | @define n raw value e =>
    simp only [lastValue, Variables.lookup_set, before, e, Except.toOption]
  | _ => exact before

variable {r₀ r : Reader} {s₀ : Session} {past : List Event}

/-- A run goes on from any of its points. -/
lemma Reaches.resume_eq (h : scene.Reaches r₀ s₀ past r s) : scene.resume r₀ s₀ = scene.resume r s := by
  induction h with
  | start => rfl
  | goOn _ e a ih => rw [ih, resume_goOn e a]

/-- The lines that a run has read stand in front of those that are left, and are counted. -/
lemma Reaches.front (h : scene.Reaches r₀ s₀ past r s) :
    ∃ front, r₀.rest = front ++ r.rest ∧ r.line = r₀.line + front.length := by
  induction h with
  | start => exact ⟨[], rfl, rfl⟩
  | @goOn past r s i s' _ e _ ih =>
    have some : (s.read r).result ≠ .ok none := by simp [e]
    obtain ⟨front, split, count⟩ := ih
    obtain ⟨taken, -, rest, line⟩ := s.read_taken some
    refine ⟨front ++ taken, ?_, ?_⟩
    · rw [List.append_assoc, ← rest, split]
    · rw [line, count, List.length_append, Nat.add_assoc]

/-- A run ends at one of its points: nothing is left to read, or what is read there halts it. -/
theorem reaches_end (scene : Scene) (r₀ s₀) :
    ∃ past r s, scene.Reaches r₀ s₀ past r s ∧
      ((s.read r).result = .ok none ∨ (∃ f, (s.read r).result = .error f) ∨
        ∃ i halt s', (s.read r).result = .ok (some i) ∧ scene.apply s i = (some halt, s')) := by
  suffices goOn : ∀ r s past, scene.Reaches r₀ s₀ past r s → ∃ past r s, scene.Reaches r₀ s₀ past r s ∧
      ((s.read r).result = .ok none ∨ (∃ f, (s.read r).result = .error f) ∨
        ∃ i halt s', (s.read r).result = .ok (some i) ∧ scene.apply s i = (some halt, s')) from
    goOn r₀ s₀ [] .start
  intro r s
  induction r, s using run_induction scene with
  | step r s ih =>
    intro past h
    rcases e : (s.read r).result with f | _ | i
    · exact ⟨past, r, s, h, .inr (.inl ⟨f, e⟩)⟩
    · exact ⟨past, r, s, h, .inl e⟩
    · rcases a : scene.apply s i with ⟨_ | halt, s'⟩
      · exact ih i s' e a _ (.goOn h e a)
      · exact ⟨past, r, s, h, .inr (.inr ⟨i, halt, s', e, a⟩)⟩

/-- What every instruction of a run keeps holds at each of its points. -/
lemma Reaches.invariant {P : Session → Prop} (h : scene.Reaches r₀ s₀ past r s) (start : P s₀)
    (step : ∀ past r s i, scene.Reaches r₀ s₀ past r s → (s.read r).result = .ok (some i) → P s →
      P (scene.apply s i).2) : P s := by
  induction h with
  | start => exact start
  | @goOn past r s i s' before e a ih =>
    have kept := step past r s i before e ih
    rwa [a] at kept

/-- What every instruction of a run keeps holds at its end, whatever it ends in. -/
theorem execute_invariant {P : Session → Prop} {text} (start : P s₀)
    (step : ∀ past r s i, scene.Reaches (.ofText text) s₀ past r s →
      (s.read r).result = .ok (some i) → P s → P (scene.apply s i).2) :
    P (scene.execute text s₀).2 := by
  obtain ⟨past, r, s, reached, ended⟩ := reaches_end scene (.ofText text) s₀
  have here := reached.invariant start step
  rw [execute_eq_resume, reached.resume_eq]
  rcases ended with e | ⟨f, e⟩ | ⟨i, halt, s', e, a⟩
  · rw [resume_end e]
    exact here
  · rw [resume_fault e]
    exact here
  · have last := step past r s i reached e here
    rw [a] at last
    rw [resume_halt e a]
    exact last

/-- At every point of a run the time limit, the groups and the definitions are those of the last
instructions that set them; a block is expanded with the session before it; and what cannot be read
ends the run as it stands, whatever the program under test would do. -/
theorem Reaches.session_eq {text timeout tree}
    (h : scene.Reaches (.ofText text) ⟨timeout, {}, tree⟩ past r s) :
    scene.execute text ⟨timeout, {}, tree⟩ = scene.resume r s ∧
    (∀ command, (scene.invocation command s).timeout = lastTimeout timeout past) ∧
    s.vars.groups = scene.lastGroups past ∧
    (∀ name, s.vars.defs.lookup name = lastValue name past) ∧
    (∀ command expected mode, (s.read r).result = .ok (some (.runAndCheck command expected mode)) →
      ∃ raw line block last rest, r.rest = raw :: (block ++ last :: rest) ∧
        s.vars.substitute raw = .ok line ∧ readForm (r.line + 1) line = .ok (.command command) ∧
        IsBlock s.vars.substitute block expected ∧ terminator? (trimEnd last) = some mode) ∧
    (∀ f, (s.read r).result = .error f → ∀ behaviour,
      { scene with behaviour }.resume r s = (.faulty (s.read r).reader.line f, s)) := by
  have state : s.timeout = lastTimeout timeout past ∧ s.vars.groups = scene.lastGroups past ∧
      ∀ name, s.vars.defs.lookup name = lastValue name past := by
    generalize start : (⟨timeout, {}, tree⟩ : Session) = s₀ at h
    -- what one instruction does to each part is what the last event of a history says
    induction h with
    | start =>
      subst start
      exact ⟨rfl, rfl, fun _ => rfl⟩
    | goOn _ e a ih =>
      have ef := apply_effect a
      exact ⟨ef.timeout_eq _ _ ih.1, ef.groups_eq _ ih.2.1, fun name => ef.lookup_eq name _ (ih.2.2 name)⟩
  refine ⟨h.resume_eq, fun _ => state.1, state.2.1, state.2.2, ?_, ?_⟩
  · intro command expected mode e
    exact Reader.next_runAndCheck e
  · intro f e behaviour
    exact resume_fault e

/-- A definition holds in a block and behind it, and a reference to nothing ends the run there. -/
theorem session_eq_define :
    ∃ past r s, echo.Reaches (.ofText "D x \"1\"\n> ${x}\n1\n<<<\nE ${y}\n".toList) blank past r s ∧
      (∀ command, (echo.invocation command s).timeout = .of 5 0) ∧
      s.vars.groups = [] ∧
      s.vars.defs.lookup ['x'] = some ['1'] ∧
      echo.execute "D x \"1\"\n> ${x}\n1\n<<<\nE ${y}\n".toList blank =
        (.faulty 5 (.undefinedVariable ['y']), s) := by
  have defined : echo.Reaches (.ofText "D x \"1\"\n> ${x}\n1\n<<<\nE ${y}\n".toList) blank _ _
      ⟨.of 5 0, ⟨[(['x'], ['1'])], []⟩, {}⟩ :=
    .goOn (i := .define ['x'] ['1']) .start (by decide) (by decide)
  have h : echo.Reaches _ _ _ _ ⟨.of 5 0, ⟨[(['x'], ['1'])], []⟩, {}⟩ :=
    defined.goOn (i := .runAndCheck ['1'] [['1']] .exact) (by decide) (by decide)
  obtain ⟨run, timeout, groups, defs, _, fault⟩ := h.session_eq
  refine ⟨_, _, _, h, timeout, groups, ?_, ?_⟩
  · rw [defs]
    decide
  · refine run.trans ((fault (.undefinedVariable ['y']) (by decide) echo.behaviour).trans ?_)
    decide

end Scene

end Transcript
