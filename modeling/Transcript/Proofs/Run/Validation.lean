import Mathlib.Tactic.Common
import Transcript.Proofs.Run.History
import Transcript.Proofs.Run.Scratch
import Transcript.Proofs.Script.Literal
import Transcript.Proofs.Script.Whole
import Transcript.Suite.Validation

/-!
# Validation foretells a run

A script without references is validated as it is run (`Scene.runText_of_validate`): the run meets with
the same instructions and the same fault at the same line, unless an instruction halts it before.
-/

namespace Transcript

open Script (Reader IsLiteral)

/-- A fault that lies in the text of a script. -/
def Fault.IsTextual : Fault → Prop
  | .malformed _ | .badTimeout _ | .unterminated _ | .undefinedVariable _ | .missingGroup _ => True
  | _ => False

/-- A script that can be read is validated by counting its instructions. -/
lemma validate_of_stored {disk here path text}
    (stored : disk.readText (FileTree.absolute here path) = .ok (String.ofList text)) :
    Suite.validate disk here path = (Script.count text).mapError .misread := by
  rw [Suite.validate, stored]
  show (Script.count (String.ofList text).toList).mapError _ = _
  rw [String.toList_ofList]

namespace Scene

variable {scene : Scene} {r₀ r : Reader} {s₀ s s' : Session} {past : List Event} {i : Instruction}

/-- A session reads a script without references as it stands. -/
lemma read_literal (s : Session) (literal : IsLiteral false r.rest) :
    s.read r = r.next (.ofFunction .ok) () :=
  (Reader.next_literal _ (fun _ plain => s.vars.substitute_of_plain plain) literal).1

/-- At every point of a run what is left has no references, and validation reads what was carried out and
then goes on from there. -/
lemma Reaches.all_eq (h : scene.Reaches r₀ s₀ past r s) (literal : IsLiteral false r₀.rest) :
    IsLiteral false r.rest ∧
      r₀.all .ok = (r.all .ok).map ((past.reverse.map Event.instruction) ++ ·) := by
  induction h with
  | start =>
    refine ⟨literal, ?_⟩
    cases r₀.all .ok <;> rfl
  | @goOn past r s i s' _ e _ ih =>
    obtain ⟨left, before⟩ := ih
    have same := read_literal s left
    rw [same] at e ⊢
    obtain ⟨behind, _⟩ := (Reader.next_literal .ok (fun _ _ => rfl) left).2 i e
    refine ⟨behind, ?_⟩
    rw [before, Reader.all_goOn e]
    cases (r.next (.ofFunction .ok) ()).reader.all .ok with
    | error m => rfl
    | ok is =>
      simp only [Except.map, List.reverse_cons, List.map_append, List.map_cons, List.map_nil,
        List.append_assoc, List.singleton_append]

/-- No instruction of a script without references halts it with a fault in its text. -/
lemma apply_not_textual (literal : IsLiteral false r.rest) {f} (e : (s.read r).result = .ok (some i))
    (a : scene.apply s i = (some (.fault f), s')) : ¬ f.IsTextual := by
  cases apply_obstacle a with
  | copyFile dest src => exact id
  | runAndCheck command expected mode mishap => cases mishap <;> exact id
  | checkContent name reference => exact id
  | @define name raw f unresolved =>
    -- the value stands in a line without references, so it stays as it is
    rw [read_literal s literal] at e
    have plain := ((Reader.next_literal .ok (fun _ _ => rfl) literal).2 _ e).2 name raw rfl
    rw [Variables.substitute_of_plain _ plain] at unresolved
    cases unresolved

/-- A script that an instruction halts does not pass, and no fault lies in its text. -/
lemma halt_not_textual (literal : IsLiteral false r.rest) {halt} (e : (s.read r).result = .ok (some i))
    (a : scene.apply s i = (some halt, s')) (line) :
    halt.verdict line ≠ .passed ∧
      ∀ line' f, halt.verdict line = .faulty line' f → ¬ f.IsTextual := by
  cases halt with
  | failure g => exact ⟨nofun, nofun⟩
  | fault g =>
    refine ⟨nofun, ?_⟩
    intro line' f faulty
    cases faulty
    exact apply_not_textual literal e a

/-- What validation says of a script without references, its run bears out. Where the script is valid, no
fault lies in its text, and a run that passes has carried out as many instructions as were counted,
comments left out. Where it is not, the run ends with the same fault at the same line, or an instruction
halts it at a line before. -/
theorem runText_of_validate {name text t t₁ disk here path}
    (stored : disk.readText (FileTree.absolute here path) = .ok (String.ofList text))
    (literal : IsLiteral false (Text.lines text))
    (made : Scratch.create t (Path.join scene.here scene.config.workRoot) name =
      .ok (scene.work, t₁)) :
    let run := runText scene.behaviour scene.here scene.config name text t
    (∀ n, Suite.validate disk here path = .ok n →
      (∀ line f, run.verdict = .faulty line f → ¬ f.IsTextual) ∧
      (run.verdict = .passed →
        ∃ past r s, scene.Reaches (.ofText text) (scene.start t₁) past r s ∧ r.rest = [] ∧
          past.countP (·.instruction ≠ .comment) = n)) ∧
    (∀ e, Suite.validate disk here path = .error e →
      ∃ line f, e = .misread ⟨line, f⟩ ∧
        (run.verdict = .faulty line f ∨
          ∃ past r s i halt s',
            scene.Reaches (.ofText text) (scene.start t₁) past r s ∧
            (s.read r).result = .ok (some i) ∧ scene.apply s i = (some halt, s') ∧
            (s.read r).reader.line < line ∧ run.verdict = halt.verdict (s.read r).reader.line)) := by
  intro run
  have verdict : run.verdict = (scene.resume (.ofText text) (scene.start t₁)).1 := by
    show (runText _ _ _ _ _ _).verdict = _
    rw [runText_of_create made]
    rfl
  have counted := validate_of_stored stored
  rw [Script.count_eq] at counted
  obtain ⟨past, r, s, reached, ended⟩ :=
    reaches_end scene (.ofText text) (scene.start t₁)
  obtain ⟨left, all⟩ := reached.all_eq literal
  rw [reached.resume_eq] at verdict
  have same := read_literal s left
  rw [counted, all]
  rcases ended with e | ⟨f, e⟩ | ⟨i, halt, s', e, a⟩
  -- the script has been read to its end
  · have nothing := Reader.all_end (same ▸ e)
    rw [resume_end e] at verdict
    rw [nothing]
    constructor
    · intro n count
      cases count
      refine ⟨fun line f faulty => ?_, fun _ => ⟨past, r, s, reached, s.read_none e, ?_⟩⟩
      · rw [verdict] at faulty
        cases faulty
      · simp only [List.append_nil, List.countP_map, List.countP_reverse]
        rfl
    · intro m error
      cases error
  -- what cannot be read is found by both
  · have fault := Reader.all_fault (same ▸ e)
    rw [resume_fault e, same] at verdict
    rw [fault]
    constructor
    · intro n count
      cases count
    · intro m error
      cases error
      exact ⟨_, f, rfl, .inl verdict⟩
  -- only the run is halted
  · have before := Reader.all_goOn (same ▸ e)
    obtain ⟨not_passed, not_textual⟩ := halt_not_textual left e a (s.read r).reader.line
    rw [resume_halt e a] at verdict
    rw [before]
    constructor
    · intro n _
      rw [verdict]
      exact ⟨not_textual, fun passed => absurd passed not_passed⟩
    · intro m error
      cases rest : (r.next (.ofFunction .ok) ()).reader.all .ok with
      | error m' =>
        rw [rest] at error
        cases error
        refine ⟨m'.line, m'.fault, rfl, .inr ⟨past, r, s, i, halt, s', reached, e, a, ?_, verdict⟩⟩
        rw [same]
        exact Reader.line_lt_of_all_error rest
      | ok is =>
        rw [rest] at error
        cases error

/-- A malformed line is found behind a check that halts the run. -/
theorem runText_of_validate_malformed :
    let text := "E f\nx\n".toList
    let disk : FileTree := ⟨[([['f']], .file [69, 32, 102, 10, 120, 10] false)]⟩
    Suite.validate disk ['/'] ['f'] = .error (.misread ⟨2, .malformed 2⟩) ∧
      ((runText echo.behaviour ['/'] echo.config ['t'] text disk).verdict = .faulty 2 (.malformed 2) ∨
        ∃ (halt : Halt) (line : Nat), line < 2 ∧
          (runText echo.behaviour ['/'] echo.config ['t'] text disk).verdict = halt.verdict line) := by
  intro text disk
  have stored : disk.readText (FileTree.absolute ['/'] ['f']) = .ok (String.ofList text) := rfl
  have literal : IsLiteral false (Text.lines text) := by decide
  have made : Scratch.create disk ['/'] ['t'] =
    .ok (['/', 't', '_', '0'], disk.put [['t', '_', '0']] .directory) := rfl
  have invalid : Suite.validate disk ['/'] ['f'] = .error (.misread ⟨2, .malformed 2⟩) := by
    rw [validate_of_stored stored]
    rfl
  obtain ⟨line, f, same, ended⟩ :=
    (@runText_of_validate { echo with here := ['/'], work := ['/', 't', '_', '0'] } _ _ _ _ _ _ _
      stored literal made).2 _ invalid
  cases same
  refine ⟨invalid, ?_⟩
  rcases ended with faulty | ⟨_, _, _, _, halt, _, _, _, _, before, halted⟩
  · exact .inl faulty
  · exact .inr ⟨halt, _, before, halted⟩

end Scene

end Transcript
