import Mathlib.Tactic.Common
import Transcript.Proofs.Expectation.Lines
import Transcript.Proofs.Run.History
import Transcript.Proofs.Script.Texts
import Transcript.Proofs.Variables.Absence

/-!
# Single lines

No line feed comes into a running script: its lines have none, the groups of a comparison are parts of
a line of the output, and a value is a part of a line with its references replaced. So at every point of a
run the names, the values and the groups, and with them every line that is expanded and every text of an
instruction, stand on a single line (`Scene.Reaches.singleLine`).
-/

namespace Transcript

open Script (Reader IsName)
open Text (trimEnd)

/-- Definitions go by names, and neither a value nor a group has a line feed. -/
structure Variables.IsSingleLine (vars : Variables) : Prop where
  names : ∀ d ∈ vars.defs, IsName d.1
  lacks : vars.Lacks '\n'

namespace Variables.IsSingleLine

variable {vars : Variables} {name value raw line : List Char}

/-- Nothing is defined at the beginning. -/
lemma empty : IsSingleLine {} where
  names := nofun
  lacks := .empty _

/-- A name may be set to a value on a single line. -/
lemma set (h : vars.IsSingleLine) (hn : IsName name) (hv : '\n' ∉ value) :
    (vars.set name value).IsSingleLine where
  names := by
    intro d hd
    rcases List.mem_cons.1 hd with rfl | others
    · exact hn
    · exact h.names d ((List.mem_filter.1 others).1)
  lacks := h.lacks.set name hv

/-- Groups on single lines may be recorded. -/
lemma recordGroups (h : vars.IsSingleLine) {groups} (hg : ∀ g ∈ groups, '\n' ∉ g) :
    (vars.recordGroups groups).IsSingleLine where
  names := h.names
  lacks := h.lacks.recordGroups hg

/-- A line without line feeds has none when its references have been replaced, its end trimmed or not. -/
lemma expanded (h : vars.IsSingleLine) (hl : '\n' ∉ raw)
    (e : vars.substitute raw = .ok line ∨ vars.substitute (trimEnd raw) = .ok line) : '\n' ∉ line := by
  rcases e with whole | trimmed
  · exact h.lacks.substitute hl whole
  · refine h.lacks.substitute ?_ trimmed
    exact fun there => hl ((Text.trimEnd_isPrefix raw).subset there)

end Variables.IsSingleLine

namespace Scene

variable {scene : Scene} {s s' : Session} {i : Instruction}

/-- An instruction whose texts stand on single lines leaves variables that do. -/
lemma Effect.isSingleLine (ef : scene.Effect s i s') (h : s.vars.IsSingleLine)
    (texts : ∀ t ∈ i.texts, '\n' ∉ t) (names : ∀ name value, i = .define name value → IsName name) :
    s'.vars.IsSingleLine := by
  cases ef with
  | @runAndCheck command expected mode output t groups run accepted =>
    cases groups with
    | none => exact h
    | some groups =>
      obtain ⟨pair, compared, parts⟩ := Expectation.isInfix_of_accepted accepted
      apply h.recordGroups
      intro g hg newline
      exact Expectation.newline_not_mem compared ((parts g hg).subset newline)
  | @define name raw value e =>
    have oneLine : '\n' ∉ raw := texts raw (by simp [Instruction.texts])
    exact h.set (names name raw rfl) (h.lacks.substitute oneLine e)
  | _ => exact h

/-- Lines without line feeds are read as texts without line feeds. -/
lemma newline_not_mem_of_read {r : Reader} (h : s.vars.IsSingleLine) (lines : ∀ raw ∈ r.rest, '\n' ∉ raw)
    (e : (s.read r).result = .ok (some i)) : ∀ t ∈ i.texts, '\n' ∉ t := by
  intro t ht newline
  obtain ⟨raw, hraw, line, expanded, part⟩ := (Reader.next_reads e).isInfix t ht
  exact h.expanded (lines raw hraw) expanded (part.subset newline)

variable {r : Reader} {past : List Event}

/-- At every point of a run the variables stand on single lines, as the lines that are left do. -/
lemma Reaches.isSingleLine {text timeout tree}
    (h : scene.Reaches (.ofText text) ⟨timeout, {}, tree⟩ past r s) :
    s.vars.IsSingleLine ∧ ∀ raw ∈ r.rest, '\n' ∉ raw := by
  have left {past r s} (h : scene.Reaches (.ofText text) ⟨timeout, {}, tree⟩ past r s) :
      ∀ raw ∈ r.rest, '\n' ∉ raw := by
    obtain ⟨front, split, -⟩ := h.front
    intro raw hraw
    have member : raw ∈ Text.lines text := by
      rw [show Text.lines text = _ from split]
      exact List.mem_append_right front hraw
    exact Text.newline_not_mem_of_mem_lines member
  refine ⟨?_, left h⟩
  generalize start : (⟨timeout, {}, tree⟩ : Session) = s₀ at h left
  induction h with
  | start =>
    subst start
    exact .empty
  | goOn before e a ih =>
    refine (apply_effect a).isSingleLine ih (newline_not_mem_of_read ih (left before) e) ?_
    rintro name value rfl
    exact (Reader.next_reads e).isName

/-- At every point of a run a definition goes by a name, which is no key of a group, and no value and no
group has a line feed. So no line that is expanded for the reader has one, nor has any text of the
instruction that is read, a command that is run among them; and an instruction that halts the script
leaves all of this as it is. -/
theorem Reaches.singleLine {text timeout tree}
    (h : scene.Reaches (.ofText text) ⟨timeout, {}, tree⟩ past r s) :
    (∀ d ∈ s.vars.defs, IsName d.1 ∧ Variables.isGroupKey d.1 = false ∧ '\n' ∉ d.2) ∧
    (∀ g ∈ s.vars.groups, '\n' ∉ g) ∧
    (∀ raw ∈ r.rest, ∀ line, s.vars.substitute raw = .ok line ∨
      s.vars.substitute (trimEnd raw) = .ok line → '\n' ∉ line) ∧
    (∀ i, (s.read r).result = .ok (some i) → ∀ t ∈ i.texts, '\n' ∉ t) ∧
    (∀ command expected mode, (s.read r).result = .ok (some (.runAndCheck command expected mode)) →
      '\n' ∉ scene.config.subject.invocation → '\n' ∉ (scene.invocation command s).line) ∧
    (∀ i halt s', (s.read r).result = .ok (some i) → scene.apply s i = (some halt, s') →
      s'.vars = s.vars) := by
  obtain ⟨vars, lines⟩ := h.isSingleLine
  have texts i := newline_not_mem_of_read (i := i) vars lines
  refine ⟨?_, vars.lacks.groups, ?_, texts, ?_, fun _ _ _ _ a => (apply_stop a).vars_eq⟩
  · intro d hd
    exact ⟨vars.names d hd, (vars.names d hd).not_isGroupKey, vars.lacks.values d hd⟩
  · intro raw hraw line
    exact vars.expanded (lines raw hraw)
  · intro command expected mode e configured
    have oneLine : '\n' ∉ command := texts _ e command (by simp [Instruction.texts])
    have operands : '\n' ∉ Text.trim command := fun there => oneLine (Text.trim_subset _ there)
    simp only [invocation, Subject.commandLine]
    split
    · exact operands
    · intro there
      rcases List.mem_append.1 there with there | there
      · exact configured (Text.trim_subset _ there)
      · rcases List.mem_cons.1 there with same | there
        · cases same
        · exact operands there

/-- A definition is written by the program under test, which records a group, and the group is read. -/
theorem singleLine_group :
    ∃ past r s, echo.Reaches
        (.ofText "D x \"1\"\n> ${x}\n(.)\n<<<*\nE ${1}\n".toList) blank past r s ∧
      (∀ d ∈ s.vars.defs, IsName d.1 ∧ Variables.isGroupKey d.1 = false ∧ '\n' ∉ d.2) ∧
      (∀ g ∈ s.vars.groups, '\n' ∉ g) ∧
      s.vars = ⟨[(['x'], ['1'])], [['1'], ['1']]⟩ ∧
      (s.read r).result = .ok (some (.checkExists ['1'])) ∧
      ∀ t ∈ (Instruction.checkExists ['1']).texts, '\n' ∉ t := by
  have defined : echo.Reaches (.ofText "D x \"1\"\n> ${x}\n(.)\n<<<*\nE ${1}\n".toList) blank _ _
      ⟨.of 5 0, ⟨[(['x'], ['1'])], []⟩, {}⟩ :=
    .goOn (i := .define ['x'] ['1']) .start (by decide) (by decide)
  have h : echo.Reaches _ _ _ _ ⟨.of 5 0, ⟨[(['x'], ['1'])], [['1'], ['1']]⟩, {}⟩ :=
    defined.goOn (i := .runAndCheck ['1'] [['(', '.', ')']] .pattern) (by decide) (by decide +kernel)
  obtain ⟨defs, groups, -, texts, -⟩ := h.singleLine
  have read : (Session.read ⟨.of 5 0, ⟨[(['x'], ['1'])], [['1'], ['1']]⟩, {}⟩
      ⟨["E ${1}".toList], 4⟩).result = .ok (some (.checkExists ['1'])) := by decide
  exact ⟨_, _, _, h, defs, groups, rfl, read, texts _ read⟩

end Scene

end Transcript
