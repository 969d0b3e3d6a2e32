import Mathlib.Tactic.Common
import Transcript.Proofs.EditDistance.Recurrence
import Transcript.Proofs.Expectation.Comparison
import Transcript.Proofs.Expectation.Lines
import Transcript.Proofs.Run.Resume
import Transcript.Proofs.Script.Block
import Transcript.Proofs.Script.Forms

/-!
# Recorded commands

A command and what it wrote make a script. Where the command writes the same again, the script passes
(`Scene.execute_transcript`): the lines that are read back as expected output are those that the output
is cut into, up to blank characters around them and blank lines at the end.
-/

namespace Transcript

open Script (Reader Expander terminator?)
open Text (trim trimStart trimEnd lines splitAt dropReturn)

namespace Text

/-- A text with its last line ended. -/
def closed (s : List Char) : List Char :=
  if s = [] ∨ s.getLast? = some '\n' then s else s ++ ['\n']

/-- The lines of a closed text are pieces of the text, and all that matter after trimming. -/
lemma lines_closed (s t) :
    ∃ block, lines (closed s ++ t) = block.map dropReturn ++ lines t ∧
      (∀ l ∈ block, l ∈ splitAt '\n' s) ∧
      Expectation.trimmed block = Expectation.trimmed (splitAt '\n' s) := by
  unfold closed
  split
  · rename_i h
    rcases h with rfl | h
    · exact ⟨[], rfl, nofun, rfl⟩
    -- the empty piece behind the last line feed is no line, and does not matter after trimming
    · obtain ⟨q, rfl⟩ := List.getLast?_eq_some_iff.1 h
      refine ⟨splitAt '\n' q, ?_, ?_, ?_⟩
      · rw [List.append_assoc, List.singleton_append, lines_newline_append]
      · intro l hl
        rw [splitAt_concat_sep]
        exact List.mem_append_left _ hl
      · rw [splitAt_concat_sep, Expectation.trimmed_concat_blank rfl]
  · refine ⟨splitAt '\n' s, ?_, fun l hl => hl, rfl⟩
    rw [List.append_assoc, List.singleton_append, lines_newline_append]

end Text

namespace Expectation

/-- Equal lines pass. -/
lemma compare_exact_of_eq {expected output}
    (same : (significant expected).map trim = (significant (outputLines output)).map trim) :
    compare expected output .exact = .accepted none := by
  refine compare_accepted_iff.2 ⟨?_, ?_, (lastGroups_exact _).symm⟩
  · have length := congrArg List.length same
    rw [List.length_map, List.length_map] at length
    exact length
  · intro p hp
    rw [comparedLines, same] at hp
    rw [List.zip_eq_zipWith, List.zipWith_self] at hp
    obtain ⟨l, _, rfl⟩ := List.mem_map.1 hp
    simp only [testLine, EditDistance.editDistance_self]
    rfl

end Expectation

/-- The script of a command and what it wrote. -/
def transcript (command output : List Char) : List Char :=
  '>' :: ' ' :: command ++ '\n' :: (Text.closed output ++ ['<', '<', '<'])

section Transcripts

variable {command output ending : List Char}

/-- The lines of a transcript are the command, pieces of the output and a terminator. -/
lemma lines_transcript (output) (oneLine : '\n' ∉ command) (ended : ending = [] ∨ ending = ['\n']) :
    ∃ block, lines (transcript command output ++ ending) =
        ('>' :: ' ' :: dropReturn command) :: (block.map dropReturn ++ [['<', '<', '<']]) ∧
      (∀ l ∈ block, l ∈ splitAt '\n' output) ∧
      Expectation.trimmed block = Expectation.trimmed (splitAt '\n' output) := by
  obtain ⟨block, cut, pieces, same⟩ := Text.lines_closed output (['<', '<', '<'] ++ ending)
  refine ⟨block, ?_, pieces, same⟩
  have last : lines (['<', '<', '<'] ++ ending) = [['<', '<', '<']] := by
    rcases ended with rfl | rfl <;> rfl
  have first : dropReturn ('>' :: ' ' :: command) = '>' :: ' ' :: dropReturn command := by
    rw [Text.dropReturn_cons (fun h => absurd h (by decide)),
      Text.dropReturn_cons (fun h => absurd h (by decide))]
  have alone : '\n' ∉ '>' :: ' ' :: command := by simp [oneLine]
  have shape : transcript command output ++ ending = ('>' :: ' ' :: command) ++ '\n' ::
      (Text.closed output ++ (['<', '<', '<'] ++ ending)) := by
    simp only [transcript, List.cons_append, List.append_assoc]
  rw [shape, Text.lines_newline_append, Text.splitAt_of_not_mem alone, cut, last, List.map_singleton,
    first, List.singleton_append]

/-- From a transcript its command is read, with the output as expected output, and nothing is left. -/
lemma read_transcript (s : Session) (oneLine : '\n' ∉ command) (plain : Variables.IsPlain command)
    (outside : ∀ l ∈ splitAt '\n' output, Variables.IsPlain l ∧ Script.IsOutside l)
    (ended : ending = [] ∨ ending = ['\n']) :
    ∃ expected, (s.read (.ofText (transcript command output ++ ending))).result =
        .ok (some (.runAndCheck (trim command) expected .exact)) ∧
      (s.read (.ofText (transcript command output ++ ending))).reader.rest = [] ∧
      Expectation.trimmed expected = Expectation.trimmed (splitAt '\n' output) := by
  obtain ⟨block, whole, pieces, same⟩ := lines_transcript output oneLine ended
  have still : Variables.IsPlain ('>' :: ' ' :: dropReturn command) :=
    ((plain.of_isInfix (Text.dropReturn_isPrefix command).isInfix).cons (by decide)).cons (by decide)
  have line : s.expander ('>' :: ' ' :: dropReturn command) () =
      (.ok ('>' :: ' ' :: dropReturn command), ()) := by
    rw [Session.expander, Expander.ofFunction, Variables.substitute_of_plain _ still]
  have form : Script.readForm 1 ('>' :: ' ' :: dropReturn command) = .ok (.command (trim command)) := by
    rw [Script.readForm_command (fun h => oneLine ((Text.dropReturn_isPrefix command).subset h)),
      Text.trim_dropReturn]
  have word : Script.isComment ('>' :: ' ' :: dropReturn command) = false := rfl
  have kept : ∀ l ∈ block, Script.IsOutside l ∧
      s.vars.substitute (trimEnd l) = .ok (trimEnd l) := by
    intro l hl
    obtain ⟨hp, ho⟩ := outside l (pieces l hl)
    exact ⟨ho, Variables.substitute_of_plain _ (hp.of_isInfix (Text.trimEnd_isPrefix l).isInfix)⟩
  have read := Script.readBlock_kept _ kept
    (show terminator? (trimEnd ['<', '<', '<']) = some .exact from rfl) (trim command) [] 1 []
  refine ⟨block.map trimEnd, ?_, ?_, ?_⟩
  · rw [Session.read, Reader.ofText, whole, Reader.next_command word line form, Session.expander, read]
    rfl
  · rw [Session.read, Reader.ofText, whole, Reader.next_command word line form, Session.expander, read]
  · rw [Expectation.trimmed_map Text.trim_trimEnd, same]

end Transcripts

namespace Scene

variable {scene : Scene} {s : Session} {command output ending : List Char} {t : FileTree}

/-- A command is invoked without the blank characters around it. -/
lemma invocation_trim (scene : Scene) (command s) :
    scene.invocation (trim command) s = scene.invocation command s := by
  simp only [invocation, Subject.commandLine, Text.trim_trim]

/-- A command whose output is as expected goes on. -/
lemma apply_runAndCheck {expected mode groups}
    (run : scene.behaviour (scene.invocation command s) s.tree = (.ok (.success output), t))
    (accepted : Expectation.compare expected output mode = .accepted groups) :
    scene.apply s (.runAndCheck command expected mode) =
      (none, { s with vars := groups.elim s.vars s.vars.recordGroups, tree := t }) := by
  rw [apply, runAndCheck, run]
  simp only [checkOutput, accepted]
  cases groups <;> rfl

/-- A recorded command passes wherever it writes the same again, and changes what the command does. -/
theorem execute_transcript
    (run : scene.behaviour (scene.invocation command s) s.tree = (.ok (.success output), t))
    (oneLine : '\n' ∉ command) (plain : Variables.IsPlain command)
    (outside : ∀ l ∈ splitAt '\n' output, Variables.IsPlain l ∧ Script.IsOutside l)
    (ended : ending = [] ∨ ending = ['\n']) :
    scene.execute (transcript command output ++ ending) s = (.passed, { s with tree := t }) := by
  obtain ⟨expected, read, left, same⟩ := read_transcript s oneLine plain outside ended
  have accepted : Expectation.compare expected output .exact = .accepted none := by
    apply Expectation.compare_exact_of_eq
    rw [Expectation.map_trim_significant, same, Expectation.map_trim_significant_outputLines]
  -- the command is read without the blank characters around it, which its invocation does not show
  rw [← invocation_trim] at run
  rw [execute_eq_resume, resume_goOn read (apply_runAndCheck run accepted)]
  apply resume_end
  rw [Session.read, Reader.next, left]

/-- A command that writes one line replays. -/
theorem execute_transcript_echo :
    echo.execute "> a b\na b\n<<<\n".toList blank = (.passed, blank) := by
  have run : echo.behaviour (echo.invocation "a b".toList blank) blank.tree =
    (.ok (.success "a b\n".toList), blank.tree) := rfl
  exact execute_transcript run (by decide) (by decide) (by decide) (.inr rfl)

end Scene

end Transcript
