import Mathlib.Data.List.Forall2
import Mathlib.Tactic.Common
import Transcript.Proofs.Script.Block
import Transcript.Proofs.Script.Forms
import Transcript.Proofs.Script.Whole

/-!
# Written scripts

How instructions are written: each on a line of its own, but for a command, whose expected output and
terminator stand on the lines behind it. What is written is read back, line for line
(`all_unlines`): no form takes a line of another, and a block takes its own lines only.
-/

namespace Transcript.Script

open Number (Binary64 readNumber?)
open Text (trim trimEnd lines dropReturn)

/-- The line that ends the expected output of a command. -/
def terminator : Mode → List Char
  | .exact => ['<', '<', '<']
  | .pattern => ['<', '<', '<', '*']

/-- The lines that an instruction may be written on. -/
inductive Written : Instruction → List (List Char) → Prop where
  | comment {text} :
    '\n' ∉ text →
    Written .comment ['#' :: ' ' :: text]
  | setTimeout {numeral secs} :
    IsWord numeral → readNumber? numeral = some secs → secs.isTime = true →
    Written (.setTimeout secs) ['T' :: ' ' :: numeral]
  | copyFile {dest src} :
    IsWord dest → IsWord src →
    Written (.copyFile dest src) ['+' :: ' ' :: (dest ++ ' ' :: src)]
  | deleteFile {name} :
    IsWord name →
    Written (.deleteFile name) ['-' :: ' ' :: name]
  | runAndCheck {command expected} (mode) :
    '\n' ∉ command → trim command = command →
    (∀ l ∈ expected, '\n' ∉ l ∧ trimEnd l = l ∧ l ≠ terminator .exact ∧ l ≠ terminator .pattern) →
    Written (.runAndCheck command expected mode)
      (('>' :: ' ' :: command) :: (expected ++ [terminator mode]))
  | checkContent {name reference} :
    IsWord name → IsWord reference →
    Written (.checkContent name reference) ['=' :: ' ' :: (name ++ ' ' :: reference)]
  | checkAbsent {name} :
    IsWord name →
    Written (.checkAbsent name) ['*' :: ' ' :: name]
  | checkExists {name} :
    IsWord name →
    Written (.checkExists name) ['E' :: ' ' :: name]
  | define {name value} :
    IsName name → '\n' ∉ value →
    Written (.define name value) ['D' :: ' ' :: (name ++ ' ' :: '"' :: (value ++ ['"']))]

/-- The text of several lines, each ended by a line feed. -/
def unlines (ls : List (List Char)) : List Char :=
  ls.flatMap (· ++ ['\n'])

section Lines

/-- Lines without line feeds are read back, without the carriage returns at their ends. -/
lemma lines_unlines {ls} (h : ∀ l ∈ ls, '\n' ∉ l) : lines (unlines ls) = ls.map dropReturn := by
  induction ls with
  | nil => rfl
  | cons l ls ih =>
    obtain ⟨alone, others⟩ := List.forall_mem_cons.1 h
    have shape : unlines (l :: ls) = l ++ '\n' :: unlines ls := by
      rw [unlines, List.flatMap_cons, List.append_assoc, List.singleton_append]
      rfl
    rw [shape, Text.lines_newline_append, Text.splitAt_of_not_mem alone, ih others]
    rfl

/-- A line keeps its end where that is not blank. -/
lemma dropReturn_of_trimEnd {l} (h : trimEnd l = l) : dropReturn l = l := by
  unfold dropReturn
  split
  · rename_i e
    obtain ⟨q, rfl⟩ := List.getLast?_eq_some_iff.1 e
    -- a carriage return at the end would have been trimmed
    rw [trimEnd, Text.trimEndWhile_concat, if_pos (by decide)] at h
    have shorter := (Text.trimEnd_isPrefix q).length_le
    rw [trimEnd, h, List.length_append] at shorter
    exact absurd shorter (by simp)
  · rfl

/-- The end of a line that ends with a word stays. -/
lemma dropReturn_append_word {w} (h : IsWord w) (p) : dropReturn (p ++ w) = p ++ w := by
  obtain ⟨ne, visible⟩ := h
  rcases List.eq_nil_or_concat w with rfl | ⟨q, c, rfl⟩
  · exact absurd rfl ne
  · have last : ¬ Text.isBlank c = true := by simp [visible c (by simp)]
    apply dropReturn_of_trimEnd
    rw [List.concat_eq_append, ← List.append_assoc, trimEnd, Text.trimEndWhile_concat, if_neg last]

/-- The end of a line of one word stays. -/
lemma dropReturn_word {w} (h : IsWord w) (c) : dropReturn (c :: ' ' :: w) = c :: ' ' :: w :=
  dropReturn_append_word h [c, ' ']

/-- The end of a line of two words stays. -/
lemma dropReturn_words {w} (h : IsWord w) (c v) :
    dropReturn (c :: ' ' :: (v ++ ' ' :: w)) = c :: ' ' :: (v ++ ' ' :: w) := by
  have words := dropReturn_append_word h (c :: ' ' :: (v ++ [' ']))
  rw [List.cons_append, List.cons_append, List.append_assoc, List.singleton_append] at words
  exact words

/-- A word has no line feeds. -/
lemma IsWord.newline_not_mem {w} (h : IsWord w) : '\n' ∉ w := by
  intro inside
  exact absurd (h.2 '\n' inside) (by decide)

/-- A name has no line feeds. -/
lemma IsName.newline_not_mem {n} (h : IsName n) : '\n' ∉ n := by
  cases n with
  | nil => exact h.elim
  | cons c r =>
    obtain ⟨first, others⟩ := h
    intro inside
    rcases List.mem_cons.1 inside with rfl | inside
    · exact absurd first (by decide)
    · exact absurd (others '\n' inside) (by decide)

/-- The lines of an instruction have no line feeds. -/
lemma Written.newline_not_mem {i block} (w : Written i block) : ∀ l ∈ block, '\n' ∉ l := by
  cases w with
  | comment h => simpa using h
  | setTimeout word _ _ => simpa using word.newline_not_mem
  | copyFile dest src => simpa using ⟨dest.newline_not_mem, src.newline_not_mem⟩
  | deleteFile name => simpa using name.newline_not_mem
  | runAndCheck mode command _ expected =>
    intro l hl
    rcases List.mem_cons.1 hl with rfl | hl
    · simpa using command
    · rcases List.mem_append.1 hl with hl | hl
      · exact (expected l hl).1
      · rw [List.mem_singleton.1 hl]
        cases mode <;> decide
  | checkContent name reference => simpa using ⟨name.newline_not_mem, reference.newline_not_mem⟩
  | checkAbsent name => simpa using name.newline_not_mem
  | checkExists name => simpa using name.newline_not_mem
  | define name value => simpa using ⟨name.newline_not_mem, value⟩

end Lines

section Reading

variable {i : Instruction} {raw : List Char} {block : List (List Char)}

/-- A line that is kept and has a whole form is read alone. -/
lemma next_whole_line (kept : dropReturn raw = raw) (c : isComment raw = false)
    (form : ∀ line, readForm line raw = .ok (.whole i)) (rest line) :
    Reader.next ⟨[raw].map dropReturn ++ rest, line⟩ (.ofFunction .ok) () =
      ⟨.ok (some i), ⟨rest, line + [raw].length⟩, ()⟩ := by
  rw [List.map_singleton, kept, List.singleton_append,
    Reader.next_whole c (Expander.ofFunction_eq rfl) (form _)]
  rfl

/-- A line of one word is read by the form that its first character stands for. -/
lemma next_word {c name} {make : List Char → Instruction} (word : IsWord name)
    (plain : isComment (c :: ' ' :: name) = false)
    (form : ∀ line r, readForm line (c :: r) = wholeOr line ((word? r).map make)) (rest line) :
    Reader.next ⟨[c :: ' ' :: name].map dropReturn ++ rest, line⟩ (.ofFunction .ok) () =
      ⟨.ok (some (make name)), ⟨rest, line + [c :: ' ' :: name].length⟩, ()⟩ := by
  apply next_whole_line (dropReturn_word word c) plain
  intro line
  rw [form, word?_written word]
  rfl

/-- So is a line of two words. -/
lemma next_words {c v w} {make : List Char → List Char → Instruction} (first : IsWord v)
    (second : IsWord w) (plain : isComment (c :: ' ' :: (v ++ ' ' :: w)) = false)
    (form : ∀ line r, readForm line (c :: r) =
      wholeOr line ((twoWords? r).map fun w => make w.1 w.2)) (rest line) :
    Reader.next ⟨[c :: ' ' :: (v ++ ' ' :: w)].map dropReturn ++ rest, line⟩ (.ofFunction .ok) () =
      ⟨.ok (some (make v w)), ⟨rest, line + [c :: ' ' :: (v ++ ' ' :: w)].length⟩, ()⟩ := by
  apply next_whole_line (dropReturn_words second c v) plain
  intro line
  rw [form, twoWords?_written first second]
  rfl

/-- A command is read with its block. -/
lemma next_runAndCheck {command expected} (mode) (oneLine : '\n' ∉ command)
    (trimmed : trim command = command)
    (outside : ∀ l ∈ expected,
      '\n' ∉ l ∧ trimEnd l = l ∧ l ≠ terminator .exact ∧ l ≠ terminator .pattern) (rest line) :
    Reader.next ⟨(('>' :: ' ' :: command) :: (expected ++ [terminator mode])).map dropReturn ++ rest,
        line⟩ (.ofFunction .ok) () =
      ⟨.ok (some (.runAndCheck command expected mode)),
        ⟨rest, line + (('>' :: ' ' :: command) :: (expected ++ [terminator mode])).length⟩, ()⟩ := by
  have first : dropReturn ('>' :: ' ' :: command) = '>' :: ' ' :: command := by
    have kept : dropReturn command = command := by
      apply dropReturn_of_trimEnd
      rw [← trimmed, trim, Text.trimEnd_trimEnd]
    rw [Text.dropReturn_cons (fun h => absurd h (by decide)),
      Text.dropReturn_cons (fun h => absurd h (by decide)), kept]
  have last : dropReturn (terminator mode) = terminator mode := by
    cases mode <;> rfl
  have ended : terminator? (trimEnd (terminator mode)) = some mode := by
    cases mode <;> rfl
  have form : readForm (line + 1) ('>' :: ' ' :: command) = .ok (.command command) := by
    rw [readForm_command oneLine, trimmed]
  have kept : ∀ l ∈ expected, IsOutside l ∧
      (.ok (trimEnd l) : Except Fault (List Char)) = .ok (trimEnd l) := by
    intro l hl
    obtain ⟨_, same, apart⟩ := outside l hl
    refine ⟨?_, rfl⟩
    rw [IsOutside, same]
    exact apart
  have same : expected.map trimEnd = expected := by
    rw [List.map_congr_left fun l hl => (outside l hl).2.1, List.map_id']
  have read := readBlock_kept .ok kept ended command [] (line + 1) rest
  rw [List.map_cons, first, List.map_append, List.map_singleton, last, List.cons_append,
    List.append_assoc, List.singleton_append,
    Reader.next_command rfl (Expander.ofFunction_eq rfl) form, read, same]
  have count : line + 1 + expected.length + 1 = line + (expected.length + 1 + 1) := by omega
  rw [List.length_cons, List.length_append, List.length_singleton, count]
  rfl

/-- An instruction is read from the lines that it is written on. -/
lemma Written.next (w : Written i block) (rest line) :
    Reader.next ⟨block.map dropReturn ++ rest, line⟩ (.ofFunction .ok) () =
      ⟨.ok (some i), ⟨rest, line + block.length⟩, ()⟩ := by
  cases w with
  | @comment text h =>
    have first : dropReturn ('#' :: ' ' :: text) = '#' :: dropReturn (' ' :: text) :=
      Text.dropReturn_cons fun e => absurd e (by decide)
    rw [List.map_singleton, first, List.singleton_append, Reader.next_comment rfl]
    rfl
  | @setTimeout numeral secs word number time =>
    apply next_whole_line (dropReturn_word word 'T') rfl
    intro line
    have form : readForm line ('T' :: ' ' :: numeral) =
        (word? (' ' :: numeral)).elim (.error (.malformed line)) timeLimit := by
      rw [readForm]
      cases word? (' ' :: numeral) <;> rfl
    rw [form, word?_written word, Option.elim_some]
    simp only [timeLimit, number, time, if_true]
  | copyFile first second => exact next_words first second rfl (fun _ _ => rfl) rest line
  | deleteFile word => exact next_word word rfl (fun _ _ => rfl) rest line
  | runAndCheck mode command trimmed expected =>
    exact next_runAndCheck mode command trimmed expected rest line
  | checkContent first second => exact next_words first second rfl (fun _ _ => rfl) rest line
  | checkAbsent word => exact next_word word rfl (fun _ _ => rfl) rest line
  | checkExists word => exact next_word word rfl (fun _ _ => rfl) rest line
  | @define name value first oneLine =>
    have kept : dropReturn ('D' :: ' ' :: (name ++ ' ' :: '"' :: (value ++ ['"']))) =
        'D' :: ' ' :: (name ++ ' ' :: '"' :: (value ++ ['"'])) := by
      have quote : IsWord ['"'] := by decide
      have words := dropReturn_append_word quote ('D' :: ' ' :: (name ++ ' ' :: '"' :: value))
      simpa using words
    apply next_whole_line kept rfl
    intro line
    have form : readForm line ('D' :: ' ' :: (name ++ ' ' :: '"' :: (value ++ ['"']))) =
        wholeOr line ((definition? (' ' :: (name ++ ' ' :: '"' :: (value ++ ['"'])))).map fun d =>
          .define d.1 d.2) := rfl
    rw [form, definition?_written first oneLine]
    rfl

/-- From the lines of several instructions these instructions are read. -/
lemma all_written {is blocks} (w : List.Forall₂ Written is blocks) (line) :
    Reader.all .ok ⟨blocks.flatten.map dropReturn, line⟩ = .ok is := by
  induction w generalizing line with
  | nil => exact Reader.all_end rfl
  | @cons i block is blocks first others ih =>
    have next := first.next (blocks.flatten.map dropReturn) line
    rw [List.flatten_cons, List.map_append, Reader.all_goOn (by rw [next]), next, ih]
    rfl

end Reading

/-- A script is read as it was written: whatever instructions there are and in whatever order, they are
read back from their lines up to the end of the script. -/
theorem all_unlines {is blocks} (w : List.Forall₂ Written is blocks) :
    (Reader.ofText (unlines blocks.flatten)).all .ok = .ok is := by
  have oneLine : ∀ l ∈ blocks.flatten, '\n' ∉ l := by
    induction w with
    | nil => exact nofun
    | cons first _ ih =>
      intro l hl
      rcases List.mem_append.1 hl with hl | hl
      · exact first.newline_not_mem l hl
      · exact ih l hl
  rw [Reader.ofText, lines_unlines oneLine]
  exact all_written w 0

/-- A value with quotes in it stands behind a block whose lines look like a comment and like a
definition. -/
theorem all_unlines_define :
    (Reader.ofText "# a\n> b\n# c\n\nD x \"y\"\n<<<*\nD x \"\"y\" \"\nT 2.5\n".toList).all .ok =
      .ok [.comment, .runAndCheck ['b'] ["# c".toList, [], "D x \"y\"".toList] .pattern,
        .define ['x'] "\"y\" ".toList, .setTimeout (.ofRatio false 5 2)] := by
  have comment : Written .comment ["# a".toList] := @Written.comment ['a'] (by decide)
  have command : Written (.runAndCheck ['b'] ["# c".toList, [], "D x \"y\"".toList] .pattern)
      ["> b".toList, "# c".toList, [], "D x \"y\"".toList, "<<<*".toList] :=
    .runAndCheck .pattern (by decide) (by decide) (by decide)
  have definition : Written (.define ['x'] "\"y\" ".toList) ["D x \"\"y\" \"".toList] :=
    .define (by decide) (by decide)
  have limit : Written (.setTimeout (.ofRatio false 5 2)) ["T 2.5".toList] :=
    @Written.setTimeout "2.5".toList _ (by decide) (by decide +kernel) (by decide +kernel)
  exact all_unlines (.cons comment (.cons command (.cons definition (.cons limit .nil))))

end Transcript.Script
