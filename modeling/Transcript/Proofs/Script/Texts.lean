import Mathlib.Tactic.Common
import Transcript.Proofs.Script.Block
import Transcript.Proofs.Script.Forms
import Transcript.Variables

/-!
# Texts of instructions

Every text of an instruction is a part of one of the lines it is read from, as that line is expanded
(`Reads.isInfix`). What is defined is a name (`Reads.isName`), and no name refers to a group.
-/

namespace Transcript

/-- The texts of an instruction. -/
def Instruction.texts : Instruction → List (List Char)
  | .comment | .setTimeout _ => []
  | .copyFile dest src => [dest, src]
  | .deleteFile name | .checkAbsent name | .checkExists name => [name]
  | .runAndCheck command expected _ => command :: expected
  | .checkContent name reference => [name, reference]
  | .define name value => [name, value]

namespace Script

open Text (trimStart trimEnd spanWord)

section Parts

variable {s r v w name value : List Char}

/-- Trimming leaves a part of a text. -/
lemma trimStart_isInfix (s) : trimStart s <:+: s :=
  (List.dropWhile_suffix _).isInfix

/-- A word is a part of its text. -/
lemma word?_isInfix (h : word? s = some w) : w <:+: s := by
  unfold word? at h
  rw [spanWord, List.span_eq_takeWhile_dropWhile] at h
  split at h
  · cases h
  · cases h
    exact (List.takeWhile_prefix _).isInfix.trans (trimStart_isInfix s)

/-- Two words are parts of their text. -/
lemma twoWords?_isInfix (h : twoWords? s = some (v, w)) : v <:+: s ∧ w <:+: s := by
  unfold twoWords? at h
  rw [spanWord, List.span_eq_takeWhile_dropWhile] at h
  simp only at h
  split at h
  · cases h
  · obtain ⟨second, word, same⟩ := Option.map_eq_some_iff.1 h
    cases same
    constructor
    · exact (List.takeWhile_prefix _).isInfix.trans (trimStart_isInfix s)
    · exact (word?_isInfix word).trans ((List.dropWhile_suffix _).isInfix.trans (trimStart_isInfix s))

/-- A command is a part of its line. -/
lemma commandText_isInfix (s) : commandText s <:+: s :=
  (Text.trimEnd_isPrefix _).isInfix.trans
    ((List.takeWhile_prefix _).isInfix.trans (trimStart_isInfix s))

/-- What stands before the last quote begins the text. -/
lemma beforeLastQuote?_isPrefix (h : beforeLastQuote? s = some v) : v <+: s := by
  rw [beforeLastQuote?, List.span_eq_takeWhile_dropWhile] at h
  have whole := List.takeWhile_append_dropWhile (p := (· ≠ '"')) (l := s.reverse)
  cases e : s.reverse.dropWhile (· ≠ '"') with
  | nil =>
    rw [e] at h
    cases h
  | cons c before =>
    rw [e] at h whole
    simp only at h
    split at h
    · cases h
      have same := congrArg List.reverse whole
      rw [List.reverse_reverse, List.reverse_append, List.reverse_cons, List.append_assoc] at same
      exact ⟨_, same⟩
    · cases h

/-- A name and a value are parts of their line. -/
lemma definition?_isInfix (h : definition? s = some (name, value)) : name <:+: s ∧ value <:+: s := by
  obtain ⟨c, r, quoted, start, -, rfl, behind, cut, -⟩ := definition?_some h
  have line : c :: r <:+: s := start ▸ trimStart_isInfix s
  have rest : r.dropWhile isNameChar <:+: c :: r :=
    ((List.dropWhile_suffix _).trans (List.suffix_cons c r)).isInfix
  have open_ : '"' :: quoted <:+: r.dropWhile isNameChar := behind ▸ trimStart_isInfix _
  have value : value <:+: '"' :: quoted :=
    (beforeLastQuote?_isPrefix cut).isInfix.trans (List.suffix_cons _ quoted).isInfix
  constructor
  · exact ((List.prefix_cons_inj c).2 (List.takeWhile_prefix _)).isInfix.trans line
  · exact value.trans (open_.trans (rest.trans line))

/-- What is defined is a name. -/
lemma definition?_isName (h : definition? s = some (name, value)) : IsName name := by
  obtain ⟨c, r, quoted, -, first, rfl, -⟩ := definition?_some h
  exact ⟨first, fun d hd => List.mem_takeWhile_imp hd⟩

/-- No name is the key of a group. -/
lemma IsName.not_isGroupKey (h : IsName name) : Variables.isGroupKey name = false := by
  cases name with
  | nil => exact h.elim
  | cons c r =>
    have letter : c.isDigit = false := by
      have above := (toNat_of_isNameStart h.1).1
      by_contra digit
      simp only [Char.isDigit, Bool.not_eq_false, Bool.and_eq_true, decide_eq_true_eq,
        UInt32.le_iff_toNat_le] at digit
      exact absurd (above.trans digit.2) (by decide)
    simp only [Variables.isGroupKey, List.all_cons, letter, Bool.false_and, Bool.and_false]

end Parts

section Reading

variable {expand : List Char → Except Fault (List Char)} {line : Nat} {ls : List (List Char)}
variable {s : List Char} {i : Instruction}

/-- The texts of a form are parts of its line. -/
lemma HasForm.isInfix (h : HasForm s (.whole i)) : ∀ t ∈ i.texts, t <:+: s := by
  have behind (c : Char) {t r : List Char} (part : t <:+: r) : t <:+: c :: r :=
    part.trans (List.suffix_cons c r).isInfix
  cases h with
  | comment => exact nofun
  | setTimeout => exact nofun
  | copyFile words =>
    obtain ⟨dest, src⟩ := twoWords?_isInfix words
    exact List.forall_mem_cons.2 ⟨behind _ dest, List.forall_mem_singleton.2 (behind _ src)⟩
  | deleteFile word => exact List.forall_mem_singleton.2 (behind _ (word?_isInfix word))
  | checkContent words =>
    obtain ⟨name, reference⟩ := twoWords?_isInfix words
    exact List.forall_mem_cons.2 ⟨behind _ name, List.forall_mem_singleton.2 (behind _ reference)⟩
  | checkAbsent word => exact List.forall_mem_singleton.2 (behind _ (word?_isInfix word))
  | checkExists word => exact List.forall_mem_singleton.2 (behind _ (word?_isInfix word))
  | define definition =>
    obtain ⟨name, value⟩ := definition?_isInfix definition
    exact List.forall_mem_cons.2 ⟨behind _ name, List.forall_mem_singleton.2 (behind _ value)⟩

/-- The texts of an instruction are parts of the lines it is read from. -/
theorem Reads.isInfix (h : Reads expand line ls i) :
    ∀ t ∈ i.texts, ∃ raw ∈ ls, ∃ s, (expand raw = .ok s ∨ expand (trimEnd raw) = .ok s) ∧ t <:+: s := by
  cases h with
  | comment => exact nofun
  | @whole raw s i rest e o =>
    intro t ht
    exact ⟨raw, List.mem_cons_self, s, .inl e, (readForm_ok o).isInfix t ht⟩
  | @command raw s command block expected last mode rest e o isBlock _ =>
    refine List.forall_mem_cons.2 ⟨⟨raw, List.mem_cons_self, s, .inl e, ?_⟩, ?_⟩
    · cases readForm_ok o with
      | command r => exact (commandText_isInfix r).trans (List.suffix_cons '>' r).isInfix
    · intro t ht
      obtain ⟨l, hl, e⟩ := isBlock.exists_raw ht
      exact ⟨l, List.mem_cons_of_mem _ (List.mem_append_left _ hl), t, .inr e, List.infix_rfl⟩

/-- What is defined goes by a name. -/
theorem Reads.isName {name value} (h : Reads expand line ls (.define name value)) : IsName name := by
  cases h with
  | whole rest e o =>
    cases readForm_ok o with
    | define definition => exact definition?_isName definition

end Reading

end Script

end Transcript
