import Mathlib.Data.List.Forall2
import Mathlib.Tactic.Common
import Transcript.Proofs.Script.Inversion
import Transcript.Proofs.Script.Reading
import Transcript.Proofs.Text.Lines

/-!
# Blocks

A command is read together with the lines up to its terminator, and all of them are expanded by the
same function (`Reader.next_runAndCheck`). What is read is what stands there (`Reader.next_reads`).
-/

namespace Transcript.Script

open Text (trimEnd dropReturn)

/-- An expansion that keeps no state gives what its function gives. -/
lemma Expander.ofFunction_eq {expand : List Char → Except Fault (List Char)} {raw result}
    (e : expand raw = result) : Expander.ofFunction expand raw () = (result, ()) := by
  rw [Expander.ofFunction, e]

/-- The lines of a block before its terminator, with what they are expanded to. -/
def IsBlock (expand : List Char → Except Fault (List Char)) (block expected : List (List Char)) :
    Prop :=
  (∀ raw ∈ block, terminator? (trimEnd raw) = none) ∧
    List.Forall₂ (fun raw s => expand (trimEnd raw) = .ok s) block expected

/-- A block with a line in front of it is a block. -/
lemma IsBlock.cons {expand block expected raw s} (h : IsBlock expand block expected)
    (m : terminator? (trimEnd raw) = none) (e : expand (trimEnd raw) = .ok s) :
    IsBlock expand (raw :: block) (s :: expected) :=
  ⟨List.forall_mem_cons.2 ⟨m, h.1⟩, .cons e h.2⟩

/-- Every expected line of a block comes from a line of it. -/
lemma IsBlock.exists_raw {expand block expected s} (h : IsBlock expand block expected)
    (hs : s ∈ expected) : ∃ raw ∈ block, expand (trimEnd raw) = .ok s := by
  obtain ⟨-, pairs⟩ := h
  induction pairs with
  | nil => cases hs
  | cons e _ ih =>
    rcases List.mem_cons.1 hs with rfl | later
    · exact ⟨_, List.mem_cons_self, e⟩
    · obtain ⟨raw, hraw, e⟩ := ih later
      exact ⟨raw, List.mem_cons_of_mem _ hraw, e⟩

/-- A block that is read to its end consists of expanded lines and a terminator. -/
lemma readBlock_ok {expand command expected line ls i}
    (h : (readBlock (.ofFunction expand) command expected () line ls).result = .ok i) :
    ∃ block last rest more mode, ls = block ++ last :: rest ∧ IsBlock expand block more ∧
      terminator? (trimEnd last) = some mode ∧
      i = .runAndCheck command (expected.reverse ++ more) mode := by
  induction ls generalizing expected line with
  | nil => cases h
  | cons raw rest ih =>
    cases m : terminator? (trimEnd raw) with
    | some mode =>
      rw [readBlock_terminator m] at h
      cases h
      refine ⟨[], raw, rest, [], mode, rfl, ⟨nofun, .nil⟩, m, ?_⟩
      rw [List.append_nil]
    | none =>
      cases e : expand (trimEnd raw) with
      | error f =>
        rw [readBlock_fault m (Expander.ofFunction_eq e)] at h
        cases h
      | ok s =>
        rw [readBlock_line m (Expander.ofFunction_eq e)] at h
        obtain ⟨block, last, rest, more, mode, split, isBlock, ended, rfl⟩ := ih h
        refine ⟨raw :: block, last, rest, s :: more, mode, ?_, isBlock.cons m e, ended, ?_⟩
        · rw [split, List.cons_append]
        · rw [List.reverse_cons, List.append_assoc, List.singleton_append]

/-- A line that ends no block. -/
def IsOutside (l : List Char) : Prop :=
  trimEnd l ≠ ['<', '<', '<'] ∧ trimEnd l ≠ ['<', '<', '<', '*']

instance (l) : Decidable (IsOutside l) :=
  inferInstanceAs (Decidable (trimEnd l ≠ ['<', '<', '<'] ∧ trimEnd l ≠ ['<', '<', '<', '*']))

/-- Such a line is no terminator. -/
lemma IsOutside.terminator?_eq_none {l} (h : IsOutside l) : terminator? (trimEnd l) = none := by
  unfold terminator?
  split
  · rename_i e
    exact absurd e h.1
  · rename_i e
    exact absurd e h.2
  · rfl

/-- Lines that their expansion keeps are read as they are, with their ends trimmed. -/
lemma readBlock_kept (expand : List Char → Except Fault (List Char)) {block : List (List Char)}
    {last mode} (kept : ∀ l ∈ block, IsOutside l ∧ expand (trimEnd l) = .ok (trimEnd l))
    (ended : terminator? (trimEnd last) = some mode) (command expected line rest) :
    readBlock (.ofFunction expand) command expected () line (block.map dropReturn ++ last :: rest) =
      ⟨.ok (.runAndCheck command (expected.reverse ++ block.map trimEnd) mode),
        ⟨rest, line + block.length + 1⟩, ()⟩ := by
  induction block generalizing expected line with
  | nil =>
    rw [List.map_nil, List.map_nil, List.nil_append, List.append_nil, readBlock_terminator ended]
    rfl
  | cons l block ih =>
    obtain ⟨⟨outside, same⟩, kept⟩ := List.forall_mem_cons.1 kept
    have m : terminator? (trimEnd (dropReturn l)) = none := by
      rw [Text.trimEnd_dropReturn]
      exact outside.terminator?_eq_none
    have e : expand (trimEnd (dropReturn l)) = .ok (trimEnd l) := by
      rw [Text.trimEnd_dropReturn]
      exact same
    have count : line + 1 + block.length + 1 = line + (block.length + 1) + 1 := by omega
    rw [List.map_cons, List.cons_append, readBlock_line m (Expander.ofFunction_eq e),
      ih kept (trimEnd l :: expected) (line + 1), List.length_cons, List.map_cons,
      List.reverse_cons, List.append_assoc, List.singleton_append, count]

/-- The instruction that stands first: a comment, a line with a whole form, or a command with its block. -/
inductive Reads (expand : List Char → Except Fault (List Char)) (line : Nat) :
    List (List Char) → Instruction → Prop where
  | comment {raw} (rest) :
    isComment raw = true →
    Reads expand line (raw :: rest) .comment
  | whole {raw s i} (rest) :
    expand raw = .ok s → readForm line s = .ok (.whole i) →
    Reads expand line (raw :: rest) i
  | command {raw s command block expected last mode} (rest) :
    expand raw = .ok s → readForm line s = .ok (.command command) → IsBlock expand block expected →
    terminator? (trimEnd last) = some mode →
    Reads expand line (raw :: (block ++ last :: rest)) (.runAndCheck command expected mode)

/-- An instruction is read where it stands. -/
theorem Reader.next_reads {expand} {r : Reader} {i}
    (h : (r.next (.ofFunction expand) ()).result = .ok (some i)) :
    Reads expand (r.line + 1) r.rest i := by
  obtain ⟨_ | ⟨raw, rest⟩, line⟩ := r
  · cases h
  · cases c : isComment raw with
    | true =>
      rw [Reader.next_comment c] at h
      cases h
      exact .comment rest c
    | false =>
      cases e : expand raw with
      | error f =>
        rw [Reader.next_fault c (Expander.ofFunction_eq e)] at h
        cases h
      | ok s =>
        have e' := Expander.ofFunction_eq e
        rcases o : readForm (line + 1) s with f | j | text
        · rw [Reader.next_noForm c e' o] at h
          cases h
        · rw [Reader.next_whole c e' o] at h
          cases h
          exact .whole rest e o
        · rw [Reader.next_command c e' o] at h
          simp only at h
          cases b : (readBlock (.ofFunction expand) text [] () (line + 1) rest).result with
          | error f =>
            rw [b] at h
            cases h
          | ok j =>
            rw [b] at h
            cases h
            obtain ⟨block, last, rest, more, mode, rfl, isBlock, ended, rfl⟩ := readBlock_ok b
            exact .command rest e o isBlock ended

/-- A command that is read comes from its line and the block behind it. -/
theorem Reader.next_runAndCheck {expand} {r : Reader} {command expected mode}
    (h : (r.next (.ofFunction expand) ()).result = .ok (some (.runAndCheck command expected mode))) :
    ∃ raw s block last rest, r.rest = raw :: (block ++ last :: rest) ∧ expand raw = .ok s ∧
      readForm (r.line + 1) s = .ok (.command command) ∧ IsBlock expand block expected ∧
      terminator? (trimEnd last) = some mode := by
  obtain ⟨ls, line⟩ := r
  cases Reader.next_reads h with
  | whole rest e o => cases readForm_ok o
  | command rest e o isBlock ended => exact ⟨_, _, _, _, rest, rfl, e, o, isBlock, ended⟩

end Transcript.Script
