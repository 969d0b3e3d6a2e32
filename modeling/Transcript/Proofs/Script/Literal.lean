import Mathlib.Data.List.TakeDrop
import Mathlib.Tactic.Common
import Transcript.Proofs.Script.Texts
import Transcript.Proofs.Variables.Expansion

/-!
# Scripts without references

Where no line holds a reference, comments outside blocks apart, a script is read in the same way whatever
references stand for (`Reader.next_literal`). What it defines holds no reference either.
-/

namespace Transcript.Script

open Text (trimStart trimEnd isAllBlank)
open Variables (IsPlain)

/-- No line holds a reference, but for comments outside blocks. The first argument says whether the lines
begin inside of a block. -/
def IsLiteral : Bool → List (List Char) → Prop
  | _, [] => True
  | true, raw :: rest => IsPlain raw ∧ IsLiteral (terminator? (trimEnd raw)).isNone rest
  | false, raw :: rest =>
    if isComment raw then IsLiteral false rest
    else IsPlain raw ∧ IsLiteral (raw.head? == some '>') rest

/-- The lines of a script can be checked one after the other. -/
def decidableIsLiteral : (inside : Bool) → (ls : List (List Char)) → Decidable (IsLiteral inside ls)
  | true, [] | false, [] => isTrue trivial
  | true, raw :: rest =>
    have := decidableIsLiteral (terminator? (trimEnd raw)).isNone rest
    inferInstanceAs (Decidable (IsPlain raw ∧ IsLiteral (terminator? (trimEnd raw)).isNone rest))
  | false, raw :: rest =>
    have := decidableIsLiteral false rest
    have := decidableIsLiteral (raw.head? == some '>') rest
    inferInstanceAs (Decidable (if isComment raw then IsLiteral false rest
      else IsPlain raw ∧ IsLiteral (raw.head? == some '>') rest))

instance (inside ls) : Decidable (IsLiteral inside ls) := decidableIsLiteral inside ls

section Forms

variable {s : List Char} {line : Nat}

/-- A line of a command begins with `>`. -/
lemma head?_of_readForm_command {text} (h : readForm line s = .ok (.command text)) :
    s.head? = some '>' := by
  cases readForm_ok h with
  | command r => rfl

/-- The line of any other instruction does not. -/
lemma head?_of_readForm_whole {i} (h : readForm line s = .ok (.whole i)) : s.head? ≠ some '>' := by
  cases s with
  | nil => exact nofun
  | cons c r =>
    intro first
    cases first
    cases h

/-- A definition that is read from a line has its value there. -/
lemma readForm_define {name value} (h : readForm line s = .ok (.whole (.define name value))) :
    value <:+: s := by
  cases readForm_ok h with
  | define found => exact (definition?_isInfix found).2.trans (List.suffix_cons 'D' _).isInfix

end Forms

section Reading

/-- A block without references is read in the same way by every expansion that keeps plain lines, and
what follows it has no references either. -/
lemma readBlock_literal {expand : List Char → Except Fault (List Char)}
    (keeps : ∀ l, IsPlain l → expand l = .ok l) {ls} (literal : IsLiteral true ls)
    (command expected line) :
    readBlock (.ofFunction expand) command expected () line ls =
        readBlock (.ofFunction .ok) command expected () line ls ∧
      ∀ i, (readBlock (.ofFunction .ok) command expected () line ls).result = .ok i →
        IsLiteral false (readBlock (.ofFunction .ok) command expected () line ls).reader.rest := by
  induction ls generalizing expected line with
  | nil => exact ⟨rfl, nofun⟩
  | cons raw rest ih =>
    obtain ⟨plain, behind⟩ := literal
    cases m : terminator? (trimEnd raw) with
    | some mode =>
      rw [m] at behind
      rw [readBlock_terminator m, readBlock_terminator m]
      exact ⟨rfl, fun _ _ => behind⟩
    | none =>
      rw [m] at behind
      have same := keeps _ (plain.of_isInfix (Text.trimEnd_isPrefix raw).isInfix)
      rw [readBlock_line m (Expander.ofFunction_eq same), readBlock_line m (Expander.ofFunction_eq rfl)]
      exact ih behind _ _

/-- A script without references is read in the same way by every expansion that keeps plain lines; what
is left has no references either, and no value that is defined has any. -/
theorem Reader.next_literal (expand : List Char → Except Fault (List Char))
    (keeps : ∀ l, IsPlain l → expand l = .ok l) {r : Reader} (literal : IsLiteral false r.rest) :
    r.next (.ofFunction expand) () = r.next (.ofFunction .ok) () ∧
      ∀ i, (r.next (.ofFunction .ok) ()).result = .ok (some i) →
        IsLiteral false (r.next (.ofFunction .ok) ()).reader.rest ∧
          ∀ name value, i = .define name value → IsPlain value := by
  obtain ⟨_ | ⟨raw, rest⟩, line⟩ := r
  · exact ⟨rfl, nofun⟩
  · unfold IsLiteral at literal
    cases c : isComment raw with
    | true =>
      rw [if_pos c] at literal
      rw [Reader.next_comment c, Reader.next_comment c]
      refine ⟨rfl, fun i e => ⟨literal, ?_⟩⟩
      intro name value same
      rw [same] at e
      cases e
    | false =>
      rw [if_neg (by rw [c]; exact nofun)] at literal
      obtain ⟨plain, behind⟩ := literal
      have e := Expander.ofFunction_eq (keeps raw plain)
      have e' : Expander.ofFunction .ok raw () = (.ok raw, ()) := Expander.ofFunction_eq rfl
      rcases o : readForm (line + 1) raw with f | i | text
      · rw [Reader.next_noForm c e o, Reader.next_noForm c e' o]
        exact ⟨rfl, nofun⟩
      · rw [beq_false_of_ne (head?_of_readForm_whole o)] at behind
        rw [Reader.next_whole c e o, Reader.next_whole c e' o]
        refine ⟨rfl, fun j same => ⟨behind, ?_⟩⟩
        intro name value define
        cases same
        rw [define] at o
        exact plain.of_isInfix (readForm_define o)
      · rw [head?_of_readForm_command o, beq_self_eq_true] at behind
        obtain ⟨same, later⟩ := readBlock_literal keeps behind text [] (line + 1)
        rw [Reader.next_command c e o, Reader.next_command c e' o]
        simp only [same, true_and]
        intro i read
        cases b : (readBlock (.ofFunction .ok) text [] () (line + 1) rest).result with
        | error f =>
          rw [b] at read
          cases read
        | ok j =>
          rw [b] at read
          cases read
          refine ⟨later _ b, ?_⟩
          intro name value define
          obtain ⟨block, last, behind, more, mode, _, _, _, command⟩ := readBlock_ok b
          rw [define] at command
          cases command

end Reading

end Transcript.Script
