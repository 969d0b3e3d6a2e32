import Mathlib.Tactic.Common
import Transcript.Proofs.Script.Literal

/-!
# Instructions in their own words

Which lines with references are instructions as they stand (`readForm_of_reference`). Where a reader that
replaces references reads an instruction, a reader that does not either finds a line that is none in its
own words, or takes the same lines (`Reader.next_own`).
-/

namespace Transcript.Variables

variable {vars : Variables} {c : Char} {line text : List Char}

/-- A pass leaves a character in front that opens no reference. -/
lemma expandOnce_cons (h : c ≠ '$') (vars : Variables) (line) :
    vars.expandOnce (c :: line) = (vars.expandOnce line).map (c :: ·) := by
  rw [expandOnce, expandOnce, pieces, expandPieces]
  · rfl
  · intro q ec
    exact absurd ec h

/-- Passes leave a character in front that opens no reference. -/
lemma expandUpTo_cons (h : c ≠ '$') (vars : Variables) (n line) :
    vars.expandUpTo n (c :: line) = (vars.expandUpTo n line).map (c :: ·) := by
  induction n generalizing line with
  | zero => rfl
  | succ n ih =>
    rw [expandUpTo_succ, expandUpTo_succ, expandOnce_cons h]
    cases vars.expandOnce line with
    | error f => rfl
    | ok next => exact ih next

/-- A line begins as before when its references have been replaced, unless one stands in front. -/
lemma substitute_cons (h : c ≠ '$') (e : vars.substitute (c :: line) = .ok text) :
    text.head? = some c := by
  rw [substitute, expandUpTo_cons h] at e
  obtain ⟨r, -, rfl⟩ := map_eq_ok.1 e
  rfl

end Transcript.Variables

namespace Transcript.Script

open Text (isBlank isAllBlank trimStart trimEnd spanWord)
open Variables (IsPlain)

/-- A line is an instruction whatever its references stand for: there is a time limit behind `T`, there
are two words behind `+` and `=`, and a name and a value in quotes behind `D`; any reference is a word, or
a command. -/
def hasOwnForm : List Char → Bool
  | 'T' :: r => ((word? r).bind Number.readNumber?).any (·.isTime)
  | '+' :: r | '=' :: r => (twoWords? r).isSome
  | '-' :: _ | '>' :: _ | '*' :: _ | 'E' :: _ => true
  | 'D' :: r => (definition? r).isSome
  | _ => false

/-- Every line with a reference is an instruction in its own words, but for comments and the lines of
blocks. The first argument says whether the lines begin inside of a block. -/
def HasOwnForms : Bool → List (List Char) → Prop
  | _, [] => True
  | true, raw :: rest => HasOwnForms (terminator? (trimEnd raw)).isNone rest
  | false, raw :: rest =>
    if isComment raw then HasOwnForms false rest
    else (IsPlain raw ∨ hasOwnForm raw = true) ∧ HasOwnForms (raw.head? == some '>') rest

/-- The lines of a script can be checked one after the other. -/
def decidableHasOwnForms : (inside : Bool) → (ls : List (List Char)) → Decidable (HasOwnForms inside ls)
  | true, [] | false, [] => isTrue trivial
  | true, raw :: rest => decidableHasOwnForms (terminator? (trimEnd raw)).isNone rest
  | false, raw :: rest =>
    have := decidableHasOwnForms false rest
    have := decidableHasOwnForms (raw.head? == some '>') rest
    inferInstanceAs (Decidable (if isComment raw then HasOwnForms false rest
      else (IsPlain raw ∨ hasOwnForm raw = true) ∧ HasOwnForms (raw.head? == some '>') rest))

instance (inside ls) : Decidable (HasOwnForms inside ls) := decidableHasOwnForms inside ls

section Forms

variable {raw s r : List Char} {line : Nat}

/-- An instruction in its own words begins with the letter of one. -/
lemma letter_of_hasOwnForm (own : hasOwnForm raw = true) :
    ∃ c r, raw = c :: r ∧ c ∈ ['T', '+', '-', '>', '=', '*', 'E', 'D'] := by
  unfold hasOwnForm at own
  split at own
  case h_9 => cases own
  all_goals exact ⟨_, _, rfl, by decide⟩

/-- Where there is a visible character, there is a word. -/
lemma word?_isSome {c} (inside : c ∈ r) (visible : isBlank c = false) : (word? r).isSome = true := by
  have start : trimStart r ≠ [] := by
    intro none
    have blank := List.dropWhile_eq_nil_iff.1 none c inside
    rw [visible] at blank
    cases blank
  cases e : trimStart r with
  | nil => exact absurd e start
  | cons d q =>
    have first := Text.trimStart_first e
    rw [word?, e, spanWord, List.span_eq_takeWhile_dropWhile, List.takeWhile_cons_of_pos (by simp [first])]
    rfl

/-- There is a form where there are the words for it. -/
lemma wholeOr_isOk {o : Option Instruction} : (∃ form, wholeOr line o = .ok form) ↔ o.isSome = true := by
  cases o with
  | none => exact ⟨nofun, nofun⟩
  | some i => exact ⟨fun _ => rfl, fun _ => ⟨.whole i, rfl⟩⟩

/-- A time limit is a number that is a time. -/
lemma timeLimit_isOk {w} :
    (∃ form, timeLimit w = .ok form) ↔ (Number.readNumber? w).any (·.isTime) = true := by
  unfold timeLimit
  cases Number.readNumber? w with
  | none => exact ⟨nofun, nofun⟩
  | some secs => cases h : secs.isTime <;> simp [h]

/-- A line with a reference is an instruction as it stands exactly when it is one in its own words. -/
theorem readForm_of_reference (reference : ¬ IsPlain raw) (line) :
    (∃ form, readForm line raw = .ok form) ↔ hasOwnForm raw = true := by
  have dollar : '$' ∈ raw := (not_not.1 reference).subset List.mem_cons_self
  have seen : ¬ isAllBlank raw = true := by
    intro blank
    exact absurd (List.all_eq_true.1 blank '$' dollar) (by decide)
  -- a reference behind the letter is visible, and so there is a word
  have word {c r} (e : raw = c :: r) (other : c ≠ '$') : (word? r).isSome = true := by
    rw [e] at dollar
    exact word?_isSome (List.mem_of_ne_of_mem (Ne.symm other) dollar) (by decide)
  unfold readForm
  rw [if_neg seen]
  split
  · rename_i r
    rw [hasOwnForm]
    cases word? r with
    | none => exact ⟨nofun, nofun⟩
    | some w => exact timeLimit_isOk
  · rw [hasOwnForm, wholeOr_isOk, Option.isSome_map]
  · rw [hasOwnForm, wholeOr_isOk, Option.isSome_map, word rfl (by decide)]
  · exact ⟨fun _ => rfl, fun _ => ⟨_, rfl⟩⟩
  · rw [hasOwnForm, wholeOr_isOk, Option.isSome_map]
  · rw [hasOwnForm, wholeOr_isOk, Option.isSome_map, word rfl (by decide)]
  · rw [hasOwnForm, wholeOr_isOk, Option.isSome_map, word rfl (by decide)]
  · rw [hasOwnForm, wholeOr_isOk, Option.isSome_map]
  · refine ⟨nofun, fun own => ?_⟩
    obtain ⟨c, r, rfl, letter⟩ := letter_of_hasOwnForm own
    simp only [List.mem_cons, List.not_mem_nil, or_false] at letter
    rcases letter with rfl | rfl | rfl | rfl | rfl | rfl | rfl | rfl <;> simp_all

end Forms

section Reading

variable {vars : Variables} {raw s : List Char} {rest ls : List (List Char)} {line : Nat}

/-- A line that is an instruction in its own words begins as before when its references have been
replaced. -/
lemma head?_substitute (own : IsPlain raw ∨ hasOwnForm raw = true) (e : vars.substitute raw = .ok s) :
    s.head? = raw.head? := by
  rcases own with plain | own
  · rw [Variables.substitute_of_plain vars plain] at e
    cases e
    rfl
  · obtain ⟨c, r, rfl, letter⟩ := letter_of_hasOwnForm own
    have other : c ≠ '$' := by
      rintro rfl
      exact absurd letter (by decide)
    exact Variables.substitute_cons other e

/-- A line that is an instruction in its own words has a form. -/
lemma readForm_of_own (own : IsPlain raw ∨ hasOwnForm raw = true) (e : vars.substitute raw = .ok s) {form}
    (o : readForm line s = .ok form) : ∃ form', readForm line raw = .ok form' := by
  by_cases plain : IsPlain raw
  · rw [Variables.substitute_of_plain vars plain] at e
    cases e
    exact ⟨form, o⟩
  · exact (readForm_of_reference plain line).2 (own.resolve_left plain)

/-- A line that is a whole instruction when its references are replaced is one as it stands. -/
lemma readForm_whole_of_own (own : IsPlain raw ∨ hasOwnForm raw = true) (e : vars.substitute raw = .ok s)
    {i} (o : readForm line s = .ok (.whole i)) :
    raw.head? ≠ some '>' ∧ ∃ j, readForm line raw = .ok (.whole j) := by
  have other : raw.head? ≠ some '>' := head?_substitute own e ▸ head?_of_readForm_whole o
  obtain ⟨j | text, o'⟩ := readForm_of_own own e o
  · exact ⟨other, j, o'⟩
  · exact absurd (head?_of_readForm_command o') other

/-- A line that is a command when its references are replaced is one as it stands. -/
lemma readForm_command_of_own (own : IsPlain raw ∨ hasOwnForm raw = true)
    (e : vars.substitute raw = .ok s) {text} (o : readForm line s = .ok (.command text)) :
    raw.head? = some '>' ∧ ∃ text', readForm line raw = .ok (.command text') := by
  have same : raw.head? = some '>' := head?_substitute own e ▸ head?_of_readForm_command o
  obtain ⟨j | text', o'⟩ := readForm_of_own own e o
  · exact absurd same (head?_of_readForm_whole o')
  · exact ⟨same, text', o'⟩

/-- A line that is no instruction in its own words has no form as it stands. -/
lemma readForm_of_not_own (other : ¬ (IsPlain raw ∨ hasOwnForm raw = true)) (line) :
    ∃ f, readForm line raw = .error f := by
  have reference : ¬ IsPlain raw := fun plain => other (.inl plain)
  cases o : readForm line raw with
  | error f => exact ⟨f, rfl⟩
  | ok form => exact absurd (.inr ((readForm_of_reference reference line).1 ⟨form, o⟩)) other

/-- A block that ends when its references are replaced ends at the same line when they are not. -/
lemma readBlock_own {command expected i}
    (e : (readBlock (.ofFunction vars.substitute) command expected () line ls).result = .ok i)
    (command' expected') :
    let read := readBlock (.ofFunction vars.substitute) command expected () line ls
    let own := readBlock (.ofFunction .ok) command' expected' () line ls
    (∃ j, own.result = .ok j) ∧ own.reader = read.reader ∧
      (HasOwnForms true ls ↔ HasOwnForms false read.reader.rest) := by
  induction ls generalizing expected expected' line with
  | nil => cases e
  | cons raw rest ih =>
    cases m : terminator? (trimEnd raw) with
    | some mode =>
      rw [readBlock_terminator m, readBlock_terminator m, HasOwnForms, m]
      exact ⟨⟨_, rfl⟩, rfl, Iff.rfl⟩
    | none =>
      cases e' : vars.substitute (trimEnd raw) with
      | error f =>
        rw [readBlock_fault m (Expander.ofFunction_eq e')] at e
        cases e
      | ok s =>
        rw [readBlock_line m (Expander.ofFunction_eq e')] at e ⊢
        rw [readBlock_line m (Expander.ofFunction_eq rfl), HasOwnForms, m]
        exact ih e _

/-- Where an instruction is read with references replaced, either its line is none in its own words, and
cannot be read without; or an instruction is read there without as well, from the same lines. -/
theorem Reader.next_own {r : Reader} {i}
    (e : (r.next (.ofFunction vars.substitute) ()).result = .ok (some i)) :
    let read := r.next (.ofFunction vars.substitute) ()
    let own := r.next (.ofFunction .ok) ()
    ((∃ f, own.result = .error f) ∧ ¬ HasOwnForms false r.rest) ∨
      (∃ j, own.result = .ok (some j)) ∧ own.reader = read.reader ∧
        (HasOwnForms false r.rest ↔ HasOwnForms false read.reader.rest) := by
  obtain ⟨_ | ⟨raw, rest⟩, line⟩ := r
  · cases e
  cases c : isComment raw with
  | true =>
    rw [Reader.next_comment c, Reader.next_comment c]
    refine .inr ⟨⟨_, rfl⟩, rfl, ?_⟩
    rw [HasOwnForms, if_pos c]
  | false =>
    have alone : Expander.ofFunction .ok raw () = (.ok raw, ()) := Expander.ofFunction_eq rfl
    have forms : HasOwnForms false (raw :: rest) ↔
        (IsPlain raw ∨ hasOwnForm raw = true) ∧ HasOwnForms (raw.head? == some '>') rest := by
      rw [HasOwnForms, if_neg (by rw [c]; exact nofun)]
    cases replaced : vars.substitute raw with
    | error f =>
      rw [Reader.next_fault c (Expander.ofFunction_eq replaced)] at e
      cases e
    | ok s =>
      have given := Expander.ofFunction_eq replaced
      by_cases own : IsPlain raw ∨ hasOwnForm raw = true
      · rw [forms, and_iff_right own]
        rcases o : readForm (line + 1) s with f | i | text
        · rw [Reader.next_noForm c given o] at e
          cases e
        · obtain ⟨other, j, o'⟩ := readForm_whole_of_own own replaced o
          rw [Reader.next_whole c given o, Reader.next_whole c alone o', beq_false_of_ne other]
          exact .inr ⟨⟨j, rfl⟩, rfl, Iff.rfl⟩
        · obtain ⟨same, text', o'⟩ := readForm_command_of_own own replaced o
          rw [Reader.next_command c given o] at e ⊢
          rw [Reader.next_command c alone o', same, beq_self_eq_true]
          cases block : (readBlock (.ofFunction vars.substitute) text [] () (line + 1) rest).result with
          | error f =>
            simp only [block] at e
            cases e
          | ok k =>
            obtain ⟨⟨j, read⟩, reader, behind⟩ := readBlock_own block text' []
            refine .inr ⟨⟨j, ?_⟩, reader, behind⟩
            simp only [read]
            rfl
      · obtain ⟨f, o'⟩ := readForm_of_not_own own (line + 1)
        rw [Reader.next_noForm c alone o', forms]
        exact .inl ⟨⟨f, rfl⟩, fun h => own h.1⟩

end Reading

end Transcript.Script
