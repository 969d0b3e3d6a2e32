import Mathlib.Data.List.TakeDrop
import Mathlib.Tactic.Common
import Transcript.Proofs.Script.Forms
import Transcript.Proofs.Script.Inversion

/-!
# Words and definitions in a line

Where the words of a line stand (`word?_eq_some_iff`, `twoWords?_eq_some_iff`), and where the name and the
value of a definition do (`definition?_eq_some_iff`): each is said by one equation for the line.
-/

namespace Transcript.Script

open Text (isBlank isAllBlank trim trimStart trimEnd spanWord)

section Spans

variable {p : Char → Bool} {run rest : List Char}

/-- A text begins with characters of a class, and goes on with another one or ends. -/
lemma exists_takeWhile (p : Char → Bool) (s : List Char) :
    s = s.takeWhile p ++ s.dropWhile p ∧ (∀ c ∈ s.takeWhile p, p c = true) ∧
      ∀ c ∈ (s.dropWhile p).head?, p c = false := by
  refine ⟨List.takeWhile_append_dropWhile.symm, fun c => List.mem_takeWhile_imp, fun c hc => ?_⟩
  have stop := List.head?_dropWhile_not p s
  rw [Option.mem_def.1 hc] at stop
  exact stop

/-- The characters that a text begins with are those in front of the first other one. -/
lemma takeWhile_run (members : ∀ c ∈ run, p c = true) (stop : ∀ c ∈ rest.head?, p c = false) :
    (run ++ rest).takeWhile p = run ∧ (run ++ rest).dropWhile p = rest := by
  rw [List.takeWhile_append_of_pos members, List.dropWhile_append_of_pos members]
  cases rest with
  | nil => exact ⟨List.append_nil run, rfl⟩
  | cons c rest =>
    have other : ¬ p c = true := by simp [stop c rfl]
    rw [List.takeWhile_cons_of_neg other, List.dropWhile_cons_of_neg other]
    exact ⟨List.append_nil run, rfl⟩

/-- A text behind blank characters is what trimming leaves. -/
lemma trimStart_run (blank : ∀ c ∈ run, isBlank c = true) (stop : ∀ c ∈ rest.head?, isBlank c = false) :
    trimStart (run ++ rest) = rest :=
  (takeWhile_run blank stop).2

/-- A word is cut off in front of a blank character. -/
lemma spanWord_run (visible : ∀ c ∈ run, isBlank c = false) (stop : ∀ c ∈ rest.head?, isBlank c = true) :
    spanWord (run ++ rest) = (run, rest) := by
  have members : ∀ c ∈ run, (!isBlank c) = true := by simpa using visible
  have others : ∀ c ∈ rest.head?, (!isBlank c) = false := by simpa using stop
  obtain ⟨taken, left⟩ := takeWhile_run members others
  rw [spanWord, List.span_eq_takeWhile_dropWhile, taken, left]

/-- A text is cut behind its first word. -/
lemma exists_spanWord (s : List Char) :
    s = (spanWord s).1 ++ (spanWord s).2 ∧ (∀ c ∈ (spanWord s).1, isBlank c = false) ∧
      ∀ c ∈ (spanWord s).2.head?, isBlank c = true := by
  obtain ⟨split, visible, stop⟩ := exists_takeWhile (fun c => !isBlank c) s
  rw [spanWord, List.span_eq_takeWhile_dropWhile]
  exact ⟨split, fun c hc => by simpa using visible c hc, fun c hc => by simpa using stop c hc⟩

end Spans

/-- A word begins with a character that is not blank. -/
lemma IsWord.head_append {w : List Char} (h : IsWord w) (r) :
    ∀ c ∈ (w ++ r).head?, isBlank c = false := by
  obtain ⟨some, visible⟩ := h
  cases w with
  | nil => exact absurd rfl some
  | cons d w =>
    rintro c ⟨⟩
    exact visible d List.mem_cons_self

/-- The first word of a text stands behind blank characters, and in front of one or at the end. -/
def FirstWord (s w : List Char) : Prop :=
  ∃ skipped rest, s = skipped ++ (w ++ rest) ∧ (∀ c ∈ skipped, isBlank c = true) ∧ IsWord w ∧
    ∀ c ∈ rest.head?, isBlank c = true

/-- The first two words of a text have blank characters between them, and the rest of the text does not
matter. -/
def FirstWords (s v w : List Char) : Prop :=
  ∃ skipped gap rest, s = skipped ++ (v ++ (gap ++ (w ++ rest))) ∧ (∀ c ∈ skipped, isBlank c = true) ∧
    IsWord v ∧ gap ≠ [] ∧ (∀ c ∈ gap, isBlank c = true) ∧ IsWord w ∧ ∀ c ∈ rest.head?, isBlank c = true

/-- A definition is a name and a value in quotes, with blank characters around the name and at the end. So
no character of a name follows the name, and the value ends at the last quote of the text. -/
def Defines (s name value : List Char) : Prop :=
  ∃ skipped gap after, s = skipped ++ (name ++ (gap ++ '"' :: (value ++ '"' :: after))) ∧
    (∀ c ∈ skipped, isBlank c = true) ∧ IsName name ∧ (∀ c ∈ gap, isBlank c = true) ∧ '\n' ∉ value ∧
    ∀ c ∈ after, isBlank c = true

/-- The first word is read where it stands. -/
theorem word?_eq_some_iff {s w : List Char} : word? s = some w ↔ FirstWord s w := by
  constructor
  · intro h
    obtain ⟨split, blank, -⟩ := exists_takeWhile isBlank s
    obtain ⟨split', visible, stop⟩ := exists_spanWord (trimStart s)
    rw [word?] at h
    cases e : (spanWord (trimStart s)).1 with
    | nil =>
      rw [e] at h
      cases h
    | cons c r =>
      rw [e] at h split' visible
      cases h
      refine ⟨s.takeWhile isBlank, _, ?_, blank, ⟨List.cons_ne_nil c r, visible⟩, stop⟩
      rw [← split']
      exact split
  · rintro ⟨skipped, rest, rfl, blank, word, stop⟩
    obtain ⟨c, r, rfl⟩ := List.exists_cons_of_ne_nil word.1
    rw [word?, trimStart_run blank (word.head_append rest), spanWord_run word.2 stop]

/-- Characters that are not blank are the beginning of a word. -/
lemma IsWord.exists_word {w : List Char} (h : IsWord w) (r) :
    ∃ w' r', w ++ r = w' ++ r' ∧ IsWord w' ∧ ∀ c ∈ r'.head?, isBlank c = true := by
  obtain ⟨split, visible, stop⟩ := exists_spanWord (w ++ r)
  refine ⟨_, _, split, ⟨fun none => ?_, visible⟩, stop⟩
  rw [none, List.nil_append] at split
  obtain ⟨c, w, rfl⟩ := List.exists_cons_of_ne_nil h.1
  rw [← split] at stop
  have blank := stop c rfl
  rw [h.2 c List.mem_cons_self] at blank
  cases blank

/-- The first two words are read where they stand. -/
theorem twoWords?_eq_some_iff {s v w : List Char} :
    twoWords? s = some (v, w) ↔ FirstWords s v w := by
  constructor
  · intro h
    obtain ⟨split, blank, -⟩ := exists_takeWhile isBlank s
    obtain ⟨split', visible, stop⟩ := exists_spanWord (trimStart s)
    unfold twoWords? at h
    simp only at h
    split at h
    · cases h
    · rename_i some
      obtain ⟨w', second, e⟩ := Option.map_eq_some_iff.1 h
      cases e
      obtain ⟨gap, rest, behind, blank', word, stop'⟩ := word?_eq_some_iff.1 second
      have first : IsWord (spanWord (trimStart s)).1 :=
        ⟨fun none => some (List.isEmpty_iff.2 none), visible⟩
      refine ⟨s.takeWhile isBlank, gap, rest, ?_, blank, first, ?_, blank', word, stop'⟩
      · rw [← behind, ← split']
        exact split
      · -- the first word ends at a blank character, with which the second one does not begin
        rintro rfl
        rw [behind, List.nil_append] at stop
        obtain ⟨c, r, e⟩ := List.exists_cons_of_ne_nil word.1
        have blank := stop c (by rw [e]; rfl)
        rw [word.2 c (by rw [e]; exact List.mem_cons_self)] at blank
        cases blank
  · rintro ⟨skipped, gap, rest, rfl, blank, first, some, blank', second, stop⟩
    have behind : word? (gap ++ (w ++ rest)) = Option.some w :=
      word?_eq_some_iff.2 ⟨gap, rest, rfl, blank', second, stop⟩
    have stop' : ∀ c ∈ (gap ++ (w ++ rest)).head?, isBlank c = true := by
      obtain ⟨c, r, rfl⟩ := List.exists_cons_of_ne_nil some
      rintro d ⟨⟩
      exact blank' c List.mem_cons_self
    have word : v.isEmpty = false := List.isEmpty_eq_false_iff.2 first.1
    simp only [twoWords?, trimStart_run blank (first.head_append _), spanWord_run first.2 stop', word,
      behind, Bool.false_eq_true, if_false, Option.map_some]

/-- What stands before a last quote is followed by it and by blank characters. -/
lemma beforeLastQuote?_eq_some_iff {s value : List Char} :
    beforeLastQuote? s = some value ↔
      ∃ after, s = value ++ '"' :: after ∧ ∀ c ∈ after, isBlank c = true := by
  unfold beforeLastQuote?
  rw [List.span_eq_takeWhile_dropWhile]
  simp only
  obtain ⟨split, -, stop⟩ := exists_takeWhile (· ≠ '"') s.reverse
  constructor
  · intro h
    split at h
    · rename_i d before e
      split at h
      · rename_i blank
        cases h
        rw [e] at split stop
        obtain rfl : d = '"' := by simpa using stop d rfl
        have s_eq := congrArg List.reverse split
        rw [List.reverse_reverse, List.reverse_append, List.reverse_cons, List.append_assoc,
          List.singleton_append] at s_eq
        exact ⟨_, s_eq, fun c hc => List.all_eq_true.1 blank c (List.mem_reverse.1 hc)⟩
      · cases h
    · cases h
  · rintro ⟨after, rfl, blank⟩
    have other : ∀ c ∈ after.reverse, decide (c ≠ '"') = true := by
      intro c hc
      have := blank c (List.mem_reverse.1 hc)
      rw [decide_eq_true_eq]
      rintro rfl
      cases this
    have shape : (value ++ '"' :: after).reverse = after.reverse ++ '"' :: value.reverse := by simp
    have blank' : isAllBlank after.reverse = true :=
      List.all_eq_true.2 fun c hc => blank c (List.mem_reverse.1 hc)
    have stop : ∀ c ∈ ('"' :: value.reverse).head?, decide (c ≠ '"') = false := by
      rintro c ⟨⟩
      rfl
    obtain ⟨taken, left⟩ := takeWhile_run other stop
    rw [shape, taken, left]
    simp only [blank', if_true, List.reverse_reverse]

/-- A character is known by its code. -/
lemma char_eq_iff {c d : Char} : c = d ↔ c.toNat = d.toNat :=
  ⟨congrArg Char.toNat, fun e => Char.ext (UInt32.toNat.inj e)⟩

/-- The codes of the characters that a name may begin with. -/
lemma isNameStart_iff {c : Char} :
    isNameStart c = true ↔
      (65 ≤ c.toNat ∧ c.toNat ≤ 90 ∨ 97 ≤ c.toNat ∧ c.toNat ≤ 122) ∨ c.toNat = 95 := by
  delta isNameStart Char.isAlpha Char.isUpper Char.isLower
  simp only [Bool.or_eq_true, Bool.and_eq_true, decide_eq_true_eq, beq_iff_eq, char_eq_iff, ge_iff_le,
    UInt32.le_iff_toNat_le]
  exact Iff.rfl

/-- The codes of the characters of a name. -/
lemma isNameChar_iff {c : Char} :
    isNameChar c = true ↔
      ((65 ≤ c.toNat ∧ c.toNat ≤ 90 ∨ 97 ≤ c.toNat ∧ c.toNat ≤ 122) ∨
        48 ≤ c.toNat ∧ c.toNat ≤ 57) ∨ c.toNat = 95 := by
  delta isNameChar Char.isAlphanum Char.isDigit Char.isAlpha Char.isUpper Char.isLower
  simp only [Bool.or_eq_true, Bool.and_eq_true, decide_eq_true_eq, beq_iff_eq, char_eq_iff, ge_iff_le,
    UInt32.le_iff_toNat_le]
  exact Iff.rfl

/-- A blank character is none of a name. -/
lemma not_isNameChar_of_blank {c} (blank : isBlank c = true) : isNameChar c = false := by
  by_contra name
  rw [Bool.not_eq_false, isNameChar_iff] at name
  simp only [isBlank, Bool.or_eq_true, Bool.and_eq_true, decide_eq_true_eq, beq_iff_eq] at blank
  omega

/-- A name and a value are read where they stand. -/
theorem definition?_eq_some_iff {s name value : List Char} :
    definition? s = some (name, value) ↔ Defines s name value := by
  constructor
  · intro h
    obtain ⟨c, r, quoted, start, first, rfl, behind, cut, oneLine⟩ := definition?_some h
    obtain ⟨after, rfl, blank''⟩ := beforeLastQuote?_eq_some_iff.1 cut
    obtain ⟨split, blank, -⟩ := exists_takeWhile isBlank s
    obtain ⟨split', members, -⟩ := exists_takeWhile isNameChar r
    obtain ⟨split'', blank', -⟩ := exists_takeWhile isBlank (r.dropWhile isNameChar)
    refine ⟨s.takeWhile isBlank, (r.dropWhile isNameChar).takeWhile isBlank, after, ?_, blank,
      ⟨first, members⟩, blank', oneLine, blank''⟩
    rw [trimStart] at start behind
    rw [← behind, ← split'', List.cons_append, ← split', ← start]
    exact split
  · rintro ⟨skipped, gap, after, rfl, blank, isName, blank', oneLine, blank''⟩
    cases name with
    | nil => exact isName.elim
    | cons c r =>
      obtain ⟨first, others⟩ := isName
      have start : trimStart (skipped ++ (c :: r ++ (gap ++ '"' :: (value ++ '"' :: after)))) =
          c :: (r ++ (gap ++ '"' :: (value ++ '"' :: after))) :=
        trimStart_run blank (by rintro d ⟨⟩; exact not_blank_of_isNameStart first)
      have stop : ∀ d ∈ (gap ++ '"' :: (value ++ '"' :: after)).head?, isNameChar d = false := by
        cases gap with
        | nil => rintro d ⟨⟩; rfl
        | cons e gap =>
          rintro d ⟨⟩
          exact not_isNameChar_of_blank (blank' e List.mem_cons_self)
      have quoted : trimStart (gap ++ '"' :: (value ++ '"' :: after)) = '"' :: (value ++ '"' :: after) :=
        trimStart_run blank' (by rintro d ⟨⟩; rfl)
      obtain ⟨taken, left⟩ := takeWhile_run others stop
      have oneLine : value.contains '\n' = false := by simpa using oneLine
      have cut : beforeLastQuote? (value ++ '"' :: after) = some value :=
        beforeLastQuote?_eq_some_iff.2 ⟨after, rfl, blank''⟩
      simp only [definition?, start, first, List.span_eq_takeWhile_dropWhile, taken, left, quoted, cut,
        oneLine, if_true, Bool.false_eq_true, if_false]

end Transcript.Script
