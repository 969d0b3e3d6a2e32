import Mathlib.Tactic.Common
import Transcript.Proofs.Variables.Absence

/-!
# Regular lines

Lines in which every dollar sign begins a complete reference. They are what parts are written as, and no
other parts are written so (`pieces_texts`, `isRegular_iff`). Where no value has a dollar sign, the
references of such a line are all replaced in one pass, and no reference is left to a second one
(`substitute_texts`).
-/

namespace Transcript.Variables

/-- What a part of a line is written as. -/
def Piece.text : Piece → List Char
  | .char c => [c]
  | .reference key => '$' :: '{' :: (key ++ ['}'])

/-- What parts are written as. -/
def texts (ps : List Piece) : List Char :=
  ps.flatMap Piece.text

/-- A part that can be told from what it is written as: neither a dollar sign nor a closing brace stands
in a key, and no other part is a dollar sign. -/
def Piece.IsRegular : Piece → Prop
  | .char c => c ≠ '$'
  | .reference key => '$' ∉ key ∧ '}' ∉ key

instance : (p : Piece) → Decidable p.IsRegular
  | .char c => inferInstanceAs (Decidable (c ≠ '$'))
  | .reference key => inferInstanceAs (Decidable ('$' ∉ key ∧ '}' ∉ key))

/-- Every dollar sign of a line begins a complete reference, in whose key there is neither a dollar sign
nor a closing brace. -/
def IsRegular (line : List Char) : Prop :=
  ∀ before behind, line = before ++ '$' :: behind →
    ∃ key rest, behind = '{' :: (key ++ '}' :: rest) ∧ '$' ∉ key ∧ '}' ∉ key

variable {vars : Variables} {c : Char} {key line text : List Char} {ps : List Piece}

section Reading

/-- A character that opens no reference is a part. -/
lemma pieces_char (h : c ≠ '$') (r) : pieces none (c :: r) = .char c :: pieces none r := by
  rw [pieces]
  intro q ec
  exact absurd ec h

/-- A key is read up to the closing brace. -/
lemma pieces_open (h : '}' ∉ key) (read r) :
    pieces (some read) (key ++ '}' :: r) = .reference (read.reverse ++ key) :: pieces none r := by
  induction key generalizing read with
  | nil => rw [List.nil_append, List.append_nil, pieces]
  | cons c key ih =>
    obtain ⟨other, others⟩ := not_or.1 (mt List.mem_cons.2 h)
    rw [List.cons_append, pieces, ih others, List.reverse_cons, List.append_assoc, List.singleton_append]
    exact fun same => other same.symm

/-- A reference is a part. -/
lemma pieces_reference (h : '}' ∉ key) (r) :
    pieces none ((Piece.reference key).text ++ r) = .reference key :: pieces none r := by
  have shape : (Piece.reference key).text ++ r = '$' :: '{' :: (key ++ '}' :: r) := by
    simp [Piece.text]
  rw [shape, pieces, pieces_open h]
  rfl

/-- Regular parts are read back from what they are written as. -/
lemma pieces_texts (h : ∀ p ∈ ps, p.IsRegular) : pieces none (texts ps) = ps := by
  induction ps with
  | nil => rfl
  | cons p ps ih =>
    obtain ⟨first, others⟩ := List.forall_mem_cons.1 h
    rw [texts, List.flatMap_cons]
    cases p with
    | char c => exact (pieces_char first _).trans (congrArg _ (ih others))
    | reference key => exact (pieces_reference first.2 _).trans (congrArg _ (ih others))

end Reading

section Writing

/-- What follows a character that opens no reference is regular if the whole is. -/
lemma isRegular_cons (h : c ≠ '$') : IsRegular (c :: line) ↔ IsRegular line := by
  constructor
  · intro regular before behind e
    exact regular (c :: before) behind (by rw [e, List.cons_append])
  · intro regular before behind e
    cases before with
    | nil => exact absurd (List.cons.inj e).1 h
    | cons d before => exact regular before behind (List.cons.inj e).2

/-- What follows a complete reference is regular if the whole is. -/
lemma isRegular_reference (hd : '$' ∉ key) (hb : '}' ∉ key) :
    IsRegular ('$' :: '{' :: (key ++ '}' :: line)) ↔ IsRegular line := by
  have behindKey (key : List Char) (hd : '$' ∉ key) : IsRegular (key ++ '}' :: line) ↔ IsRegular line := by
    induction key with
    | nil => exact isRegular_cons (by decide)
    | cons c key ih =>
      obtain ⟨other, others⟩ := not_or.1 (mt List.mem_cons.2 hd)
      exact (isRegular_cons (Ne.symm other)).trans (ih others)
  have behindBrace : IsRegular ('{' :: (key ++ '}' :: line)) ↔ IsRegular line :=
    (isRegular_cons (by decide)).trans (behindKey key hd)
  rw [← behindBrace]
  constructor
  · intro regular before behind e
    exact regular ('$' :: before) behind (by rw [e, List.cons_append])
  · intro regular before behind e
    cases before with
    | nil =>
      obtain rfl := (List.cons.inj e).2
      exact ⟨key, line, rfl, hd, hb⟩
    | cons d before => exact regular before behind (List.cons.inj e).2

/-- A line is regular exactly when regular parts are written so. -/
lemma isRegular_iff : IsRegular line ↔ ∃ ps, (∀ p ∈ ps, Piece.IsRegular p) ∧ texts ps = line := by
  constructor
  · intro regular
    generalize length : line.length = n
    induction n using Nat.strongRecOn generalizing line with
    | ind n ih =>
      cases line with
      | nil => exact ⟨[], nofun, rfl⟩
      | cons c r =>
        by_cases hc : c = '$'
        · subst hc
          obtain ⟨key, rest, rfl, hd, hb⟩ := regular [] r rfl
          have shorter : rest.length < n := by
            rw [← length]
            simp only [List.length_cons, List.length_append]
            omega
          obtain ⟨ps, others, rfl⟩ := ih _ shorter ((isRegular_reference hd hb).1 regular) rfl
          refine ⟨.reference key :: ps, List.forall_mem_cons.2 ⟨⟨hd, hb⟩, others⟩, ?_⟩
          simp [texts, Piece.text]
        · have shorter : r.length < n := by
            rw [← length]
            exact Nat.lt_succ_self _
          obtain ⟨ps, others, rfl⟩ := ih _ shorter ((isRegular_cons hc).1 regular) rfl
          exact ⟨.char c :: ps, List.forall_mem_cons.2 ⟨hc, others⟩, rfl⟩
  · rintro ⟨ps, regular, rfl⟩
    induction ps with
    | nil =>
      intro before behind e
      cases before <;> cases e
    | cons p ps ih =>
      obtain ⟨first, others⟩ := List.forall_mem_cons.1 regular
      cases p with
      | char c => exact (isRegular_cons first).2 (ih others)
      | reference key =>
        have shape : texts (.reference key :: ps) = '$' :: '{' :: (key ++ '}' :: texts ps) := by
          simp [texts, Piece.text]
        rw [shape]
        exact (isRegular_reference first.1 first.2).2 (ih others)

/-- Whether a line is regular can be told from its parts. -/
lemma isRegular_iff_pieces :
    IsRegular line ↔ (∀ p ∈ pieces none line, Piece.IsRegular p) ∧ texts (pieces none line) = line := by
  rw [isRegular_iff]
  constructor
  · rintro ⟨ps, regular, rfl⟩
    rw [pieces_texts regular]
    exact ⟨regular, rfl⟩
  · rintro ⟨regular, same⟩
    exact ⟨_, regular, same⟩

instance (line) : Decidable (IsRegular line) :=
  decidable_of_iff _ isRegular_iff_pieces.symm

end Writing

section Replacing

/-- Parts are replaced one for one. -/
lemma expandPieces_eq (vars : Variables) (ps) :
    vars.expandPieces ps = (ps.mapM vars.expandPiece).map List.flatten := by
  induction ps with
  | nil => rfl
  | cons p ps ih =>
    rw [expandPieces, ih, List.mapM_cons]
    cases vars.expandPiece p with
    | error f => rfl
    | ok s => cases ps.mapM vars.expandPiece <;> rfl

/-- A line without dollar signs stays as it is, however many passes there are. -/
lemma expandUpTo_of_no_dollar (h : '$' ∉ line) (vars : Variables) (n) :
    vars.expandUpTo n line = .ok line := by
  have plain : IsPlain line := fun inside => h (inside.subset List.mem_cons_self)
  exact expandUpTo_of_fixed (expandOnce_of_plain vars plain) n

/-- A pass that leaves no dollar sign is the last one that matters. -/
lemma substitute_of_expandOnce {result} (e : vars.expandOnce line = result)
    (h : ∀ text, result = .ok text → '$' ∉ text) : vars.substitute line = result := by
  rw [substitute, maxPasses, expandUpTo_succ, e]
  cases result with
  | error f => rfl
  | ok text => exact expandUpTo_of_no_dollar (h text rfl) vars 9

/-- Where no value has a dollar sign, what regular parts are written as is replaced part by part, all at
once, and no dollar sign is left. -/
theorem substitute_texts (h : vars.Lacks '$') (regular : ∀ p ∈ ps, p.IsRegular) :
    vars.substitute (texts ps) = (ps.mapM vars.expandPiece).map List.flatten ∧
      ∀ text, vars.substitute (texts ps) = .ok text → '$' ∉ text := by
  have once : vars.expandOnce (texts ps) = vars.expandPieces ps := by
    rw [expandOnce, pieces_texts regular]
  have free : ∀ text, vars.expandPieces ps = .ok text → '$' ∉ text := by
    intro text e
    refine h.expandPieces ?_ e
    intro dollar
    exact regular _ dollar rfl
  rw [substitute_of_expandOnce once free]
  exact ⟨expandPieces_eq vars ps, free⟩

/-- Where no value has a dollar sign, a reference stands for what its key stands for. -/
lemma substitute_reference (h : vars.Lacks '$') (hb : '}' ∉ key) :
    vars.substitute (Piece.reference key).text = vars.lookup key := by
  refine substitute_of_expandOnce ?_ fun text => h.lookup
  have one := pieces_reference hb []
  rw [List.append_nil] at one
  rw [expandOnce, one, expandPieces_eq]
  show (List.mapM vars.expandPiece [.reference key]).map _ = _
  rw [List.mapM_cons, expandPiece]
  cases vars.lookup key with
  | error f => rfl
  | ok value =>
    show Except.ok [value].flatten = _
    rw [List.flatten_singleton]

end Replacing

end Transcript.Variables
