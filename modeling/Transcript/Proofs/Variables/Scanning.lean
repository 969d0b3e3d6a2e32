import Mathlib.Tactic.Common
import Transcript.Proofs.Variables.Closing

/-!
# Keys that are looked up

A pass scans its line for closed references from left to right; which keys it meets is said without the
parts of the line (`Scans`). It looks the keys up until one stands for nothing, which is what the pass fails
with (`expandOnce_eq_error_iff`), and the passes over a line fail as the first of them that does
(`expandUpTo_eq_error_iff`).
-/

namespace Transcript.Variables

/-- The keys that a scan of a line meets, in their order: a reference begins at the first `${` and is closed
by the first brace behind it. -/
inductive Scans : List Char → List (List Char) → Prop where
  | ended {line} :
    ¬ HasReference line →
    Scans line []
  | reference {before key behind keys} :
    IsPlain before →
    '}' ∉ key →
    Scans behind keys →
    Scans (before ++ '$' :: '{' :: (key ++ '}' :: behind)) (key :: keys)

/-- A pass that is made over a line when so many may be: the first is made over the line itself, and a later
one over what the pass before has changed its line to. Passes are counted from zero. -/
inductive Pass (vars : Variables) : Nat → List Char → Nat → List Char → Prop where
  | first {n line} :
    Pass vars (n + 1) line 0 line
  | later {n line next i text} :
    vars.expandOnce line = .ok next →
    next ≠ line →
    Pass vars n next i text →
    Pass vars (n + 1) line (i + 1) text

/-- A pass over a text looks a key up: the scan meets it, and all keys that it meets before stand for
something. -/
def LooksUpIn (vars : Variables) (text key : List Char) : Prop :=
  ∃ before behind, Scans text (before ++ key :: behind) ∧ ∀ k ∈ before, ∃ value, vars.lookup k = .ok value

/-- The key of a part that is a reference. -/
def Piece.key? : Piece → Option (List Char)
  | .char _ => none
  | .reference key => some key

/-- The keys among the parts of a line. -/
def keys (ps : List Piece) : List (List Char) :=
  ps.filterMap Piece.key?

variable {vars : Variables} {before behind line text key rest : List Char} {ks : List (List Char)}
variable {ps : List Piece} {f : Fault} {n i j : Nat}

section Scans

lemma keys_chars (s : List Char) : keys (s.map .char) = [] := by
  rw [keys, List.filterMap_map]
  exact List.filterMap_eq_nil_iff.2 fun _ _ => rfl

lemma keys_append (ps qs) : keys (ps ++ qs) = keys ps ++ keys qs :=
  List.filterMap_append

lemma mem_keys_iff : key ∈ keys ps ↔ .reference key ∈ ps := by
  rw [keys, List.mem_filterMap]
  constructor
  · rintro ⟨p, hp, is⟩
    cases p with
    | char c => cases is
    | reference k =>
      cases is
      exact hp
  · intro hp
    exact ⟨_, hp, rfl⟩

/-- Before the first opening of a reference there are characters. -/
lemma pieces_before (plain : IsPlain before) (r) :
    pieces none (before ++ '$' :: '{' :: r) = before.map .char ++ pieces (some []) r := by
  induction before with
  | nil => rfl
  | cons c before ih =>
    rw [List.cons_append, pieces, ih plain.tail]
    · rfl
    · rintro q rfl e
      cases before with
      | nil => cases e
      | cons d before =>
        cases e
        exact plain ⟨[], before, rfl⟩

/-- A line with a closed reference has a first one. -/
lemma exists_first_reference (h : HasReference line) :
    ∃ before key behind, IsPlain before ∧ '}' ∉ key ∧ line = before ++ '$' :: '{' :: (key ++ '}' :: behind) := by
  induction line with
  | nil =>
    obtain ⟨before, key, behind, e⟩ := h
    cases before <;> cases e
  | cons c r ih =>
    obtain ⟨before, key, behind, e⟩ := h
    by_cases opens : c = '$' ∧ r.head? = some '{'
    · obtain ⟨rfl, first⟩ := opens
      obtain ⟨r, rfl⟩ := List.head?_eq_some_iff.1 first
      have closed : '}' ∈ r := by
        have whole : '}' ∈ '$' :: '{' :: r := by simp [e]
        simpa using whole
      obtain ⟨key, behind, rfl, open_⟩ := List.eq_append_cons_of_mem closed
      exact ⟨[], key, behind, by decide, open_, rfl⟩
    · have later : HasReference r := by
        cases before with
        | nil =>
          cases e
          exact absurd ⟨rfl, rfl⟩ opens
        | cons d before =>
          cases e
          exact ⟨before, key, behind, rfl⟩
      obtain ⟨before, key, behind, plain, open_, rfl⟩ := ih later
      refine ⟨c :: before, key, behind, ?_, open_, rfl⟩
      intro inside
      rcases List.infix_cons_iff.1 inside with here | there
      · obtain ⟨rfl, q, rfl⟩ := List.cons_prefix_cons.1 here
        exact opens ⟨rfl, rfl⟩
      · exact plain there

/-- What a scan meets are the keys among the parts of the line. -/
lemma Scans.keys_eq (scans : Scans line ks) : keys (pieces none line) = ks := by
  induction scans with
  | ended none =>
    rw [hasReference_iff, not_exists] at none
    rw [List.eq_nil_iff_forall_not_mem]
    intro key inside
    exact none key (mem_keys_iff.1 inside)
  | reference plain open_ _ ih =>
    rw [pieces_before plain, pieces_open open_, keys_append, keys_chars]
    exact congrArg (_ :: ·) ih

/-- Every line can be scanned. -/
lemma exists_scans (line) : ∃ ks, Scans line ks := by
  -- on the length of the line: a scan goes on behind the reference that it has met
  generalize length : line.length = n
  induction n using Nat.strongRecOn generalizing line with
  | ind n ih =>
    by_cases h : HasReference line
    · obtain ⟨before, key, behind, plain, open_, rfl⟩ := exists_first_reference h
      have shorter : behind.length < n := by
        rw [← length]
        simp only [List.length_append, List.length_cons]
        omega
      obtain ⟨ks, scans⟩ := ih _ shorter behind rfl
      exact ⟨key :: ks, .reference plain open_ scans⟩
    · exact ⟨[], .ended h⟩

lemma scans_iff : Scans line ks ↔ keys (pieces none line) = ks := by
  constructor
  · exact Scans.keys_eq
  · rintro rfl
    obtain ⟨ks, scans⟩ := exists_scans line
    rw [scans.keys_eq]
    exact scans

/-- A reference that nothing closes stands for itself. -/
lemma pieces_unclosed (open_ : '}' ∉ rest) (read : Option (List Char)) (before) :
    pieces read (before ++ '$' :: '{' :: rest) = pieces read before ++ ('$' :: '{' :: rest).map .char := by
  have unclosed (read) : pieces (some read) rest = ('$' :: '{' :: (read.reverse ++ rest)).map .char := by
    induction rest generalizing read with
    | nil => rw [pieces, List.append_nil]
    | cons c rest ih =>
      obtain ⟨other, others⟩ := not_or.1 (mt List.mem_cons.2 open_)
      rw [pieces, ih others, List.reverse_cons, List.append_assoc, List.singleton_append]
      exact fun same => other same.symm
  fun_induction pieces read before with
  | case1 => exact unclosed []
  | case2 r ih => exact ih
  | case3 c r not_open ih =>
    rw [List.cons_append, pieces, ih]
    · rfl
    · rintro q rfl e
      cases r with
      | nil => cases e
      | cons d r =>
        cases e
        exact not_open r rfl rfl
  | case4 key =>
    rw [List.nil_append, pieces, pieces, unclosed]
    · simp
    · decide
    · decide
  | case5 key r ih =>
    rw [List.cons_append, pieces, ih]
    rfl
  | case6 key c r not_brace ih =>
    rw [List.cons_append, pieces, ih]
    exact not_brace

end Scans

section Lookups

/-- Parts cannot be expanded when a key stands for nothing, and the first that does decides the fault. -/
lemma expandPieces_eq_error_iff :
    vars.expandPieces ps = .error f ↔ ∃ before key behind, keys ps = before ++ key :: behind ∧
      (∀ k ∈ before, ∃ value, vars.lookup k = .ok value) ∧ vars.lookup key = .error f := by
  induction ps with
  | nil =>
    constructor
    · intro fails
      cases fails
    · rintro ⟨before, key, behind, e, -⟩
      cases before <;> cases e
  | cons p ps ih =>
    rw [expandPieces, bind_eq_error]
    simp only [map_eq_error, ih]
    cases p with
    | char c =>
      constructor
      · rintro (first | ⟨s, -, later⟩)
        · cases first
        · exact later
      · intro later
        exact .inr ⟨[c], rfl, later⟩
    | reference k =>
      constructor
      · rintro (first | ⟨value, there, before, key, behind, e, resolved, dangling⟩)
        · exact ⟨[], k, keys ps, rfl, List.forall_mem_nil _, first⟩
        · refine ⟨k :: before, key, behind, congrArg (k :: ·) e, ?_, dangling⟩
          exact List.forall_mem_cons.2 ⟨⟨value, there⟩, resolved⟩
      · rintro ⟨before, key, behind, e, resolved, dangling⟩
        cases before with
        | nil =>
          obtain ⟨rfl, -⟩ := List.cons.inj e
          exact .inl dangling
        | cons k' before =>
          obtain ⟨rfl, later⟩ := List.cons.inj e
          obtain ⟨⟨value, there⟩, others⟩ := List.forall_mem_cons.1 resolved
          exact .inr ⟨value, there, before, key, behind, later, others, dangling⟩

/-- A pass fails with a key that it looks up and that stands for nothing. -/
lemma expandOnce_eq_error_iff :
    vars.expandOnce text = .error f ↔ ∃ key, vars.LooksUpIn text key ∧ vars.lookup key = .error f := by
  rw [expandOnce, expandPieces_eq_error_iff]
  constructor
  · rintro ⟨before, key, behind, e, resolved, dangling⟩
    exact ⟨key, ⟨before, behind, scans_iff.2 e, resolved⟩, dangling⟩
  · rintro ⟨key, ⟨before, behind, scans, resolved⟩, dangling⟩
    exact ⟨before, key, behind, scans.keys_eq, resolved, dangling⟩

/-- Where a scan meets a key that stands for nothing, the pass looks one up. -/
lemma exists_looksUpIn (scans : Scans text ks) (mem : key ∈ ks) (dangling : vars.lookup key = .error f) :
    ∃ k g, vars.LooksUpIn text k ∧ vars.lookup k = .error g := by
  have first : ∃ before k behind g, ks = before ++ k :: behind ∧
      (∀ k ∈ before, ∃ value, vars.lookup k = .ok value) ∧ vars.lookup k = .error g := by
    clear scans
    induction ks with
    | nil => cases mem
    | cons k ks ih =>
      cases e : vars.lookup k with
      | error g => exact ⟨[], k, ks, g, rfl, nofun, e⟩
      | ok value =>
        rcases List.mem_cons.1 mem with rfl | later
        · cases e.symm.trans dangling
        · obtain ⟨before, k', behind, g, rfl, resolved, fails⟩ := ih later
          refine ⟨k :: before, k', behind, g, rfl, ?_, fails⟩
          exact List.forall_mem_cons.2 ⟨⟨value, e⟩, resolved⟩
  obtain ⟨before, k, behind, g, rfl, resolved, fails⟩ := first
  exact ⟨k, g, ⟨before, behind, scans, resolved⟩, fails⟩

/-- The passes over a line fail as one of them does. -/
lemma expandUpTo_eq_error_iff :
    vars.expandUpTo n line = .error f ↔ ∃ i text, vars.Pass n line i text ∧ vars.expandOnce text = .error f := by
  induction n generalizing line with
  | zero =>
    refine iff_of_false nofun ?_
    rintro ⟨i, text, pass, -⟩
    cases pass
  | succ n ih =>
    rw [expandUpTo, bind_eq_error]
    constructor
    · rintro (first | ⟨next, once, later⟩)
      · exact ⟨0, line, .first, first⟩
      · split at later
        · cases later
        · rename_i changed
          obtain ⟨i, text, pass, fails⟩ := ih.1 later
          exact ⟨i + 1, text, .later once changed pass, fails⟩
    · rintro ⟨i, text, pass, fails⟩
      cases pass with
      | first => exact .inl fails
      | later once changed pass =>
        exact .inr ⟨_, once, by rw [if_neg changed, ih.2 ⟨_, _, pass, fails⟩]⟩

/-- A pass that another one comes after has not failed. -/
lemma Pass.expandOnce_ok (pass : vars.Pass n line i text) (before : j < i) {earlier}
    (made : vars.Pass n line j earlier) : ∃ next, vars.expandOnce earlier = .ok next := by
  induction pass generalizing j with
  | first => cases before
  | later once _ _ ih =>
    cases made with
    | first => exact ⟨_, once⟩
    | later once' _ made =>
      cases once.symm.trans once'
      exact ih (Nat.lt_of_succ_lt_succ before) made

end Lookups

end Transcript.Variables
