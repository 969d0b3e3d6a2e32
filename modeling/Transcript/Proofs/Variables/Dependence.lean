import Mathlib.Tactic.Common
import Transcript.Proofs.Variables.Faults
import Transcript.Proofs.Variables.Histories

/-!
# What substitution depends on

A line comes to the same in all variables that agree on the keys that its passes look up, be it a text or a
fault. So two definitions of which neither looks the other's name up can be made in either order
(`substitute_depends`).
-/

namespace Transcript.Variables

/-- A key is looked up when a line is substituted. -/
def LooksUp (vars : Variables) (line key : List Char) : Prop :=
  ∃ i text, vars.Pass maxPasses line i text ∧ vars.LooksUpIn text key

/-- A key stands for the same value, or for nothing in both. -/
def Agrees (vars vars' : Variables) (key : List Char) : Prop :=
  ∀ value, vars.lookup key = .ok value ↔ vars'.lookup key = .ok value

/-- What a definition answers: that it was made, or its fault. -/
def answer (vars : Variables) (name raw : List Char) : Except Fault Unit :=
  (vars.define name raw).map fun _ => ()

variable {vars vars' : Variables} {line text key name value raw : List Char} {ps : List Piece} {n : Nat}

section Agreement

/-- What a key that stands for nothing fails with is told by the key alone. -/
lemma Agrees.lookup_eq (agrees : vars.Agrees vars' key) : vars.lookup key = vars'.lookup key := by
  cases e : vars.lookup key with
  | ok value => exact ((agrees value).1 e).symm
  | error f =>
    cases e' : vars'.lookup key with
    | ok value => exact e.symm.trans ((agrees value).2 e')
    | error g =>
      have fault := lookup_eq_error_iff.1 e
      have fault' := lookup_eq_error_iff.1 e'
      cases fault with
      | group ne digits _ =>
        cases fault' with
        | group => rfl
        | name other _ =>
          rw [← isGroupKey_eq_false_iff, isGroupKey_iff.2 ⟨ne, digits⟩] at other
          cases other
      | name other _ =>
        cases fault' with
        | group ne digits _ =>
          rw [← isGroupKey_eq_false_iff, isGroupKey_iff.2 ⟨ne, digits⟩] at other
          cases other
        | name => rfl

lemma expandPieces_congr
    (same : ∀ before key behind, keys ps = before ++ key :: behind →
      (∀ k ∈ before, ∃ value, vars.lookup k = .ok value) → vars.lookup key = vars'.lookup key) :
    vars.expandPieces ps = vars'.expandPieces ps := by
  induction ps with
  | nil => rfl
  | cons p ps ih =>
    rw [expandPieces, expandPieces]
    cases p with
    | char c => rw [ih same, expandPiece, expandPiece]
    | reference k =>
      rw [expandPiece, expandPiece, ← same [] k (keys ps) rfl (List.forall_mem_nil _)]
      cases e : vars.lookup k with
      | error f => rfl
      | ok value =>
        -- the keys behind this one are looked up as well
        rw [ih]
        intro before key behind split resolved
        apply same (k :: before) key behind (congrArg (k :: ·) split)
        exact List.forall_mem_cons.2 ⟨⟨value, e⟩, resolved⟩

/-- A pass comes to the same where the keys that it looks up stand for the same. -/
lemma expandOnce_congr (same : ∀ key, vars.LooksUpIn text key → vars.lookup key = vars'.lookup key) :
    vars.expandOnce text = vars'.expandOnce text := by
  apply expandPieces_congr
  intro before key behind split resolved
  exact same key ⟨before, behind, scans_iff.2 split, resolved⟩

lemma expandUpTo_congr
    (same : ∀ i text key, vars.Pass n line i text → vars.LooksUpIn text key →
      vars.lookup key = vars'.lookup key) :
    vars.expandUpTo n line = vars'.expandUpTo n line := by
  induction n generalizing line with
  | zero => rfl
  | succ n ih =>
    rw [expandUpTo, expandUpTo, ← expandOnce_congr fun key => same 0 line key .first]
    cases once : vars.expandOnce line with
    | error f => rfl
    | ok next =>
      simp only [Except.bind]
      split
      · rfl
      · rename_i changed
        apply ih
        intro i text key pass
        exact same (i + 1) text key (.later once changed pass)

lemma substitute_congr (agrees : ∀ key, vars.LooksUp line key → vars.Agrees vars' key) :
    vars.substitute line = vars'.substitute line := by
  apply expandUpTo_congr
  intro i text key pass looked
  exact (agrees key ⟨i, text, pass, looked⟩).lookup_eq

end Agreement

section Definitions

/-- A key stands for what it stood for before another name was set. -/
lemma lookup_set_of_ne (h : key ≠ name) : (vars.set name value).lookup key = vars.lookup key := by
  rw [lookup, lookup, lookup_set, if_neg (Ne.symm h)]
  rfl

lemma lookup_set_comm {a b v w} (h : a ≠ b) :
    ((vars.set a v).set b w).lookup key = ((vars.set b w).set a v).lookup key := by
  have defs : ((vars.set a v).set b w).defs.lookup key = ((vars.set b w).set a v).defs.lookup key := by
    rw [lookup_set, lookup_set, lookup_set, lookup_set]
    by_cases ha : a = key
    · have hb : b ≠ key := fun same => h (ha.trans same.symm)
      rw [if_pos ha, if_pos ha, if_neg hb]
    · rw [if_neg ha, if_neg ha]
  rw [lookup, lookup, defs]
  rfl

/-- What a definition leaves, and what it answers, is told by what its value comes to. -/
lemma apply_define_eq (vars : Variables) (name raw) :
    vars.apply (.define name raw) = ((vars.substitute raw).map (vars.set name)).toOption.getD vars ∧
      vars.answer name raw = (vars.substitute raw).map fun _ => () := by
  rw [apply, answer, define]
  cases vars.substitute raw <;> exact ⟨rfl, rfl⟩

/-- A definition makes no difference to a line that does not look its name up. -/
lemma substitute_apply (h : ¬ vars.LooksUp line name) (raw) :
    (vars.apply (.define name raw)).substitute line = vars.substitute line := by
  rw [(apply_define_eq vars name raw).1]
  cases vars.substitute raw with
  | error f => rfl
  | ok value =>
    refine (substitute_congr fun key looked v => ?_).symm
    have other : key ≠ name := fun same => h (same ▸ looked)
    show _ ↔ (vars.set name value).lookup key = .ok v
    rw [lookup_set_of_ne other]

/-- What two definitions leave when neither looks the other's name up stands for the same in either order. -/
lemma substitute_apply_apply {a b ra rb} (ne : a ≠ b) (ha : ¬ vars.LooksUp ra b) (hb : ¬ vars.LooksUp rb a)
    (line) :
    ((vars.apply (.define a ra)).apply (.define b rb)).substitute line =
      ((vars.apply (.define b rb)).apply (.define a ra)).substitute line := by
  rw [(apply_define_eq (vars.apply (.define a ra)) b rb).1, substitute_apply hb,
    (apply_define_eq (vars.apply (.define b rb)) a ra).1, substitute_apply ha,
    (apply_define_eq vars a ra).1, (apply_define_eq vars b rb).1]
  cases vars.substitute ra with
  | error f => cases vars.substitute rb <;> rfl
  | ok v =>
    cases vars.substitute rb with
    | error g => rfl
    | ok w =>
      apply substitute_congr
      intro key _ value
      show ((vars.set a v).set b w).lookup key = .ok value ↔ ((vars.set b w).set a v).lookup key = .ok value
      rw [lookup_set_comm ne]

end Definitions

section Reading

/-- The keys that are looked up among those that a scan meets. -/
def lookups (vars : Variables) : List (List Char) → List (List Char)
  | [] => []
  | k :: ks =>
    match vars.lookup k with
    | .ok _ => k :: vars.lookups ks
    | .error _ => [k]

/-- The keys that the passes over a line look up, when so many may be made. -/
def readUpTo (vars : Variables) : Nat → List Char → List (List Char)
  | 0, _ => []
  | n + 1, line =>
    vars.lookups (keys (pieces none line)) ++
      match vars.expandOnce line with
      | .ok next => if next = line then [] else vars.readUpTo n next
      | .error _ => []

lemma mem_lookups_iff {ks} :
    key ∈ vars.lookups ks ↔ ∃ before behind, ks = before ++ key :: behind ∧
      ∀ k ∈ before, ∃ value, vars.lookup k = .ok value := by
  induction ks with
  | nil =>
    refine iff_of_false List.not_mem_nil ?_
    rintro ⟨before, behind, e, -⟩
    cases before <;> cases e
  | cons k ks ih =>
    constructor
    · intro mem
      rw [lookups] at mem
      split at mem
      · rename_i value e
        rcases List.mem_cons.1 mem with rfl | later
        · exact ⟨[], ks, rfl, nofun⟩
        · obtain ⟨before, behind, rfl, resolved⟩ := ih.1 later
          exact ⟨k :: before, behind, rfl, List.forall_mem_cons.2 ⟨⟨value, e⟩, resolved⟩⟩
      · obtain rfl := List.mem_singleton.1 mem
        exact ⟨[], ks, rfl, nofun⟩
    · rintro ⟨before, behind, e, resolved⟩
      rw [lookups]
      cases before with
      | nil =>
        obtain ⟨rfl, -⟩ := List.cons.inj e
        split <;> exact List.mem_cons_self
      | cons k' before =>
        obtain ⟨rfl, later⟩ := List.cons.inj e
        obtain ⟨⟨value, there⟩, others⟩ := List.forall_mem_cons.1 resolved
        rw [there]
        exact List.mem_cons_of_mem k (ih.2 ⟨before, behind, later, others⟩)

lemma mem_readUpTo_iff :
    key ∈ vars.readUpTo n line ↔ ∃ i text, vars.Pass n line i text ∧ vars.LooksUpIn text key := by
  have inPass (text) : key ∈ vars.lookups (keys (pieces none text)) ↔ vars.LooksUpIn text key := by
    rw [mem_lookups_iff]
    simp only [LooksUpIn, scans_iff]
  induction n generalizing line with
  | zero =>
    refine iff_of_false List.not_mem_nil ?_
    rintro ⟨i, text, pass, -⟩
    cases pass
  | succ n ih =>
    rw [readUpTo, List.mem_append, inPass]
    constructor
    · rintro (first | later)
      · exact ⟨0, line, .first, first⟩
      · split at later
        · rename_i next once
          split at later
          · cases later
          · rename_i changed
            obtain ⟨i, text, pass, looked⟩ := ih.1 later
            exact ⟨i + 1, text, .later once changed pass, looked⟩
        · cases later
    · rintro ⟨i, text, pass, looked⟩
      cases pass with
      | first => exact .inl looked
      | later once changed pass =>
        simp only [once, if_neg changed]
        exact .inr (ih.2 ⟨_, _, pass, looked⟩)

instance (vars line key) : Decidable (LooksUp vars line key) :=
  decidable_of_iff _ mem_readUpTo_iff

end Reading

/-- A line comes to the same in all variables that agree on the keys that are looked up when it is
substituted. Two definitions of different names, neither of which looks the other name up, answer the same in
either order and leave variables in which every line comes to the same, whether they can be made or not. -/
theorem substitute_depends (vars : Variables) :
    (∀ vars' line, (∀ key, vars.LooksUp line key → vars.Agrees vars' key) →
      vars.substitute line = vars'.substitute line) ∧
    ∀ a b ra rb, a ≠ b → ¬ vars.LooksUp ra b → ¬ vars.LooksUp rb a →
      (vars.apply (.define b rb)).answer a ra = vars.answer a ra ∧
      (vars.apply (.define a ra)).answer b rb = vars.answer b rb ∧
      ∀ line, ((vars.apply (.define a ra)).apply (.define b rb)).substitute line =
        ((vars.apply (.define b rb)).apply (.define a ra)).substitute line := by
  refine ⟨fun vars' line => substitute_congr, fun a b ra rb ne ha hb => ⟨?_, ?_, ?_⟩⟩
  · rw [(apply_define_eq _ a ra).2, (apply_define_eq vars a ra).2, substitute_apply ha]
  · rw [(apply_define_eq _ b rb).2, (apply_define_eq vars b rb).2, substitute_apply hb]
  · exact substitute_apply_apply ne ha hb

/-- A definition that cannot be made and one of a value that is read through another name. -/
theorem substitute_depends_failing :
    let vars : Variables := { defs := [(['A'], ['x']), (['C'], "<${A}>".toList)] }
    ¬ vars.LooksUp "${C}".toList ['Q'] ∧ ¬ vars.LooksUp "${C}${Z}".toList ['P'] ∧
      vars.LooksUp "${C}".toList ['A'] ∧
      (vars.apply (.define ['Q'] "${C}${Z}".toList)).answer ['P'] "${C}".toList = .ok () ∧
      (vars.apply (.define ['P'] "${C}".toList)).answer ['Q'] "${C}${Z}".toList =
        .error (.undefinedVariable ['Z']) ∧
      ∀ line,
        ((vars.apply (.define ['P'] "${C}".toList)).apply (.define ['Q'] "${C}${Z}".toList)).substitute line =
        ((vars.apply (.define ['Q'] "${C}${Z}".toList)).apply (.define ['P'] "${C}".toList)).substitute line := by
  intro vars
  have ha : ¬ vars.LooksUp "${C}".toList ['Q'] := by decide
  have hb : ¬ vars.LooksUp "${C}${Z}".toList ['P'] := by decide
  obtain ⟨first, second, same⟩ := (substitute_depends vars).2 ['P'] ['Q'] _ _ (by decide) ha hb
  exact ⟨ha, hb, by decide, first.trans (by decide), second.trans (by decide), same⟩

end Transcript.Variables
