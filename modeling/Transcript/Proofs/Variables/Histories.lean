import Mathlib.Data.List.Induction
import Mathlib.Tactic.Common
import Transcript.Proofs.Variables.Regular

/-!
# Definitions by value

The variables after any number of definitions and records of groups. As long as dollar signs stand in
complete references only, no value has one, and so a definition holds what its references stood for when
it was made, whatever becomes of them later (`after_byValue`). A key that is a number is no name, and
neither is one with a closing brace (`not_byValue`).
-/

namespace Transcript.Variables

/-- Something that is done with the variables. -/
inductive Operation where
  | define (name raw : List Char)
  | recordGroups (groups : List (List Char))
deriving DecidableEq, Repr

/-- The variables after an operation. A definition that fails leaves them as they are. -/
def apply (vars : Variables) : Operation → Variables
  | .define name raw => (vars.define name raw).toOption.getD vars
  | .recordGroups groups => vars.recordGroups groups

/-- The variables after operations, from none on. -/
def after (ops : List Operation) : Variables :=
  ops.foldl apply {}

/-- In what an operation brings, dollar signs begin complete references, and groups have none. -/
def Operation.IsRegular : Operation → Prop
  | .define _ raw => Variables.IsRegular raw
  | .recordGroups groups => ∀ g ∈ groups, '$' ∉ g

instance : (op : Operation) → Decidable op.IsRegular
  | .define _ raw => inferInstanceAs (Decidable (Variables.IsRegular raw))
  | .recordGroups groups => inferInstanceAs (Decidable (∀ g ∈ groups, '$' ∉ g))

/-- An operation defines a name, and does not fail. -/
def Defines (vars : Variables) (name : List Char) (op : Operation) : Prop :=
  ∃ raw changed, op = .define name raw ∧ vars.define name raw = .ok changed

variable {vars changed : Variables} {op : Operation} {name raw : List Char} {past later : List Operation}

section Steps

/-- A name that was set has its value, and any other name keeps its own. -/
lemma lookup_set (vars : Variables) (n value name : List Char) :
    (vars.set n value).defs.lookup name = if n = name then some value else vars.defs.lookup name := by
  unfold set
  rw [List.lookup_cons]
  by_cases h : n = name
  · subst h
    rw [if_pos rfl, beq_self_eq_true]
  · have ne : (name == n) = false := beq_false_of_ne (Ne.symm h)
    rw [if_neg h, ne]
    simp only
    induction vars.defs with
    | nil => rfl
    | cons d ds ih =>
      by_cases hd : d.1 = n
      · have ne' : (name == d.1) = false := hd ▸ ne
        rw [List.filter_cons_of_neg (by simpa using hd), ih, List.lookup_cons, ne']
      · rw [List.filter_cons_of_pos (by simpa using hd), List.lookup_cons, List.lookup_cons, ih]

/-- A definition that does not fail sets the name to the value with its references replaced. -/
lemma define_ok (e : vars.define name raw = .ok changed) :
    ∃ value, vars.substitute raw = .ok value ∧ changed = vars.set name value := by
  rw [define] at e
  obtain ⟨value, replaced, rfl⟩ := map_eq_ok.1 e
  exact ⟨value, replaced, rfl⟩

/-- A definition is carried out, or leaves the variables as they are. -/
lemma apply_define (vars : Variables) (name raw) :
    vars.define name raw = .ok (vars.apply (.define name raw)) ∨
      (∃ f, vars.define name raw = .error f) ∧ vars.apply (.define name raw) = vars := by
  rw [apply]
  cases vars.define name raw with
  | error f => exact .inr ⟨⟨f, rfl⟩, rfl⟩
  | ok changed => exact .inl rfl

/-- No operation brings a dollar sign into a value. -/
lemma Lacks.apply (h : vars.Lacks '$') (regular : op.IsRegular) : (vars.apply op).Lacks '$' := by
  cases op with
  | define name raw =>
    rcases apply_define vars name raw with carried | ⟨-, same⟩
    · obtain ⟨value, e, set⟩ := define_ok carried
      obtain ⟨ps, parts, rfl⟩ := isRegular_iff.1 regular
      rw [set]
      exact h.set name ((substitute_texts h parts).2 value e)
    · rw [same]
      exact h
  | recordGroups groups => exact h.recordGroups regular

/-- What does not define a name, or fails to, leaves the name its value. -/
lemma lookup_apply (h : ¬ vars.Defines name op) :
    (vars.apply op).defs.lookup name = vars.defs.lookup name := by
  cases op with
  | define n raw =>
    rcases apply_define vars n raw with carried | ⟨-, same⟩
    · obtain ⟨value, -, set⟩ := define_ok carried
      have other : n ≠ name := by
        rintro rfl
        exact h ⟨raw, _, rfl, carried⟩
      rw [set, lookup_set, if_neg other]
    · rw [same]
  | recordGroups groups => rfl

end Steps

section Runs

/-- More operations are carried out behind the others. -/
lemma after_concat (past op) : after (past ++ [op]) = (after past).apply op := by
  rw [after, List.foldl_append]
  rfl

/-- At no point of a regular history does a value or a group have a dollar sign. -/
lemma lacks_after (regular : ∀ op ∈ past, op.IsRegular) : (after past).Lacks '$' := by
  induction past using List.reverseRecOn with
  | nil => exact .empty '$'
  | append_singleton past op ih =>
    rw [after_concat]
    apply (ih fun o ho => regular o (List.mem_append_left _ ho)).apply
    exact regular op (List.mem_append_right _ List.mem_cons_self)

/-- A name keeps its value as long as it is not defined. -/
lemma lookup_after
    (h : ∀ before op behind, later = before ++ op :: behind → ¬ (after (past ++ before)).Defines name op) :
    (after (past ++ later)).defs.lookup name = (after past).defs.lookup name := by
  induction later using List.reverseRecOn with
  | nil => rw [List.append_nil]
  | append_singleton later op ih =>
    rw [← List.append_assoc, after_concat, lookup_apply (h later op [] rfl)]
    apply ih
    intro before o behind split
    exact h before o (behind ++ [op]) (by rw [split, List.append_assoc, List.cons_append])

/-- What a name stands for is its value, whatever the groups are. -/
lemma lookup_of_name (h : isGroupKey name = false) (vars : Variables) :
    vars.lookup name = match vars.defs.lookup name with
      | some v => .ok v
      | none => .error (.undefinedVariable name) := by
  rw [lookup, h]
  rfl

/-- After a regular history no value has a dollar sign. The references of a regular line are replaced all
at once by what they stand for now; a definition that does not fail stores its value so; and what a name
stands for does not change until the name is defined again, whatever else is defined, fails or is
recorded. -/
theorem after_byValue (regular : ∀ op ∈ past, op.IsRegular) :
    (∀ d ∈ (after past).defs, '$' ∉ d.2) ∧
    (∀ line, IsRegular line → ∃ ps, (∀ p ∈ ps, Piece.IsRegular p) ∧ texts ps = line ∧
      (after past).substitute line = (ps.mapM (after past).expandPiece).map List.flatten) ∧
    (∀ name raw changed, IsRegular raw → (after past).define name raw = .ok changed →
      after (past ++ [.define name raw]) = changed ∧
      ∃ ps values, (∀ p ∈ ps, Piece.IsRegular p) ∧ texts ps = raw ∧
        ps.mapM (after past).expandPiece = .ok values ∧
        changed.defs.lookup name = some values.flatten) ∧
    (∀ name later, isGroupKey name = false → '}' ∉ name → (∀ op ∈ later, op.IsRegular) →
      (∀ before op behind, later = before ++ op :: behind →
        ¬ (after (past ++ before)).Defines name op) →
      (after (past ++ later)).substitute (Piece.reference name).text =
        (after past).substitute (Piece.reference name).text) := by
  have free := lacks_after regular
  refine ⟨free.values, ?_, ?_, ?_⟩
  · intro line regularLine
    obtain ⟨ps, parts, rfl⟩ := isRegular_iff.1 regularLine
    exact ⟨ps, parts, rfl, (substitute_texts free parts).1⟩
  · intro name raw changed regularRaw e
    obtain ⟨ps, parts, rfl⟩ := isRegular_iff.1 regularRaw
    obtain ⟨value, replaced, rfl⟩ := define_ok e
    constructor
    · rw [after_concat, apply, e]
      rfl
    · rw [(substitute_texts free parts).1] at replaced
      cases all : ps.mapM (after past).expandPiece with
      | error f =>
        rw [all] at replaced
        cases replaced
      | ok values =>
        rw [all] at replaced
        cases replaced
        refine ⟨ps, values, parts, rfl, all, ?_⟩
        rw [lookup_set, if_pos rfl]
  · intro name later isName brace regularLater undefined
    have freeLater : (after (past ++ later)).Lacks '$' :=
      lacks_after fun op hop => (List.mem_append.1 hop).elim (regular op) (regularLater op)
    rw [substitute_reference freeLater brace, substitute_reference free brace, lookup_of_name isName,
      lookup_of_name isName, lookup_after undefined]

/-- What a name was made of can be defined anew, also by itself. -/
theorem after_byValue_append :
    let past : List Operation := [.define ['A'] ['x'], .define ['B'] "${A}y".toList]
    let later : List Operation :=
      [.recordGroups [['g']], .define ['A'] "${A}z".toList, .define ['C'] "${Z}".toList]
    (after (past ++ later)).substitute "${A}".toList = .ok ['x', 'z'] ∧
      (after (past ++ later)).substitute "${B}".toList = .ok ['x', 'y'] := by
  intro past later
  have regular : ∀ op ∈ past, op.IsRegular := by decide
  have regularLater : ∀ op ∈ later, op.IsRegular := by decide
  obtain ⟨-, -, -, kept⟩ := after_byValue regular
  constructor
  · decide
  · refine (kept ['B'] later rfl (by decide) regularLater ?_).trans (by decide)
    rintro before op behind split ⟨raw, changed, rfl, -⟩
    have inside : Operation.define ['B'] raw ∈ later := by simp [split]
    simp [later] at inside

/-- A number stands for a group although it is defined, and a key ends at the first closing brace. -/
theorem not_byValue :
    let numbered : List Operation := [.define ['1'] ['x']]
    let braced : List Operation := [.define ['a'] ['u'], .define ['a', '}', 'b'] ['x']]
    let record : Operation := .recordGroups [['y'], ['z']]
    let redefine : Operation := .define ['a'] ['v']
    (∀ op ∈ numbered ++ braced ++ [record, redefine], op.IsRegular) ∧
    (after numbered).substitute (Piece.reference ['1']).text = .error (.missingGroup ['1']) ∧
    (after (numbered ++ [record])).substitute (Piece.reference ['1']).text = .ok ['z'] ∧
    (after braced).substitute (Piece.reference ['a', '}', 'b']).text = .ok ['u', 'b', '}'] ∧
    (after (braced ++ [redefine])).substitute (Piece.reference ['a', '}', 'b']).text =
      .ok ['v', 'b', '}'] := by
  decide

end Runs

end Transcript.Variables
