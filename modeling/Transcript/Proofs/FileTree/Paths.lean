import Mathlib.Tactic.Common
import Transcript.Proofs.FileTree.Walking
import Transcript.Proofs.Text.Lines

/-!
# Paths in a file tree

A path in a directory is the path of the directory with the names of another path behind it. It leads
where these names lead from the directory (`FileTree.locate_join_iff`).
-/

namespace Transcript

namespace Path

variable {p q : List Char}

/-- A path that does not end in a slash. -/
structure IsBare (p : List Char) : Prop where
  ne_nil : p ≠ []
  not_slash : p.getLast? ≠ some '/'

/-- A relative path that never names the directory above. -/
def IsInner (p : List Char) : Prop :=
  .root ∉ components p ∧ .up ∉ components p

instance (p) : Decidable (IsInner p) :=
  inferInstanceAs (Decidable (.root ∉ components p ∧ .up ∉ components p))

lemma pieces_append (p q) : pieces (p ++ '/' :: q) = pieces p ++ pieces q := by
  rw [pieces, Text.splitAt_append_sep, List.filter_append]
  rfl

lemma pieces_slash (q) : pieces ('/' :: q) = pieces q :=
  pieces_append [] q

/-- A relative path stands behind a slash. -/
lemma IsBare.join_eq (bare : IsBare p) (relative : isAbsolute q = false) :
    join p q = p ++ '/' :: q := by
  rw [join, relative, List.isEmpty_eq_false_iff.2 bare.ne_nil]
  simp [bare.not_slash]

lemma relative_of_name {n : Name} (single : '/' ∉ n) : isAbsolute n = false := by
  rw [Bool.eq_false_iff]
  intro absolute
  rw [isAbsolute, beq_iff_eq] at absolute
  exact single (List.mem_of_head? absolute)

lemma pieces_of_name {n : Name} (ne : n ≠ []) (single : '/' ∉ n) : pieces n = [n] := by
  rw [pieces, Text.splitAt_of_not_mem single]
  simp [ne]

/-- A path in a directory has the pieces of the directory's path and its own. -/
lemma pieces_join (relative : isAbsolute q = false) : pieces (join p q) = pieces p ++ pieces q := by
  rcases List.eq_nil_or_concat p with rfl | ⟨r, c, rfl⟩
  · simp [join, pieces, Text.splitAt]
  · rw [List.concat_eq_append]
    by_cases slash : c = '/'
    · subst slash
      have joined : join (r ++ ['/']) q = r ++ '/' :: q := by simp [join, relative]
      rw [joined, pieces_append, pieces_append r []]
      simp [pieces, Text.splitAt]
    · have bare : IsBare (r ++ [c]) := ⟨by simp, by simpa using slash⟩
      rw [bare.join_eq relative, pieces_append]

/-- A path in a directory begins with the directory's path. -/
lemma exists_join_eq (relative : isAbsolute q = false) : ∃ s, join p q = p ++ s := by
  rw [join, relative]
  by_cases ne : p = []
  · exact ⟨q, by simp [ne]⟩
  · by_cases slash : p.getLast? = some '/'
    · exact ⟨q, by simp [ne, slash]⟩
    · exact ⟨'/' :: q, by simp [ne, slash]⟩

lemma join_ne_nil (ne : p ≠ []) (q) : join p q ≠ [] := by
  cases absolute : isAbsolute q with
  | true =>
    rw [join, absolute]
    rintro rfl
    cases absolute
  | false =>
    obtain ⟨s, joined⟩ := exists_join_eq (p := p) absolute
    rw [joined]
    exact fun none => ne (List.append_eq_nil_iff.1 none).1

/-- A path in a directory ends as it is written. -/
lemma getLast?_join (ne : q ≠ []) : (join p q).getLast? = q.getLast? := by
  rw [join]
  split
  · rfl
  · split
    · exact List.getLast?_append_of_ne_nil p ne
    · rw [List.getLast?_append_of_ne_nil p (List.cons_ne_nil _ _), List.getLast?_cons_of_ne_nil ne]

/-- The path of a name in a directory does not end in a slash. -/
lemma isBare_join {n : Name} (ne : p ≠ []) (filled : n ≠ []) (single : '/' ∉ n) : IsBare (join p n) where
  ne_nil := join_ne_nil ne n
  not_slash := by
    rw [getLast?_join filled]
    exact fun slash => single (List.mem_of_getLast? slash)

/-- A path whose steps do not begin with the root is relative. -/
lemma IsInner.relative (inner : IsInner p) : isAbsolute p = false := by
  rw [Bool.eq_false_iff]
  intro absolute
  apply inner.1
  rw [components, if_pos absolute]
  exact List.mem_cons_self

/-- The steps of a path are those of its pieces, and those that its beginning stands for. -/
lemma mem_components {c n} (mem : n ∈ pieces p) (step : component? n = some c) : c ∈ components p := by
  have found : c ∈ (pieces p).filterMap component? := List.mem_filterMap.2 ⟨n, mem, step⟩
  rw [components]
  split
  · exact List.mem_cons_of_mem _ found
  · split
    · exact List.mem_cons_of_mem _ found
    · exact found

lemma IsInner.not_up (inner : IsInner p) : ['.', '.'] ∉ pieces p := by
  intro mem
  exact inner.2 (mem_components mem rfl)

end Path

namespace FileTree

open Path (Name IsBare)

variable {t u : FileTree} {followLast : Bool} {p q W : List Char} {place : Place}

section Names

lemma pathNames_of_bare (bare : IsBare p) : pathNames p = Path.pieces p := by
  rw [pathNames]
  simp [bare.not_slash]

/-- A slash behind a directory ends its names. -/
lemma pathNames_append (p q) : pathNames (p ++ '/' :: q) = Path.pieces p ++ pathNames ('/' :: q) := by
  rw [pathNames, pathNames, Path.pieces_append, Path.pieces_slash, List.append_assoc,
    List.getLast?_append_of_ne_nil]
  exact List.cons_ne_nil _ _

/-- There is always a name behind a slash. -/
lemma pathNames_slash_ne_nil (q) : pathNames ('/' :: q) ≠ [] := by
  rw [pathNames]
  intro none
  obtain ⟨no_piece, no_slash⟩ := List.append_eq_nil_iff.1 none
  have bare : ('/' :: q).getLast? ≠ some '/' := by
    intro slash
    simp [slash] at no_slash
  rcases List.eq_nil_or_concat q with rfl | ⟨q, c, rfl⟩
  · exact bare rfl
  · rw [List.concat_eq_append, ← List.cons_append, List.getLast?_concat] at bare
    obtain ⟨ps, p, _, split⟩ := Text.splitAt_concat_ne (fun e => bare (congrArg some e)) ('/' :: q)
    rw [List.concat_eq_append, ← List.cons_append, Path.pieces, split, List.filter_append,
      List.append_eq_nil_iff] at no_piece
    simp at no_piece

/-- A slash in front makes no difference but for the empty path. -/
lemma pathNames_slash (ne : q ≠ []) : pathNames ('/' :: q) = pathNames q := by
  rw [pathNames, pathNames, Path.pieces_slash, List.getLast?_cons_of_ne_nil ne]

/-- Names that stay below a directory stay there behind a slash. -/
lemma StaysBelow.slash {W below} (inside : StaysBelow t W below (pathNames q)) :
    StaysBelow t W below (pathNames ('/' :: q)) := by
  by_cases ne : q = []
  · subst ne
    rw [show pathNames ['/'] = [['.']] from rfl, StaysBelow, if_pos rfl]
    trivial
  · rw [pathNames_slash ne]
    exact inside

/-- The names of a path that never names the directory above are no double points. -/
lemma not_up_mem_pathNames (inner : Path.IsInner q) : ['.', '.'] ∉ pathNames q := by
  rw [pathNames, List.mem_append, not_or]
  refine ⟨inner.not_up, ?_⟩
  split <;> decide

end Names

section Locating

/-- A text that can be a path. -/
structure IsPath (p : List Char) : Prop where
  no_nul : p.contains '\x00' = false
  ne_nil : p ≠ []
  short : ¬ pathLimit < byteLength p

/-- A path leads where its names lead from the root. -/
lemma locate_ok_iff :
    t.locate followLast p = .ok place ↔ IsPath p ∧ Leads t followLast 40 [] (pathNames p) place := by
  rw [← walk_ok_iff, locate]
  constructor
  · intro e
    split at e
    · cases e
    · rename_i no_nul
      split at e
      · cases e
      · rename_i ne_nil
        split at e
        · cases e
        · rename_i short
          exact ⟨⟨Bool.eq_false_iff.2 no_nul, fun h => ne_nil (List.isEmpty_iff.2 h), short⟩, e⟩
  · intro ⟨path, w⟩
    rw [path.no_nul, List.isEmpty_eq_false_iff.2 path.ne_nil, if_neg path.short]
    exact w

/-- An entry is found where a path leads. -/
lemma find_ok_iff {names node} :
    t.find p = .ok (names, node) ↔ t.locate true p = .ok (.taken names node) := by
  rw [find]
  cases t.locate true p with
  | error e => simp
  | ok place => cases place <;> simp

lemma isDirectory_iff : t.isDirectory p = true ↔ ∃ names, t.find p = .ok (names, .directory) := by
  rw [isDirectory]
  cases t.find p with
  | error err => simp
  | ok found =>
    obtain ⟨names, node⟩ := found
    cases node <;> simp

lemma byteLength_append (p q) : byteLength (p ++ q) = byteLength p + byteLength q := by
  have sum : ∀ start, q.foldl (fun n c => n + c.utf8Size) start = start + byteLength q := by
    rw [byteLength]
    induction q with
    | nil => exact fun _ => rfl
    | cons c q ih =>
      intro start
      rw [List.foldl_cons, List.foldl_cons, ih, ih (0 + _), Nat.zero_add, Nat.add_assoc]
  rw [byteLength, List.foldl_append, sum]
  rfl

/-- A text has as many bytes as characters at least. -/
lemma length_le_byteLength (p) : p.length ≤ byteLength p := by
  induction p with
  | nil => exact Nat.le_refl _
  | cons c p ih =>
    rw [← List.singleton_append, byteLength_append, List.length_append]
    apply Nat.add_le_add _ ih
    exact Nat.le_trans c.utf8Size_pos (Nat.le_add_left _ _)

/-- A text has one byte for each of its characters exactly when all of them are ASCII. -/
lemma byteLength_eq_length_iff {p} : byteLength p = p.length ↔ ∀ c ∈ p, c.toNat < 128 := by
  induction p with
  | nil => exact iff_of_true rfl (List.forall_mem_nil _)
  | cons c p ih =>
    have ascii : c.toNat < 128 ↔ c.utf8Size = 1 :=
      Nat.lt_succ_iff.trans (UInt32.le_iff_toNat_le.symm.trans Char.utf8Size_eq_one_iff.symm)
    have bytes : byteLength (c :: p) = 0 + c.utf8Size + byteLength p := byteLength_append [c] p
    have first := c.utf8Size_pos
    have others := length_le_byteLength p
    rw [List.forall_mem_cons, ascii, ← ih, bytes, List.length_cons]
    omega

lemma IsPath.of_append (path : IsPath (p ++ q)) (ne : p ≠ []) : IsPath p where
  no_nul := by
    have no_nul := path.no_nul
    simp only [List.contains_eq_mem, List.mem_append, decide_eq_false_iff_not, not_or] at no_nul ⊢
    exact no_nul.1
  ne_nil := ne
  short long := by
    apply path.short
    rw [byteLength_append]
    exact Nat.lt_of_lt_of_le long (Nat.le_add_right _ _)

/-- A path in a directory leads where its names lead from there. -/
theorem locate_join_iff (bare : IsBare p) (relative : Path.isAbsolute q = false) :
    t.locate followLast (Path.join p q) = .ok place ↔
      IsPath (Path.join p q) ∧ ∃ fewer W, Enters t 40 [] (pathNames p) fewer W ∧
        Leads t followLast fewer W (pathNames ('/' :: q)) place := by
  rw [locate_ok_iff, bare.join_eq relative, pathNames_append, pathNames_of_bare bare,
    leads_append_iff (pathNames_slash_ne_nil q)]

/-- A slash at the end of a directory's path makes no difference. -/
lemma leads_pathNames_iff {links dir R} :
    Leads t true links dir (pathNames p) (.taken R .directory) ↔
      Leads t true links dir (Path.pieces p) (.taken R .directory) := by
  rw [pathNames]
  split
  · rw [leads_append_iff (by simp)]
    constructor
    · intro ⟨fewer, V, enters, last⟩
      cases (Step.here.leads_iff.1 last).eq_of_nil
      exact enters_iff.1 ⟨fewer, enters⟩
    · intro leads
      obtain ⟨fewer, enters⟩ := enters_iff.2 leads
      exact ⟨fewer, R, enters, Step.here.leads_iff.2 (.stop .arrived)⟩
  · rw [List.append_nil]

/-- The path of a name in a directory leads to the name when it is free. -/
theorem locate_free_iff {n : Name} {W} (ne : p ≠ []) (filled : n ≠ []) (single : '/' ∉ n) :
    t.locate false (Path.join p n) = .ok (.free W) ↔
      IsPath (Path.join p n) ∧ ∃ R, t.find p = .ok (R, .directory) ∧ IsEntryName n ∧
        t.node? (R ++ [n]) = none ∧ W = R ++ [n] := by
  have relative := Path.relative_of_name single
  have bare := Path.isBare_join ne filled single
  rw [locate_ok_iff, pathNames_of_bare bare, Path.pieces_join relative,
    Path.pieces_of_name filled single, leads_append_iff (List.cons_ne_nil n [])]
  apply and_congr_right
  intro isPath
  have above : IsPath p := by
    obtain ⟨s, joined⟩ := Path.exists_join_eq (p := p) relative
    rw [joined] at isPath
    exact isPath.of_append ne
  constructor
  · intro ⟨fewer, R, enters, leads⟩
    refine ⟨R, ?_, leads_free_iff.1 leads⟩
    rw [find_ok_iff, locate_ok_iff]
    exact ⟨above, leads_pathNames_iff.2 (enters_iff.1 ⟨fewer, enters⟩)⟩
  · intro ⟨R, found, free⟩
    rw [find_ok_iff, locate_ok_iff] at found
    obtain ⟨fewer, enters⟩ := enters_iff.2 (leads_pathNames_iff.1 found.2)
    exact ⟨fewer, R, enters, leads_free_iff.2 free⟩

end Locating

end FileTree

end Transcript
