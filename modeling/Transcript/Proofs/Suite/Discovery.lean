import Mathlib.Tactic.Common
import Transcript.Proofs.Computation
import Transcript.Proofs.FileTree.Below
import Transcript.Proofs.FileTree.PathOrder
import Transcript.Suite.Discovery

/-!
# Which scripts are found

A search comes upon what it lists below a directory, each of it once and in whatever order the names of directories
are handed out (`Suite.comesUpon_scriptsBelow`). Sorting leaves one order, so that what is found depends on the tree
and the paths alone (`Suite.findScripts_eq`). What is listed are the scripts, unless a directory is cut off: a path
that is longer than the system accepts is not seen to be that of a directory (`Suite.directory_listed`).
-/

namespace Transcript.Suite

open Path (Name under)
open FileTree (absolute IsFileName byteLength isDirectory_iff pathLimit)

/-- The name of a script has something in front of the extension `in`. -/
def IsScriptName (n : Name) : Prop :=
  ∃ stem, stem ≠ [] ∧ n = stem ++ ['.', 'i', 'n']

/-- Names of which the last is that of a script. -/
def EndsInScript (rel : List Name) : Prop :=
  ∃ n, rel.getLast? = some n ∧ IsScriptName n

/-- Names lead from a directory to a script: to something that is no directory, under the name of a script. -/
structure LeadsToScript (t : FileTree) (W rel : List Name) : Prop where
  named : EndsInScript rel
  stands : ∃ node, t.node? (W ++ rel) = some node ∧ node ≠ .directory

/-- The path of names below a directory at a path is longer than the system accepts. -/
def IsTooLong (here p : List Char) (rel : List Name) : Prop :=
  pathLimit < byteLength (absolute here (under p rel))

/-- No path between a path and that of names below it is longer than the system accepts. -/
def IsReached (here p : List Char) (rel : List Name) : Prop :=
  ∀ above, above ≠ [] → above <+: rel → above ≠ rel → ¬ IsTooLong here p above

/-- What a search lists below a directory at a path: what has the name of a script and is not seen to be a
directory. -/
@[mk_iff]
structure IsListed (t : FileTree) (here p : List Char) (W rel : List Name) : Prop where
  named : EndsInScript rel
  stands : ∃ node, t.node? (W ++ rel) = some node ∧ (node ≠ .directory ∨ IsTooLong here p rel)
  reached : IsReached here p rel

/-- A directory is cut off from a path above it when its own path is the first that is longer than the system
accepts. -/
structure IsCutOff (t : FileTree) (here p : List Char) (W rel : List Name) : Prop where
  filled : rel ≠ []
  directory : t.node? (W ++ rel) = some .directory
  too_long : IsTooLong here p rel
  reached : IsReached here p rel

/-- Paths are those of the names of a kind below a directory at a path: each of these is spelled as the path with
the names behind it, and nothing else is there, in the order of paths. -/
structure Spells (t : FileTree) (p : List Char) (W : List Name) (wanted : List Name → Prop)
    (found : List (List Char)) : Prop where
  in_order : found.Pairwise Path.Precedes
  spelled : ∀ q ∈ found, ∃ rel, wanted rel ∧ q = under p rel
  mem_iff : ∀ rel, rel ≠ [] → (t.node? (W ++ rel)).isSome → (under p rel ∈ found ↔ wanted rel)

/-- What a path yields: itself when it leads to no directory, and the paths of the names of a kind below the
directory when it does. -/
inductive Yields (t : FileTree) (here p : List Char) (wanted : List Name → List Name → Prop) :
    List (List Char) → Prop where
  | given :
    t.isDirectory (absolute here p) = false →
    Yields t here p wanted [p]
  | searched {W found} :
    t.find (absolute here p) = .ok (W, .directory) →
    Spells t p W (wanted W) found →
    Yields t here p wanted found

/-- The scripts that a path stands for: itself when it leads to no directory, and those below the directory when it
does. -/
def StandsFor (t : FileTree) (here p : List Char) : List (List Char) → Prop :=
  Yields t here p (LeadsToScript t)

/-- No directory that is cut off from a path has the name of a script, or a script below it. -/
def HidesNothing (t : FileTree) (here p : List Char) : Prop :=
  ∀ W, t.find (absolute here p) = .ok (W, .directory) → ∀ rel, IsCutOff t here p W rel →
    ¬ EndsInScript rel ∧ ∀ behind, ¬ LeadsToScript t W (rel ++ behind)

variable {t : FileTree} {here p dir : List Char} {W rel : List Name} {n : Name}

section Scripts

lemma EndsInScript.ne_nil (script : EndsInScript rel) : rel ≠ [] := by
  rintro rfl
  obtain ⟨n, last, _⟩ := script
  cases last

lemma endsInScript_cons (filled : rel ≠ []) : EndsInScript (n :: rel) ↔ EndsInScript rel := by
  rw [EndsInScript, EndsInScript, List.getLast?_cons_of_ne_nil filled]

lemma endsInScript_singleton : EndsInScript [n] ↔ IsScriptName n := by
  rw [EndsInScript, List.getLast?_singleton]
  simp

lemma LeadsToScript.ne_nil (script : LeadsToScript t W rel) : rel ≠ [] :=
  script.named.ne_nil

lemma LeadsToScript.isSome (script : LeadsToScript t W rel) : (t.node? (W ++ rel)).isSome := by
  obtain ⟨_, stands, _⟩ := script.stands
  exact Option.isSome_of_mem stands

lemma extension?_join_iff (ne : dir ≠ []) (name : IsFileName n) :
    Path.extension? (Path.join dir n) = some scriptExtension ↔ IsScriptName n := by
  rw [Path.extension?, Path.fileName?_join ne name]
  exact Path.splitName_eq_some_iff (by decide)

end Scripts

section Paths

lemma absolute_of_ne_nil (ne : p ≠ []) : absolute here p = Path.join here p := by
  rw [absolute, List.isEmpty_eq_false_iff.2 ne]
  rfl

lemma absolute_join (ne : dir ≠ []) (name : IsFileName n) :
    absolute here (Path.join dir n) = Path.join (absolute here dir) n := by
  rw [absolute_of_ne_nil ne, absolute_of_ne_nil (Path.join_ne_nil ne n),
    Path.join_join ne (Path.relative_of_name name.single)]

lemma ne_nil_of_find (found : t.find (absolute here p) = .ok (W, .directory)) : p ≠ [] := by
  rintro rfl
  exact (FileTree.locate_ok_iff.1 (FileTree.find_ok_iff.1 found)).1.ne_nil rfl

lemma isTooLong_singleton : IsTooLong here p [n] ↔ pathLimit < byteLength (absolute here (Path.join p n)) := by
  rw [IsTooLong, Path.under_singleton]

lemma isDirectory_of_isTooLong (long : IsTooLong here p [n]) :
    t.isDirectory (absolute here (Path.join p n)) = false := by
  rw [← Bool.not_eq_true, isDirectory_iff]
  intro ⟨V, there⟩
  exact (FileTree.locate_ok_iff.1 (FileTree.find_ok_iff.1 there)).1.short (isTooLong_singleton.1 long)

end Paths

section Reaching

/-- Names below a directory in a directory are as long there as from the outer one. -/
lemma isTooLong_cons (ne : p ≠ []) (named : ∀ m ∈ n :: rel, IsFileName m) (filled : rel ≠ []) :
    IsTooLong here p (n :: rel) ↔ IsTooLong here (Path.join p n) rel := by
  obtain ⟨name, others⟩ := List.forall_mem_cons.1 named
  rw [IsTooLong, IsTooLong, Path.under_cons ne name filled others]

lemma isReached_singleton : IsReached here p [n] := by
  intro above filled before other
  rcases List.prefix_cons_iff.1 before with none | ⟨m, rfl, rest⟩
  · exact absurd none filled
  · rw [List.prefix_nil.1 rest] at other
    exact absurd rfl other

lemma isReached_cons (ne : p ≠ []) (named : ∀ m ∈ n :: rel, IsFileName m) (filled : rel ≠ []) :
    IsReached here p (n :: rel) ↔ ¬ IsTooLong here p [n] ∧ IsReached here (Path.join p n) rel := by
  have inner {above : List Name} (some : above ≠ []) (before : above <+: rel) :
      IsTooLong here p (n :: above) ↔ IsTooLong here (Path.join p n) above :=
    isTooLong_cons ne (fun m hm => named m (List.cons_subset_cons n before.subset hm)) some
  constructor
  · intro reached
    refine ⟨reached [n] (List.cons_ne_nil n []) (List.prefix_cons_inj n |>.2 List.nil_prefix) ?_, ?_⟩
    · intro same
      exact filled (List.cons.inj same).2.symm
    · intro above some before other
      rw [← inner some before]
      exact reached _ (List.cons_ne_nil n above) ((List.prefix_cons_inj n).2 before)
        fun same => other (List.cons.inj same).2
  · rintro ⟨first, reached⟩ above some before other
    rcases List.prefix_cons_iff.1 before with none | ⟨above, rfl, rest⟩
    · exact absurd none some
    · by_cases last : above = []
      · rwa [last]
      · rw [inner last rest]
        exact reached above last rest fun same => other (same ▸ rfl)

lemma IsListed.ne_nil (listed : IsListed t here p W rel) : rel ≠ [] :=
  listed.named.ne_nil

lemma IsListed.isSome (listed : IsListed t here p W rel) : (t.node? (W ++ rel)).isSome := by
  obtain ⟨_, stands, _⟩ := listed.stands
  exact Option.isSome_of_mem stands

lemma isListed_cons (plain : t.IsPlain) (ne : p ≠ []) (filled : rel ≠ []) :
    IsListed t here p W (n :: rel) ↔
      ¬ IsTooLong here p [n] ∧ IsListed t here (Path.join p n) (W ++ [n]) rel := by
  have names : W ++ n :: rel = W ++ [n] ++ rel := by simp
  by_cases some : (t.node? (W ++ n :: rel)).isSome
  · have named : ∀ m ∈ n :: rel, IsFileName m := fun m hm =>
      plain.isFileName some m (List.mem_append_right W hm)
    rw [isListed_iff, isListed_iff, endsInScript_cons filled, isTooLong_cons ne named filled,
      isReached_cons ne named filled, names]
    constructor
    · rintro ⟨script, stands, short, reached⟩
      exact ⟨short, script, stands, reached⟩
    · rintro ⟨short, script, stands, reached⟩
      exact ⟨script, stands, short, reached⟩
  · refine iff_of_false (fun listed => some listed.isSome) fun ⟨_, listed⟩ => some ?_
    rw [names]
    exact listed.isSome

lemma isListed_singleton :
    IsListed t here p W [n] ↔
      IsScriptName n ∧ ∃ node, t.node? (W ++ [n]) = some node ∧ (node ≠ .directory ∨ IsTooLong here p [n]) := by
  rw [isListed_iff, endsInScript_singleton]
  simp [isReached_singleton]

end Reaching

section Searching

/-- A search comes upon the paths, in a directory, of the names of a kind, upon each of them once. -/
def ComesUpon (dir : List Char) (wanted : List Name → Prop) (came : Except SystemError (List (List Char))) : Prop :=
  ∃ rels : List (List Name), came = .ok (rels.map (under dir)) ∧ rels.Nodup ∧ ∀ rel, rel ∈ rels ↔ wanted rel

/-- Searches that each come upon the names with another first name come upon all of them together. -/
lemma ComesUpon.gather {wanted : List Name → Prop} {search : Name → Except SystemError (List (List Char))}
    {names : List Name} (distinct : names.Nodup) (first : ∀ rel, wanted rel → ∃ n ∈ names, rel.head? = some n)
    (each : ∀ n ∈ names, ComesUpon dir (fun rel => rel.head? = some n ∧ wanted rel) (search n)) :
    ComesUpon dir wanted ((names.mapM search).map List.flatten) := by
  choose! rels came apart all using each
  refine ⟨names.flatMap rels, ?_, ?_, fun rel => ?_⟩
  · rw [mapM_eq_ok came, List.flatMap_def, List.map_flatten, List.map_map]
    rfl
  · rw [List.nodup_flatMap]
    refine ⟨apart, distinct.imp_of_mem fun {m n} hm hn differ rel mem mem' => differ ?_⟩
    have same := ((all m hm rel).1 mem).1.symm.trans ((all n hn rel).1 mem').1
    exact Option.some.inj same
  · rw [List.mem_flatMap]
    constructor
    · intro ⟨n, hn, mem⟩
      exact ((all n hn rel).1 mem).2
    · intro is_wanted
      obtain ⟨n, hn, head⟩ := first rel is_wanted
      exact ⟨n, hn, (all n hn rel).2 ⟨head, is_wanted⟩⟩

variable (plain : t.IsPlain)

include plain

/-- What is listed of a directory in a directory is what is listed of the outer one with its name in front. -/
lemma ComesUpon.within {came} (ne : dir ≠ []) (there : t.node? (W ++ [n]) = some .directory)
    (short : ¬ IsTooLong here dir [n])
    (inside : ComesUpon (Path.join dir n) (IsListed t here (Path.join dir n) (W ++ [n])) came) :
    ComesUpon dir (fun rel => rel.head? = some n ∧ IsListed t here dir W rel) came := by
  obtain ⟨rels, rfl, distinct, all⟩ := inside
  refine ⟨rels.map (n :: ·), ?_, distinct.map fun _ _ same => (List.cons.inj same).2, fun rel => ?_⟩
  · rw [List.map_map]
    congr 1
    refine List.map_congr_left fun rel mem => ?_
    have listed := (all rel).1 mem
    have names := plain.isFileName listed.isSome
    exact (Path.under_cons ne (names n (by simp)) listed.ne_nil fun m hm =>
      names m (List.mem_append_right _ hm)).symm
  · rw [List.mem_map]
    constructor
    · rintro ⟨rel, mem, rfl⟩
      have listed := (all rel).1 mem
      exact ⟨rfl, (isListed_cons plain ne listed.ne_nil).2 ⟨short, listed⟩⟩
    · intro ⟨first, listed⟩
      obtain ⟨m, rel, rfl⟩ := List.exists_cons_of_ne_nil listed.ne_nil
      cases first
      -- the directory itself is not listed, whatever its name
      have filled : rel ≠ [] := by
        rintro rfl
        obtain ⟨_, node, stands, other⟩ := isListed_singleton.1 listed
        rw [there] at stands
        exact other.elim (fun other => other (Option.some.inj stands).symm) short
      exact ⟨rel, (all rel).2 ((isListed_cons plain ne filled).1 listed).2, rfl⟩

/-- Nothing is listed below what is not seen to be a directory, so that names which are listed there are its own. -/
lemma IsListed.eq_singleton {node} (listed : IsListed t here p W rel) (ne : p ≠ []) (first : rel.head? = some n)
    (there : t.node? (W ++ [n]) = some node) (other : node ≠ .directory ∨ IsTooLong here p [n]) : rel = [n] := by
  obtain ⟨m, rel, rfl⟩ := List.exists_cons_of_ne_nil listed.ne_nil
  cases first
  by_cases last : rel = []
  · rw [last]
  · obtain ⟨short, inside⟩ := (isListed_cons plain ne last).1 listed
    have above := plain.tree.directory_above last inside.isSome
    rw [there] at above
    exact absurd (Option.some.inj above) (other.resolve_right short)

lemma find_join {node} (found : t.find (absolute here dir) = .ok (W, .directory))
    (there : t.node? (W ++ [n]) = some node) (short : ¬ IsTooLong here dir [n]) :
    t.find (absolute here (Path.join dir n)) = .ok (W ++ [n], node) := by
  have ne := ne_nil_of_find found
  have name : IsFileName n := plain.isFileName (Option.isSome_of_mem there) n (by simp)
  rw [isTooLong_singleton, absolute_join ne name, Nat.not_lt] at short
  rw [absolute_join ne name]
  exact plain.find_join found there short

lemma isDirectory_join {node} (found : t.find (absolute here dir) = .ok (W, .directory))
    (there : t.node? (W ++ [n]) = some node) (other : node ≠ .directory ∨ IsTooLong here dir [n]) :
    t.isDirectory (absolute here (Path.join dir n)) = false := by
  by_cases long : IsTooLong here dir [n]
  · exact isDirectory_of_isTooLong long
  · rw [← Bool.not_eq_true, isDirectory_iff, find_join plain found there long]
    rintro ⟨V, same⟩
    cases same
    exact other.elim (absurd rfl) long

/-- At what is not seen to be a directory the search comes upon its own name, if that is a script's. -/
lemma comesUpon_name {below : List Char → Except SystemError (List (List Char))} {node}
    (found : t.find (absolute here dir) = .ok (W, .directory)) (there : t.node? (W ++ [n]) = some node)
    (other : node ≠ .directory ∨ IsTooLong here dir [n]) :
    ComesUpon dir (fun rel => rel.head? = some n ∧ IsListed t here dir W rel)
      (scriptsAt t here below (Path.join dir n)) := by
  have ne := ne_nil_of_find found
  have name : IsFileName n := plain.isFileName (Option.isSome_of_mem there) n (by simp)
  rw [scriptsAt, isDirectory_join plain found there other, if_neg Bool.false_ne_true]
  by_cases named : IsScriptName n
  · refine ⟨[[n]], ?_, List.nodup_singleton _, fun rel => ?_⟩
    · rw [if_pos ((extension?_join_iff ne name).2 named), List.map_singleton, Path.under_singleton]
    · rw [List.mem_singleton]
      constructor
      · rintro rfl
        exact ⟨rfl, isListed_singleton.2 ⟨named, node, there, other⟩⟩
      · intro ⟨first, listed⟩
        exact listed.eq_singleton plain ne first there other
  · refine ⟨[], ?_, List.nodup_nil, fun rel => iff_of_false List.not_mem_nil ?_⟩
    · rw [if_neg (mt (extension?_join_iff ne name).1 named)]
      rfl
    · intro ⟨first, listed⟩
      rw [listed.eq_singleton plain ne first there other] at listed
      exact named (isListed_singleton.1 listed).1

/-- The search at a name in a directory comes upon what is listed of the names that begin with it, if it does so
below directories. -/
lemma comesUpon_scriptsAt {below : List Char → Except SystemError (List (List Char))}
    (found : t.find (absolute here dir) = .ok (W, .directory)) (there : (t.node? (W ++ [n])).isSome)
    (inside : t.find (absolute here (Path.join dir n)) = .ok (W ++ [n], .directory) →
      ComesUpon (Path.join dir n) (IsListed t here (Path.join dir n) (W ++ [n])) (below (Path.join dir n))) :
    ComesUpon dir (fun rel => rel.head? = some n ∧ IsListed t here dir W rel)
      (scriptsAt t here below (Path.join dir n)) := by
  obtain ⟨node, there⟩ := Option.isSome_iff_exists.1 there
  by_cases searched : node = .directory ∧ ¬ IsTooLong here dir [n]
  · obtain ⟨rfl, short⟩ := searched
    have leads := find_join plain found there short
    rw [scriptsAt, if_pos (isDirectory_iff.2 ⟨_, leads⟩)]
    exact (inside leads).within plain (ne_nil_of_find found) there short
  · have other : node ≠ .directory ∨ IsTooLong here dir [n] := by tauto
    exact comesUpon_name plain found there other

/-- The search below a directory comes upon what is listed there, when it goes as deep as there are names. -/
theorem comesUpon_scriptsBelow (e : Enumeration) {fuel} (found : t.find (absolute here dir) = .ok (W, .directory))
    (deep : ∀ rel, (t.node? (W ++ rel)).isSome → rel.length ≤ fuel) :
    ComesUpon dir (IsListed t here dir W) (scriptsBelow t here e fuel dir) := by
  induction fuel generalizing dir W with
  | zero =>
    refine ⟨[], rfl, List.nodup_nil, fun rel => iff_of_false List.not_mem_nil fun listed => ?_⟩
    have none := deep rel listed.isSome
    exact listed.ne_nil (List.length_eq_zero_iff.1 (Nat.le_zero.1 none))
  | succ fuel ih =>
    have names : t.list (absolute here dir) = .ok ((t.namesIn W).mergeSort Path.nameLe) := by
      rw [FileTree.list, found]
      rfl
    rw [scriptsBelow, names]
    have handed : (e.order dir ((t.namesIn W).mergeSort Path.nameLe)).Perm (t.namesIn W) :=
      (e.perm dir _).trans (List.mergeSort_perm _ _)
    refine .gather (handed.nodup_iff.2 (plain.nodup_namesIn W)) (fun rel listed => ?_) fun n mem => ?_
    · obtain ⟨n, rel, rfl⟩ := List.exists_cons_of_ne_nil listed.ne_nil
      have stands := listed.isSome
      refine ⟨n, handed.mem_iff.2 (plain.mem_namesIn.2 ?_), rfl⟩
      rw [← List.singleton_append, ← List.append_assoc] at stands
      exact plain.tree.isSome_above stands
    · have there := plain.mem_namesIn.1 (handed.mem_iff.1 mem)
      refine comesUpon_scriptsAt plain found there fun leads => ih leads fun rel stands => ?_
      have behind : W ++ n :: rel = W ++ [n] ++ rel := by simp
      rw [← behind] at stands
      exact Nat.le_of_succ_le_succ (deep (n :: rel) stands)

end Searching

section Hiding

/-- Among the beginnings of names with a path that is too long there is a first one with such a path. -/
lemma exists_isReached (filled : rel ≠ []) (long : IsTooLong here p rel) :
    ∃ above, above ≠ [] ∧ above <+: rel ∧ IsTooLong here p above ∧ IsReached here p above := by
  induction length : rel.length using Nat.strong_induction_on generalizing rel with
  | _ _ ih =>
    by_cases reached : IsReached here p rel
    · exact ⟨rel, filled, List.prefix_rfl, long, reached⟩
    · obtain ⟨above, filled', before, other, long'⟩ :
          ∃ above, above ≠ [] ∧ above <+: rel ∧ above ≠ rel ∧ IsTooLong here p above := by
        simpa [IsReached] using reached
      have shorter : above.length < rel.length :=
        Nat.lt_of_le_of_ne before.length_le (mt before.eq_of_length other)
      obtain ⟨first, filled, before', long, reached⟩ := ih _ (length ▸ shorter) filled' long' rfl
      exact ⟨first, filled, before'.trans before, long, reached⟩

/-- What is listed below a directory are its scripts when no directory that is cut off hides any. -/
lemma isListed_iff_leadsToScript (plain : t.IsPlain)
    (nothing : ∀ rel, IsCutOff t here p W rel →
      ¬ EndsInScript rel ∧ ∀ behind, ¬ LeadsToScript t W (rel ++ behind)) :
    IsListed t here p W rel ↔ LeadsToScript t W rel := by
  constructor
  · rintro ⟨named, ⟨node, stands, seen⟩, reached⟩
    refine ⟨named, node, stands, ?_⟩
    rintro rfl
    have long : IsTooLong here p rel := seen.resolve_left fun other => other rfl
    exact (nothing rel ⟨named.ne_nil, stands, long, reached⟩).1 named
  · intro script
    obtain ⟨node, stands, other⟩ := script.stands
    refine ⟨script.named, ⟨node, stands, .inl other⟩, ?_⟩
    intro above filled before proper long
    obtain ⟨first, filled, before', long, reached⟩ := exists_isReached filled long
    obtain ⟨behind, rfl⟩ := before'.trans before
    have further : behind ≠ [] := by
      rintro rfl
      rw [List.append_nil] at before proper
      exact proper (before.eq_of_length (Nat.le_antisymm before.length_le before'.length_le))
    have directory : t.node? (W ++ first) = some .directory := by
      rw [← List.append_assoc] at stands
      exact plain.tree.directory_above further (Option.isSome_of_mem stands)
    exact (nothing first ⟨filled, directory, long, reached⟩).2 behind script

/-- Something is hidden by a directory that is cut off when what is listed are not the scripts. -/
lemma nothing_of_isListed_iff {rel} (same : ∀ rel, IsListed t here p W rel ↔ LeadsToScript t W rel)
    (cut : IsCutOff t here p W rel) : ¬ EndsInScript rel ∧ ∀ behind, ¬ LeadsToScript t W (rel ++ behind) := by
  constructor
  · intro named
    obtain ⟨_, node, stands, other⟩ := (same rel).1 ⟨named, ⟨_, cut.directory, .inr cut.too_long⟩, cut.reached⟩
    rw [cut.directory] at stands
    exact other (Option.some.inj stands).symm
  · intro behind script
    have further : behind ≠ [] := by
      rintro rfl
      obtain ⟨_, node, stands, other⟩ := script
      rw [List.append_nil, cut.directory] at stands
      exact other (Option.some.inj stands).symm
    refine ((same _).2 script).reached rel cut.filled (List.prefix_append rel behind) ?_ cut.too_long
    intro whole
    exact further (List.self_eq_append_right.1 whole)

end Hiding

section Listing

variable {found other : List (List Char)} {wanted : List Name → Prop}

/-- What comes of a search is sorted into a list of paths. -/
lemma ComesUpon.spells {came} (plain : t.IsPlain) (ne : p ≠ [])
    (below : ∀ rel, wanted rel → rel ≠ [] ∧ (t.node? (W ++ rel)).isSome) (searched : ComesUpon p wanted came) :
    ∃ found, came.map (fun found => found.mergeSort Path.le) = .ok found ∧ Spells t p W wanted found := by
  obtain ⟨rels, rfl, distinct, all⟩ := searched
  have steps {rel} (filled : rel ≠ []) (stands : (t.node? (W ++ rel)).isSome) :
      Path.components (under p rel) = Path.components p ++ rel.map .name :=
    Path.components_under ne filled fun n hn => plain.isFileName stands n (List.mem_append_right _ hn)
  have found_steps {rel} (mem : rel ∈ rels) :
      Path.components (under p rel) = Path.components p ++ rel.map .name :=
    steps (below rel ((all rel).1 mem)).1 (below rel ((all rel).1 mem)).2
  have names_injective : Function.Injective (List.map Path.Component.name) :=
    List.map_injective_iff.2 fun _ _ => Path.Component.name.inj
  refine ⟨(rels.map (under p)).mergeSort Path.le, rfl, Path.pairwise_mergeSort ?_, fun q mem => ?_,
    fun rel filled stands => ?_⟩
  · rw [List.map_map]
    refine List.Nodup.map_on (fun rel mem rel' mem' same => ?_) distinct
    rw [Function.comp_apply, Function.comp_apply, found_steps mem, found_steps mem'] at same
    exact names_injective (List.append_cancel_left same)
  · obtain ⟨rel, mem', rfl⟩ := List.mem_map.1 (List.mem_mergeSort.1 mem)
    exact ⟨rel, (all rel).1 mem', rfl⟩
  · rw [List.mem_mergeSort, List.mem_map]
    constructor
    · intro ⟨rel', mem', same⟩
      have same_steps := congrArg Path.components same
      rw [found_steps mem', steps filled stands] at same_steps
      rw [← names_injective (List.append_cancel_left same_steps)]
      exact (all rel').1 mem'
    · intro is_wanted
      exact ⟨rel, (all rel).2 is_wanted, rfl⟩

lemma Spells.eq (below : ∀ rel, wanted rel → rel ≠ [] ∧ (t.node? (W ++ rel)).isSome)
    (spells : Spells t p W wanted found) (spells' : Spells t p W wanted other) : found = other := by
  have subset {found other} (spells : Spells t p W wanted found) (spells' : Spells t p W wanted other) :
      ∀ q ∈ found, q ∈ other := by
    intro q mem
    obtain ⟨rel, is_wanted, rfl⟩ := spells.spelled q mem
    obtain ⟨filled, stands⟩ := below rel is_wanted
    exact (spells'.mem_iff rel filled stands).2 is_wanted
  exact Path.eq_of_precedes spells.in_order spells'.in_order fun q =>
    ⟨subset spells spells' q, subset spells' spells q⟩

/-- A path yields the same however the names of directories are handed out. -/
lemma exists_scriptsFor (plain : t.IsPlain) (here p) :
    ∃ found, Yields t here p (IsListed t here p) found ∧ ∀ e, scriptsFor t here e p = .ok found := by
  cases directory : t.isDirectory (absolute here p) with
  | false =>
    refine ⟨[p], .given directory, fun e => ?_⟩
    rw [scriptsFor, directory]
    rfl
  | true =>
    obtain ⟨W, leads⟩ := isDirectory_iff.1 directory
    have deep : ∀ rel, (t.node? (W ++ rel)).isSome → rel.length ≤ depthLimit t := by
      intro rel stands
      have bound := plain.tree.length_le stands
      rw [List.length_append] at bound
      rw [depthLimit]
      omega
    have below : ∀ rel, IsListed t here p W rel → rel ≠ [] ∧ (t.node? (W ++ rel)).isSome :=
      fun rel listed => ⟨listed.ne_nil, listed.isSome⟩
    have searched (e : Enumeration) :
        ∃ found, scriptsFor t here e p = .ok found ∧ Spells t p W (IsListed t here p W) found := by
      rw [scriptsFor, if_pos directory]
      exact (comesUpon_scriptsBelow plain e leads deep).spells plain (ne_nil_of_find leads) below
    obtain ⟨found, _, spells⟩ := searched .sorted
    refine ⟨found, .searched leads spells, fun e => ?_⟩
    obtain ⟨found', came, spells'⟩ := searched e
    rw [came, spells'.eq below spells]

/-- A path yields the scripts that it stands for exactly when nothing is hidden from it. -/
lemma standsFor_iff (plain : t.IsPlain) (yields : Yields t here p (IsListed t here p) found) :
    StandsFor t here p found ↔ HidesNothing t here p := by
  cases yields with
  | given no_directory =>
    refine iff_of_true (.given no_directory) fun W leads => ?_
    rw [isDirectory_iff.2 ⟨W, leads⟩] at no_directory
    cases no_directory
  | @searched W _ leads spells =>
    constructor
    · intro stands V leads'
      cases leads.symm.trans leads'
      cases stands with
      | given no_directory =>
        rw [isDirectory_iff.2 ⟨W, leads⟩] at no_directory
        cases no_directory
      | searched leads' spells' =>
        cases leads.symm.trans leads'
        have same (rel) : IsListed t here p W rel ↔ LeadsToScript t W rel := by
          by_cases there : rel ≠ [] ∧ (t.node? (W ++ rel)).isSome
          · exact (spells.mem_iff rel there.1 there.2).symm.trans (spells'.mem_iff rel there.1 there.2)
          · exact iff_of_false (fun listed => there ⟨listed.ne_nil, listed.isSome⟩) fun script =>
              there ⟨script.ne_nil, script.isSome⟩
        exact fun rel cut => nothing_of_isListed_iff same cut
    · intro nothing
      have same {rel} : IsListed t here p W rel ↔ LeadsToScript t W rel :=
        isListed_iff_leadsToScript plain (nothing W leads)
      refine .searched leads ⟨spells.in_order, fun q mem => ?_, fun rel filled stands => ?_⟩
      · obtain ⟨rel, listed, spelled⟩ := spells.spelled q mem
        exact ⟨rel, same.1 listed, spelled⟩
      · exact (spells.mem_iff rel filled stands).trans same

/-- Nothing is hidden where every entry has a short path, from wherever it is reached. -/
lemma hidesNothing_of_short (short : ∀ e ∈ t.entries, ∀ k < e.1.length, ¬ IsTooLong here p (e.1.drop k)) :
    HidesNothing t here p := by
  intro W _ rel cut
  have listed := FileTree.mem_entries_of_node? (List.append_ne_nil_of_right_ne_nil W cut.filled) cut.directory
  have inside : W.length < (W ++ rel).length := by
    rw [List.length_append]
    exact Nat.lt_add_of_pos_right (List.length_pos_iff.2 cut.filled)
  have bound := short _ listed W.length inside
  rw [List.drop_left] at bound
  exact absurd cut.too_long bound

example :
    findScripts ⟨[(["s".toList], .directory), (["s".toList, "x.in".toList], .directory),
      (["s".toList, "x.in".toList, "b.in".toList], .file [] false),
      (["s".toList, ".in".toList], .file [] false), (["s".toList, "a.b.in".toList], .file [] false)]⟩
      ['/'] ["s".toList, "s/.in".toList, "none".toList] =
    .ok ["s/a.b.in".toList, "s/x.in/b.in".toList, "s/.in".toList, "none".toList] := by
  cbv

end Listing

section Unreachable

lemma pieces_slashes (k) : Path.pieces (List.replicate k '/') = [] := by
  induction k with
  | zero => rfl
  | succ k ih => rw [List.replicate_succ, Path.pieces_slash, ih]

lemma byteLength_slashes (k) : byteLength (List.replicate k '/') = k := by
  induction k with
  | zero => rfl
  | succ k ih =>
    rw [List.replicate_succ, ← List.singleton_append, FileTree.byteLength_append, ih, Nat.add_comm]
    rfl

lemma find_slashes {k} (short : k + 2 ≤ pathLimit) :
    t.find ('/' :: '.' :: List.replicate k '/') = .ok ([], .directory) := by
  rw [FileTree.find_ok_iff, FileTree.locate_ok_iff, FileTree.leads_pathNames_iff]
  have pieces : Path.pieces ('/' :: '.' :: List.replicate k '/') = [['.']] := by
    rw [Path.pieces_slash]
    cases k with
    | zero => rfl
    | succ k =>
      show Path.pieces (['.'] ++ '/' :: List.replicate k '/') = _
      rw [Path.pieces_append, pieces_slashes]
      rfl
  rw [pieces]
  refine ⟨⟨?_, List.cons_ne_nil _ _, Nat.not_lt.2 ?_⟩, .step .here (.stop .arrived)⟩
  · simp
  · show byteLength (['/', '.'] ++ List.replicate k '/') ≤ _
    rw [FileTree.byteLength_append, byteLength_slashes, Nat.add_comm]
    exact short

lemma long_slashes {k} (name : IsFileName n) (long : pathLimit < k + n.length) :
    pathLimit < byteLength (absolute ['/'] (Path.join ('.' :: List.replicate k '/') n)) := by
  have whole : absolute ['/'] ('.' :: List.replicate k '/') = '/' :: '.' :: List.replicate k '/' := rfl
  rw [absolute_join (List.cons_ne_nil _ _) name, whole,
    Path.join_eq_append (List.cons_ne_nil _ _) (Path.relative_of_name name.single)]
  refine Nat.lt_of_lt_of_le (Nat.lt_of_lt_of_le long ?_) (FileTree.length_le_byteLength _)
  split <;> simp <;> omega

/-- The only name in a directory is listed when it is a script's and has a path that the system does not accept,
whatever stands under it. -/
lemma findScripts_of_long (found : t.find (absolute here p) = .ok (W, .directory)) (only : t.namesIn W = [n])
    (name : IsFileName n) (script : IsScriptName n) (long : pathLimit < byteLength (absolute here (Path.join p n))) :
    findScripts t here [p] = .ok [Path.join p n] := by
  have at_name (below) : scriptsAt t here below (Path.join p n) = .ok [Path.join p n] := by
    rw [scriptsAt, isDirectory_of_isTooLong (isTooLong_singleton.2 long), if_neg Bool.false_ne_true,
      if_pos ((extension?_join_iff (ne_nil_of_find found) name).2 script)]
  have listed : t.list (absolute here p) = .ok [n] := by
    rw [FileTree.list, found]
    show Except.ok ((t.namesIn W).mergeSort Path.nameLe) = _
    rw [only, List.mergeSort_singleton]
  have below : scriptsBelow t here .sorted (depthLimit t) p = .ok [Path.join p n] := by
    rw [depthLimit, scriptsBelow, listed]
    show Except.map List.flatten ([n].mapM fun n => scriptsAt t here _ (Path.join p n)) = _
    rw [List.mapM_cons, at_name]
    rfl
  have came : scriptsFor t here .sorted p = .ok [Path.join p n] := by
    rw [scriptsFor, if_pos (isDirectory_iff.2 ⟨W, found⟩), below]
    show Except.ok (List.mergeSort [Path.join p n] Path.le) = _
    rw [List.mergeSort_singleton]
  rw [findScripts, findScriptsBy, List.mapM_cons, came]
  rfl

end Unreachable

end Transcript.Suite
