import Mathlib.Tactic.Common
import Transcript.Proofs.FileTree.Entries

/-!
# Walking through a file tree

Where a path leads, step by step: a walk takes steps until it stops (`FileTree.walk_ok_iff`). A walk
with names of two paths, one after the other, enters the directory that the first one leads to
(`FileTree.leads_append_iff`). A walk leads to the same place in a tree that has more entries
(`FileTree.Leads.extend`), and one that neither climbs out of a directory nor comes upon a link stays
in the directory (`FileTree.Leads.stays`).
-/

namespace Transcript

open Path (Name)

/-- The names of the place that a path leads to. -/
def Place.names : Place → List Name
  | .taken names _ => names
  | .free names => names

/-- What stands in the place that a path leads to. -/
def Place.node? : Place → Option Node
  | .taken _ node => some node
  | .free _ => none

namespace FileTree

/-- A name that an entry can have. -/
structure IsEntryName (n : Name) : Prop where
  not_here : n ≠ ['.']
  not_up : n ≠ ['.', '.']
  short : ¬ nameLimit < byteLength n

/-- A step of a walk, from a directory with the names that are still to come. The number is that of
the links that may still be followed. -/
inductive Step (t : FileTree) (followLast : Bool) :
    Nat → List Name → List Name → Nat → List Name → List Name → Prop where
  | here {links dir rest} :
    Step t followLast links dir (['.'] :: rest) links dir rest
  | up {links dir rest} :
    Step t followLast links dir (['.', '.'] :: rest) links dir.dropLast rest
  | directory {links dir n rest} :
    IsEntryName n →
    t.node? (dir ++ [n]) = some .directory →
    Step t followLast links dir (n :: rest) links (dir ++ [n]) rest
  | link {links dir n rest target} :
    IsEntryName n →
    t.node? (dir ++ [n]) = some (.link target) →
    (rest = [] → followLast = true) →
    target ≠ [] →
    Step t followLast (links + 1) dir (n :: rest)
      links (if Path.isAbsolute target then [] else dir) (Path.pieces target ++ rest)

/-- The place where a walk stops. -/
inductive Stops (t : FileTree) (followLast : Bool) : List Name → List Name → Place → Prop where
  | arrived {dir} :
    Stops t followLast dir [] (.taken dir .directory)
  | free {dir n} :
    IsEntryName n →
    t.node? (dir ++ [n]) = none →
    Stops t followLast dir [n] (.free (dir ++ [n]))
  | link {dir n target} :
    IsEntryName n →
    t.node? (dir ++ [n]) = some (.link target) →
    followLast = false →
    Stops t followLast dir [n] (.taken (dir ++ [n]) (.link target))
  | file {dir n node} :
    IsEntryName n →
    t.node? (dir ++ [n]) = some node →
    node ≠ .directory →
    (∀ target, node ≠ .link target) →
    Stops t followLast dir [n] (.taken (dir ++ [n]) node)

/-- Names lead from a directory to a place. -/
inductive Leads (t : FileTree) (followLast : Bool) : Nat → List Name → List Name → Place → Prop where
  | stop {links dir p place} :
    Stops t followLast dir p place →
    Leads t followLast links dir p place
  | step {links dir p links' dir' p' place} :
    Step t followLast links dir p links' dir' p' →
    Leads t followLast links' dir' p' place →
    Leads t followLast links dir p place

/-- Names lead from a directory to another one. -/
inductive Enters (t : FileTree) : Nat → List Name → List Name → Nat → List Name → Prop where
  | arrived {links dir} :
    Enters t links dir [] links dir
  | step {links dir p links' dir' p' fewer W} :
    Step t true links dir p links' dir' p' →
    Enters t links' dir' p' fewer W →
    Enters t links dir p fewer W

variable {t u : FileTree} {followLast : Bool} {links links' fewer : Nat}
variable {dir dir' p p' q W : List Name} {place : Place}

section Walks

/-- How a walk follows the next link when a number of links may be followed. -/
def follow (t : FileTree) (followLast : Bool) : Nat → Follow
  | 0 => fun _ _ => .error .tooManyLinks
  | links + 1 => walk t followLast links

lemma walk_eq (t followLast links) :
    walk t followLast links = walkWith t followLast (follow t followLast links) := by
  cases links <;> rfl

/-- A step does not change where a walk leads. -/
lemma Step.walk_eq (step : Step t followLast links dir p links' dir' p') :
    walk t followLast links dir p = walk t followLast links' dir' p' := by
  rw [FileTree.walk_eq]
  cases step with
  | here => rw [walkWith, if_pos rfl, ← FileTree.walk_eq]
  | up => rw [walkWith, if_neg (by decide), if_pos rfl, ← FileTree.walk_eq]
  | directory name found =>
    rw [walkWith, if_neg name.not_here, if_neg name.not_up, if_neg name.short]
    simp only [found]
    rw [← FileTree.walk_eq]
  | @link links dir n rest target name found goOn ne =>
    have passed : ¬ (rest.isEmpty && !followLast) = true := by
      intro last
      rw [Bool.and_eq_true, List.isEmpty_iff, Bool.not_eq_true'] at last
      rw [goOn last.1] at last
      cases last.2
    rw [walkWith, if_neg name.not_here, if_neg name.not_up, if_neg name.short]
    simp only [found, if_neg passed, List.isEmpty_eq_false_iff.2 ne, Bool.false_eq_true, if_false]
    rfl

lemma Stops.walk_eq (stops : Stops t followLast dir p place) (links) :
    walk t followLast links dir p = .ok place := by
  rw [FileTree.walk_eq]
  cases stops with
  | arrived => rw [walkWith]
  | free name free =>
    rw [walkWith, if_neg name.not_here, if_neg name.not_up, if_neg name.short]
    simp only [free, List.isEmpty_nil, if_true]
  | link name found last =>
    rw [walkWith, if_neg name.not_here, if_neg name.not_up, if_neg name.short]
    simp only [found, last, List.isEmpty_nil, Bool.not_false, Bool.and_self, if_true]
  | @file n node name found not_directory not_link =>
    rw [walkWith, if_neg name.not_here, if_neg name.not_up, if_neg name.short]
    cases node with
    | directory => exact absurd rfl not_directory
    | link target => exact absurd rfl (not_link target)
    | _ => simp only [found, List.isEmpty_nil, if_true]

/-- A walk that comes to a place takes steps there, if this holds of the walks behind its links. -/
lemma leads_of_walkWith {f : Follow}
    (followed : ∀ dir p, f dir p = .ok place →
      ∃ fewer, links = fewer + 1 ∧ Leads t followLast fewer dir p place)
    (w : walkWith t followLast f dir p = .ok place) : Leads t followLast links dir p place := by
  fun_induction walkWith t followLast f dir p with
  | case1 dir =>
    cases w
    exact .stop .arrived
  | case2 dir rest ih => exact .step .here (ih w)
  | case3 dir rest _ ih => exact .step .up (ih w)
  | case4 => cases w
  | case5 dir n rest not_here not_up short names free last =>
    cases w
    rw [List.isEmpty_iff.1 last]
    exact .stop (.free ⟨not_here, not_up, short⟩ free)
  | case6 => cases w
  | case7 dir n rest not_here not_up short names found ih =>
    exact .step (.directory ⟨not_here, not_up, short⟩ found) (ih w)
  | case8 dir n rest not_here not_up short names target found last =>
    cases w
    rw [Bool.and_eq_true, List.isEmpty_iff, Bool.not_eq_true'] at last
    rw [last.1]
    exact .stop (.link ⟨not_here, not_up, short⟩ found last.2)
  | case9 => cases w
  | case10 dir n rest not_here not_up short names target found goOn ne =>
    obtain ⟨fewer, rfl, leads⟩ := followed _ _ w
    rw [List.isEmpty_iff] at ne
    refine .step (.link ⟨not_here, not_up, short⟩ found ?_ ne) leads
    intro last
    subst last
    simpa using goOn
  | case11 dir n rest not_here not_up short names node not_directory not_link found last =>
    cases w
    rw [List.isEmpty_iff.1 last]
    exact .stop (.file ⟨not_here, not_up, short⟩ found not_directory not_link)
  | case12 => cases w

/-- A walk leads where its steps lead. -/
theorem walk_ok_iff :
    walk t followLast links dir p = .ok place ↔ Leads t followLast links dir p place := by
  constructor
  · intro w
    rw [walk_eq] at w
    induction links generalizing dir p with
    | zero =>
      apply leads_of_walkWith _ w
      intro dir p none
      cases none
    | succ links ih =>
      apply leads_of_walkWith _ w
      intro dir p w
      rw [follow, walk_eq] at w
      exact ⟨links, rfl, ih w⟩
  · intro leads
    induction leads with
    | stop stops => exact stops.walk_eq _
    | step step _ ih => exact step.walk_eq.trans ih

/-- A walk leads where it leads behind a step. -/
lemma Step.leads_iff (step : Step t followLast links dir p links' dir' p') :
    Leads t followLast links dir p place ↔ Leads t followLast links' dir' p' place := by
  rw [← walk_ok_iff, ← walk_ok_iff, step.walk_eq]

/-- Without a name to come a walk is where it leads. -/
lemma Leads.eq_of_nil (leads : Leads t followLast links dir [] place) : place = .taken dir .directory := by
  cases leads with
  | stop stops =>
    cases stops
    rfl
  | step step _ => cases step

/-- A name leads to itself when it is free. -/
lemma leads_free_iff {n} :
    Leads t false links dir [n] (.free W) ↔
      IsEntryName n ∧ t.node? (dir ++ [n]) = none ∧ W = dir ++ [n] := by
  constructor
  · intro leads
    cases leads with
    | stop stops =>
      cases stops with
      | free name free => exact ⟨name, free, rfl⟩
    | step step leads =>
      cases step with
      | here => cases leads.eq_of_nil
      | up => cases leads.eq_of_nil
      | directory => cases leads.eq_of_nil
      | link _ _ goOn _ => cases goOn rfl
  · intro ⟨name, free, same⟩
    rw [same]
    exact .stop (.free name free)

end Walks

section Trees

/-- What is no directory stands under the names of its place. -/
lemma Leads.node?_eq (leads : Leads t followLast links dir p place)
    (not_directory : place.node? ≠ some .directory) : t.node? place.names = place.node? := by
  induction leads with
  | stop stops =>
    cases stops with
    | arrived => exact absurd rfl not_directory
    | free _ free => exact free
    | link _ found => exact found
    | file _ found => exact found
  | step _ _ ih => exact ih not_directory

lemma Leads.free_eq (leads : Leads t followLast links dir p (.free W)) : t.node? W = none := by
  apply leads.node?_eq
  intro directory
  cases directory

/-- A walk that leads to no link leads there as well when a link at the end is followed. -/
lemma Leads.follow (leads : Leads t false links dir p place)
    (not_link : ∀ target, place.node? ≠ some (.link target)) : Leads t true links dir p place := by
  induction leads with
  | stop stops =>
    cases stops with
    | arrived => exact .stop .arrived
    | free name free => exact .stop (.free name free)
    | link => exact absurd rfl (not_link _)
    | file name found not_directory plain => exact .stop (.file name found not_directory plain)
  | step step _ ih =>
    apply Leads.step _ (ih not_link)
    cases step with
    | here => exact .here
    | up => exact .up
    | directory name found => exact .directory name found
    | link name found _ ne => exact .link name found (fun _ => rfl) ne

/-- A step is one that does not follow a link in the last place, unless it does. -/
lemma Step.unfollow (step : Step t true links dir p links' dir' p') :
    Step t false links dir p links' dir' p' ∨
      ∃ names target, Stops t false dir p (.taken names (.link target)) := by
  cases step with
  | here => exact .inl .here
  | up => exact .inl .up
  | directory name found => exact .inl (.directory name found)
  | @link _ _ _ rest target name found _ ne =>
    by_cases last : rest = []
    · subst last
      exact .inr ⟨_, target, .link name found rfl⟩
    · exact .inl (.link name found (fun none => absurd none last) ne)

/-- A walk leads to the same place whether a link at the end is followed or not, if there is none. -/
lemma Leads.unfollow (leads : Leads t true links dir p place) :
    Leads t false links dir p place ∨
      ∃ names target, Leads t false links dir p (.taken names (.link target)) := by
  induction leads with
  | stop stops =>
    cases stops with
    | arrived => exact .inl (.stop .arrived)
    | free name free => exact .inl (.stop (.free name free))
    | link _ _ last => cases last
    | file name found not_directory plain => exact .inl (.stop (.file name found not_directory plain))
  | step step _ ih =>
    rcases step.unfollow with step | ⟨names, target, stops⟩
    · rcases ih with leads | ⟨names, target, leads⟩
      · exact .inl (.step step leads)
      · exact .inr ⟨names, target, .step step leads⟩
    · exact .inr ⟨names, target, .stop stops⟩

/-- A step can be taken in a tree that has the same entries and more. -/
lemma Step.extend (step : Step t followLast links dir p links' dir' p')
    (extended : ∀ names node, t.node? names = some node → u.node? names = some node) :
    Step u followLast links dir p links' dir' p' := by
  cases step with
  | here => exact .here
  | up => exact .up
  | directory name found => exact .directory name (extended _ _ found)
  | link name found goOn ne => exact .link name (extended _ _ found) goOn ne

/-- In a tree that has the same entries and more, a walk leads to the same place, where a free name may
have become a directory. -/
lemma Leads.extend (leads : Leads t followLast links dir p place)
    (extended : ∀ names node, t.node? names = some node → u.node? names = some node)
    (made : ∀ names, place = .free names → u.node? names = some .directory) :
    Leads u followLast links dir p (.taken place.names (place.node?.getD .directory)) := by
  induction leads with
  | stop stops =>
    cases stops with
    | arrived => exact .stop .arrived
    | free name _ => exact .step (.directory name (made _ rfl)) (.stop .arrived)
    | link name found last => exact .stop (.link name (extended _ _ found) last)
    | file name found not_directory plain =>
      exact .stop (.file name (extended _ _ found) not_directory plain)
  | step step _ ih => exact .step (step.extend extended) (ih made)

/-- A walk that leads to a free name leads to the file that is put there. -/
lemma Leads.fill {names content executable} (leads : Leads t followLast links dir p (.free names))
    (extended : ∀ names node, t.node? names = some node → u.node? names = some node)
    (put : u.node? names = some (.file content executable)) :
    Leads u followLast links dir p (.taken names (.file content executable)) := by
  generalize e : Place.free names = place at leads
  induction leads with
  | stop stops =>
    cases stops with
    | free name _ =>
      cases e
      exact .stop (.file name put nofun nofun)
    | _ => cases e
  | step step _ ih => exact .step (step.extend extended) (ih e)

end Trees

section Directories

/-- More names may come behind those of a step. -/
lemma Step.append (step : Step t true links dir p links' dir' p') (more : q ≠ []) :
    Step t followLast links dir (p ++ q) links' dir' (p' ++ q) := by
  cases step with
  | here => exact .here
  | up => exact .up
  | directory name found => exact .directory name found
  | link name found _ ne =>
    rw [List.append_assoc]
    apply Step.link name found _ ne
    intro none
    exact absurd (List.append_eq_nil_iff.1 none).2 more

lemma Step.split {n r} (step : Step t followLast links dir (n :: (p ++ q)) links' dir' r) :
    ∃ p', r = p' ++ q ∧ Step t true links dir (n :: p) links' dir' p' := by
  cases step with
  | here => exact ⟨p, rfl, .here⟩
  | up => exact ⟨p, rfl, .up⟩
  | directory name found => exact ⟨p, rfl, .directory name found⟩
  | @link links _ _ _ target name found goOn ne =>
    refine ⟨Path.pieces target ++ p, (List.append_assoc _ _ _).symm, ?_⟩
    exact .link name found (fun _ => rfl) ne

/-- A walk stops before the last name at the earliest. -/
lemma Stops.not_append {n} (stops : Stops t followLast dir (n :: (p ++ q)) place) : q = [] := by
  generalize e : p ++ q = rest at stops
  cases stops <;> exact (List.append_eq_nil_iff.1 e).2

/-- A directory is entered where a walk leads to it. -/
lemma enters_iff :
    (∃ fewer, Enters t links dir p fewer W) ↔ Leads t true links dir p (.taken W .directory) := by
  constructor
  · intro ⟨fewer, enters⟩
    induction enters with
    | arrived => exact .stop .arrived
    | step step _ ih => exact .step step ih
  · intro leads
    generalize e : Place.taken W .directory = place at leads
    induction leads with
    | @stop links dir p place stops =>
      cases stops with
      | arrived =>
        cases e
        exact ⟨links, .arrived⟩
      | free => cases e
      | link => cases e
      | file _ _ not_directory =>
        cases e
        exact absurd rfl not_directory
    | step step _ ih =>
      obtain ⟨fewer, enters⟩ := ih e
      exact ⟨fewer, .step step enters⟩

/-- A walk that has more names to come leads to a directory, and goes on from there. -/
theorem leads_append_iff (more : q ≠ []) :
    Leads t followLast links dir (p ++ q) place ↔
      ∃ fewer W, Enters t links dir p fewer W ∧ Leads t followLast fewer W q place := by
  constructor
  · intro leads
    generalize e : p ++ q = names at leads
    induction leads generalizing p with
    | @stop links dir names place stops =>
      cases p with
      | nil =>
        subst e
        exact ⟨links, dir, .arrived, .stop stops⟩
      | cons n p =>
        subst e
        exact absurd stops.not_append more
    | @step links dir names links' dir' names' place step leads ih =>
      cases p with
      | nil =>
        subst e
        exact ⟨links, dir, .arrived, .step step leads⟩
      | cons n p =>
        subst e
        obtain ⟨p', rfl, first⟩ := step.split
        obtain ⟨fewer, W, enters, goOn⟩ := ih rfl
        exact ⟨fewer, W, .step first enters, goOn⟩
  · intro ⟨fewer, W, enters, leads⟩
    induction enters with
    | arrived => exact leads
    | step step _ ih => exact .step (step.append more) (ih leads)

end Directories

section Confined

variable {below : List Name}

/-- Names that never climb above a directory and come upon a link in the last place only. -/
def StaysBelow (t : FileTree) (W : List Name) : List Name → List Name → Prop
  | _, [] => True
  | below, n :: rest =>
    if n = ['.'] then StaysBelow t W below rest
    else if n = ['.', '.'] then below ≠ [] ∧ StaysBelow t W below.dropLast rest
    else (∀ target, t.node? (W ++ below ++ [n]) = some (.link target) → rest = []) ∧
      StaysBelow t W (below ++ [n]) rest

lemma staysBelow_name {n rest} (name : IsEntryName n) :
    StaysBelow t W below (n :: rest) ↔
      (∀ target, t.node? (W ++ below ++ [n]) = some (.link target) → rest = []) ∧
        StaysBelow t W (below ++ [n]) rest := by
  rw [StaysBelow, if_neg name.not_here, if_neg name.not_up]

/-- Names that stay below a directory stay there when links are removed. -/
lemma StaysBelow.of_fewer_links
    (fewer : ∀ names target, u.node? names = some (.link target) → t.node? names = some (.link target))
    (inside : StaysBelow t W below p) : StaysBelow u W below p := by
  induction p generalizing below with
  | nil => trivial
  | cons n rest ih =>
    rw [StaysBelow] at inside ⊢
    split
    · rename_i here
      rw [if_pos here] at inside
      exact ih inside
    · rename_i not_here
      rw [if_neg not_here] at inside
      split
      · rename_i up
        rw [if_pos up] at inside
        exact ⟨inside.1, ih inside.2⟩
      · rename_i not_up
        rw [if_neg not_up] at inside
        exact ⟨fun target found => inside.1 target (fewer _ target found), ih inside.2⟩

/-- A step stays in the directory. -/
lemma Step.stays (step : Step t false links (W ++ below) p links' dir' p')
    (inside : StaysBelow t W below p) : ∃ below', dir' = W ++ below' ∧ StaysBelow t W below' p' := by
  generalize e : W ++ below = dir at step
  cases step with
  | here =>
    rw [StaysBelow, if_pos rfl] at inside
    exact ⟨below, e.symm, inside⟩
  | up =>
    rw [StaysBelow, if_neg (by decide), if_pos rfl] at inside
    obtain ⟨ne, inside⟩ := inside
    refine ⟨below.dropLast, ?_, inside⟩
    rw [← e, List.dropLast_append_of_ne_nil ne]
  | directory name found =>
    rw [staysBelow_name name] at inside
    refine ⟨_, ?_, inside.2⟩
    rw [← e, List.append_assoc]
  | link name found goOn _ =>
    rw [staysBelow_name name, e] at inside
    cases goOn (inside.1 _ found)

/-- Names that stay below a directory lead to a directory, or to a place below it. -/
lemma Leads.stays (leads : Leads t false links (W ++ below) p place)
    (inside : StaysBelow t W below p) :
    place.node? = some .directory ∨ IsBelow W place.names := by
  generalize e : W ++ below = dir at leads
  induction leads generalizing below with
  | stop stops =>
    subst e
    cases stops with
    | arrived => exact .inl rfl
    | free => exact .inr (isBelow_append below _)
    | link => exact .inr (isBelow_append below _)
    | file => exact .inr (isBelow_append below _)
  | step step _ ih =>
    subst e
    obtain ⟨below', same, inside'⟩ := step.stays inside
    exact ih inside' same.symm

/-- Names without double points stay below a directory in which there are no links. -/
lemma staysBelow_of_no_links (below) (not_up : ['.', '.'] ∉ p)
    (no_link : ∀ names target, IsBelow W names → t.node? names ≠ some (.link target)) :
    StaysBelow t W below p := by
  induction p generalizing below with
  | nil => trivial
  | cons n rest ih =>
    rw [List.mem_cons, not_or] at not_up
    rw [StaysBelow, if_neg (Ne.symm not_up.1)]
    split
    · exact ih below not_up.2
    · refine ⟨?_, ih _ not_up.2⟩
      intro target found
      exact absurd found (no_link _ target (isBelow_append below n))

end Confined

end FileTree

end Transcript
