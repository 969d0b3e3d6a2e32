import Mathlib.Tactic.Common
import Transcript.Proofs.FileTree.Directories
import Transcript.Proofs.Run.Isolation

/-!
# Fresh scratch directories

When the programs under test touch only what is below the directory that they are started in, a script
leaves every directory where it is, whatever its own instructions write and remove
(`Scene.execute_keepsDirectories`). The directory for all scratch directories is then the same for every
script, the scratch directories that were kept stand there, and each new one is made beside them
(`runText_fresh`).
-/

namespace Transcript

open FileTree (IsBelow IsPath KeepsDirectories nameLimit byteLength)
open Path (Name)
open Scratch (IsNew IsFirst)

/-- A program that touches only what is below the directory that it is started in, and nothing when there
is no such directory. -/
def Behaviour.StaysHome (b : Behaviour) : Prop :=
  ∀ inv t names, (∀ W, t.find inv.directory = .ok (W, .directory) → ¬ IsBelow W names) →
    (b inv t).2.node? names = t.node? names

namespace Scene

variable {scene : Scene} {t : FileTree} {s : Session} {W : List Name}

lemma delete_keepsDirectories (name) : KeepsDirectories W t (scene.delete name t) := by
  rw [delete]
  cases removed : t.removeFile (scene.workPath name) with
  | error f => exact .refl W t
  | ok u => exact .removeFile W removed

lemma copyReference_keepsDirectories (dest src) :
    KeepsDirectories W s.tree (scene.copyReference dest src s).2.tree := by
  have removed := scene.delete_keepsDirectories (t := s.tree) (W := W) dest
  rw [copyReference]
  split
  · rename_i t copied
    exact removed.trans (.copy W copied)
  · exact removed

/-- An instruction leaves all directories but for those below the scratch directory where they are. -/
lemma apply_keepsDirectories (new : IsNew t scene.work W) (home : scene.behaviour.StaysHome) (i)
    (keeps : KeepsDirectories W (t.put W .directory) s.tree) :
    KeepsDirectories W (t.put W .directory) (scene.apply s i).2.tree := by
  cases i with
  | comment => exact keeps
  | setTimeout secs => exact keeps
  | copyFile dest src => exact keeps.trans (copyReference_keepsDirectories dest src)
  | deleteFile name => exact keeps.trans (delete_keepsDirectories name)
  | runAndCheck command expected mode =>
    rw [apply, runAndCheck_tree]
    apply keeps.trans
    apply KeepsDirectories.of_node?_eq
    intro names apart
    apply home
    -- the path of the scratch directory leads to no other one, even if files or links have gone
    intro V there
    rw [keeps.find_made new.node?_eq new.free there]
    exact apart
  | checkContent name reference => exact keeps
  | checkAbsent name => exact keeps
  | checkExists name => exact keeps
  | define name raw =>
    rw [apply]
    split <;> exact keeps

lemma execute_keepsDirectories (new : IsNew t scene.work W) (home : scene.behaviour.StaysHome) (text) :
    KeepsDirectories W (t.put W .directory)
      (scene.execute text (scene.start (t.put W .directory))).2.tree := by
  apply execute_invariant (P := fun s => KeepsDirectories W (t.put W .directory) s.tree) (.refl W _)
  intro _ _ s i _ _ keeps
  exact apply_keepsDirectories new home i keeps

end Scene

/-- A call for the text of a script to be run. -/
structure Call where
  behaviour : Behaviour
  config : Configuration
  name : List Char
  text : List Char

namespace Call

def run (here : List Char) (c : Call) (t : FileTree) : Run :=
  runText c.behaviour here c.config c.name c.text t

/-- Calls one after the other, each with the tree that it is made in. -/
def turns (here : List Char) : List Call → FileTree → List (FileTree × Call)
  | [], _ => []
  | c :: calls, t => (t, c) :: turns here calls (c.run here t).tree

/-- The tree after calls one after the other. -/
def after (here : List Char) (calls : List Call) (t : FileTree) : FileTree :=
  calls.foldl (fun t c => (c.run here t).tree) t

/-- A call that is to keep its scratch directory in a directory for all of them, for a program that touches
only what is below its own. -/
structure IsKept (root : List Char) (c : Call) : Prop where
  keep : c.config.keep = true
  root_eq : c.config.workRoot = root
  single : '/' ∉ c.name
  home : c.behaviour.StaysHome

/-- A call is given a directory that was not there, and keeps it. -/
structure Keeps (here : List Char) (turn : FileTree × Call) (work : List Char) (W : List Name) : Prop where
  kept : (turn.2.run here turn.1).kept = some work
  new : IsNew turn.1 work W

variable {here root work work' : List Char} {c : Call} {calls : List Call} {t u : FileTree}
variable {R W W' : List Name} {m n : Name} {turn : FileTree × Call}

/-- What a call comes to that is to keep its scratch directory. -/
lemma IsKept.run_cases (kept : c.IsKept root) (here t) :
    (c.run here t = ⟨.faulty 0 (.noScratch c.name), none, t⟩ ∧
      Scratch.create t (Path.join here root) c.name = .error (.noScratch c.name)) ∨
    ∃ k W, IsFirst t (Path.join here root) c.name 0 Scratch.maxAttempts k W ∧
      (c.run here t).kept = some (Scratch.path (Path.join here root) c.name k) ∧
      KeepsDirectories W (t.put W .directory) (c.run here t).tree := by
  obtain ⟨keep, rfl, -, home⟩ := kept
  cases made : Scratch.create t (Path.join here c.config.workRoot) c.name with
  | error f =>
    cases (Scratch.create_error_iff.1 made).2
    exact .inl ⟨runText_of_error made c.text, rfl⟩
  | ok pair =>
    obtain ⟨work, t₁⟩ := pair
    obtain ⟨k, W, least, rfl, rfl⟩ := Scratch.create_ok_iff.1 made
    let work := Scratch.path (Path.join here c.config.workRoot) c.name k
    let scene : Scene := ⟨c.config, c.behaviour, here, work⟩
    have ran : c.run here t = _ := @runText_of_create scene _ _ _ made c.text
    have keeps := scene.execute_keepsDirectories least.new home c.text
    rw [ran]
    refine .inr ⟨k, W, least, if_pos keep, ?_⟩
    show KeepsDirectories W _ (Scratch.finish _ _ c.config.keep)
    rw [keep]
    exact keeps

/-- The directory for all scratch directories is where it was, if there still is one, and `W` is a
directory. -/
structure Standing (dir : List Char) (R W : List Name) (t : FileTree) : Prop where
  led : ∀ V, t.find dir = .ok (V, .directory) → V = R
  there : t.node? W = some .directory

lemma not_prefix_sibling (other : m ≠ n) : ¬ R ++ [m] <+: R ++ [n] := by
  intro above
  have same := above.eq_of_length (by simp)
  rw [List.append_cancel_left_eq, List.singleton_inj] at same
  exact other same

lemma mem_of_mem_turns (mem : turn ∈ turns here calls t) : turn.2 ∈ calls := by
  induction calls generalizing t with
  | nil => cases mem
  | cons c calls ih =>
    rcases List.mem_cons.1 mem with rfl | mem
    · exact List.mem_cons_self
    · exact List.mem_cons_of_mem _ (ih mem)

section Steps

variable (ne : here ≠ [])

include ne

/-- A directory that a call keeps stands in the directory for all of them, under a name that was free. -/
lemma IsKept.standing_of_keeps (kept : c.IsKept root) (keeps : Keeps here (t, c) work W) :
    ∃ R n, W = R ++ [n] ∧ t.find (Path.join here root) = .ok (R, .directory) ∧
      Path.pieces work = Path.pieces (Path.join here root) ++ [n] ∧
      Standing (Path.join here root) R W (c.run here t).tree := by
  rcases kept.run_cases here t with ⟨refused, -⟩ | ⟨k, V, least, told, others⟩
  · have none := keeps.kept
    rw [refused] at none
    cases none
  · cases told.symm.trans keeps.kept
    cases least.new.free.symm.trans keeps.new.free
    obtain ⟨R, found, rfl, free, _⟩ :=
      (Scratch.isNew_iff (Path.join_ne_nil ne root) kept.single).1 keeps.new
    refine ⟨R, _, rfl, found, Scratch.pieces_path kept.single k, ?_, ?_⟩
    · intro V there
      exact others.find_eq free found there
    · apply (others.directory_iff _ fun below => below.2 rfl).2
      exact FileTree.node?_put_self (by simp)

/-- What stands beside the scratch directory of a call stands there after the call. -/
lemma IsKept.standing (kept : c.IsKept root)
    (standing : Standing (Path.join here root) R (R ++ [m]) t) :
    Standing (Path.join here root) R (R ++ [m]) (c.run here t).tree := by
  rcases kept.run_cases here t with ⟨refused, -⟩ | ⟨k, V, least, -, others⟩
  · rw [refused]
    exact standing
  · obtain ⟨R', found, rfl, free, _⟩ :=
      (Scratch.isNew_iff (Path.join_ne_nil ne root) kept.single).1 least.new
    cases standing.led R' found
    have other : Scratch.entry c.name k ≠ m := by
      rintro rfl
      cases free.symm.trans standing.there
    have apart := not_prefix_sibling (R := R) other
    constructor
    · intro V there
      exact others.find_eq free found there
    · apply (others.directory_iff _ fun below => apart below.1).2
      rw [FileTree.node?_put_of_ne, standing.there]
      simpa using other.symm

lemma standing_after (kept : ∀ c ∈ calls, c.IsKept root)
    (standing : Standing (Path.join here root) R (R ++ [m]) t) :
    (∀ turn ∈ turns here calls t, Standing (Path.join here root) R (R ++ [m]) turn.1) ∧
      Standing (Path.join here root) R (R ++ [m]) (after here calls t) := by
  induction calls generalizing t with
  | nil => exact ⟨nofun, standing⟩
  | cons c calls ih =>
    have first := (kept c List.mem_cons_self).standing ne standing
    obtain ⟨each, last⟩ := ih (fun c mem => kept c (List.mem_cons_of_mem _ mem)) first
    refine ⟨?_, last⟩
    intro turn mem
    rcases List.mem_cons.1 mem with rfl | mem
    · exact standing
    · exact each turn mem

/-- A directory that a call keeps lies beside those that stand already. -/
lemma Standing.apart (standing : Standing (Path.join here root) R (R ++ [m]) t) (kept : c.IsKept root)
    (keeps : Keeps here (t, c) work' W') :
    ∃ n, n ≠ m ∧ W' = R ++ [n] ∧ Path.pieces work' = Path.pieces (Path.join here root) ++ [n] := by
  obtain ⟨R', n, rfl, found, pieces, _⟩ := kept.standing_of_keeps ne keeps
  cases standing.led R' found
  refine ⟨n, ?_, rfl, pieces⟩
  rintro rfl
  cases keeps.new.node?_eq.symm.trans standing.there

/-- Calls one after the other keep directories that lie apart and stand in the end. -/
lemma turns_apart (kept : ∀ c ∈ calls, c.IsKept root) (t) :
    (∀ turn ∈ turns here calls t, ∀ work W, Keeps here turn work W →
      (after here calls t).node? W = some .directory) ∧
    (turns here calls t).Pairwise fun turn turn' => ∀ work W work' W',
      Keeps here turn work W → Keeps here turn' work' W' →
        work ≠ work' ∧ ¬ W <+: W' ∧ ¬ W' <+: W := by
  induction calls generalizing t with
  | nil => exact ⟨nofun, .nil⟩
  | cons c calls ih =>
    have others : ∀ c ∈ calls, c.IsKept root := fun c mem => kept c (List.mem_cons_of_mem _ mem)
    obtain ⟨each, pairs⟩ := ih others (c.run here t).tree
    constructor
    · intro turn mem
      rcases List.mem_cons.1 mem with rfl | mem
      · intro work W keeps
        obtain ⟨R, m, rfl, _, _, standing⟩ := (kept c List.mem_cons_self).standing_of_keeps ne keeps
        exact (standing_after ne others standing).2.there
      · exact each turn mem
    · refine List.pairwise_cons.2 ⟨?_, pairs⟩
      intro turn mem work W work' W' keeps keeps'
      obtain ⟨R, m, rfl, _, pieces, standing⟩ := (kept c List.mem_cons_self).standing_of_keeps ne keeps
      -- the first directory stands whenever a later call is given one
      have before := (standing_after ne others standing).1 turn mem
      have called := others turn.2 (mem_of_mem_turns mem)
      obtain ⟨n, other, rfl, pieces'⟩ := before.apart ne called keeps'
      refine ⟨?_, not_prefix_sibling other.symm, not_prefix_sibling other⟩
      rintro rfl
      rw [pieces, List.append_cancel_left_eq, List.singleton_inj] at pieces'
      exact other pieces'.symm

end Steps

/-- The directory that a call keeps is the one that was made for it. -/
lemma IsKept.kept_iff (kept : c.IsKept root) (here t work) :
    (c.run here t).kept = some work ↔
      ∃ t₁, Scratch.create t (Path.join here root) c.name = .ok (work, t₁) := by
  rcases kept.run_cases here t with ⟨refused, failed⟩ | ⟨k, W, least, told, -⟩
  · rw [refused, failed]
    simp
  · have made := Scratch.create_ok_iff.2 ⟨k, W, least, rfl, rfl⟩
    rw [told, made]
    simp

end Call

/-- A script gets the first of a hundred numbered directories whose path leads to a free name, made there
empty while nothing else changes, and it is not begun when there is none. So calls that keep their
directories, for programs that touch only what is below their own, are each given a directory that was not
there; all of these stand in the end, and none of them is another one or lies inside it. -/
theorem runText_fresh {here : List Char} (absolute : Path.isAbsolute here = true) (root : List Char) :
    let dir := Path.join here root
    (∀ t name, '/' ∉ name →
      (∀ n W, IsNew t (Scratch.path dir name n) W ↔
        ∃ R, t.find dir = .ok (R, .directory) ∧ W = R ++ [Scratch.entry name n] ∧ t.node? W = none ∧
          IsPath (Scratch.path dir name n) ∧ ¬ nameLimit < byteLength (Scratch.entry name n)) ∧
      (∀ work t₁, Scratch.create t dir name = .ok (work, t₁) ↔
        ∃ n W, IsFirst t dir name 0 Scratch.maxAttempts n W ∧ work = Scratch.path dir name n ∧
          t₁ = t.put W .directory) ∧
      (∀ n W, IsFirst t dir name 0 Scratch.maxAttempts n W →
        (t.put W .directory).find (Scratch.path dir name n) = .ok (W, .directory) ∧
        (t.IsTree → (t.put W .directory).namesIn W = []) ∧
        ∀ names, names ≠ W → (t.put W .directory).node? names = t.node? names) ∧
      ((∀ n W, n < Scratch.maxAttempts → ¬ IsNew t (Scratch.path dir name n) W) →
        Scratch.create t dir name = .error (.noScratch name) ∧
        ∀ c : Call, c.config.workRoot = root → c.name = name →
          c.run here t = ⟨.faulty 0 (.noScratch name), none, t⟩)) ∧
    ∀ calls t, (∀ c ∈ calls, Call.IsKept root c) →
      (∀ turn ∈ Call.turns here calls t, ∀ work,
        ((turn.2.run here turn.1).kept = some work ↔
          ∃ t₁, Scratch.create turn.1 dir turn.2.name = .ok (work, t₁)) ∧
        ((turn.2.run here turn.1).kept = some work → ∃ W, IsNew turn.1 work W ∧ turn.1.node? W = none ∧
          (Call.after here calls t).node? W = some .directory)) ∧
      (Call.turns here calls t).Pairwise fun turn turn' => ∀ work W work' W',
        Call.Keeps here turn work W → Call.Keeps here turn' work' W' →
          work ≠ work' ∧ ¬ W <+: W' ∧ ¬ W' <+: W := by
  intro dir
  have ne : here ≠ [] := by
    rintro rfl
    cases absolute
  constructor
  · intro t name single
    refine ⟨fun n W => Scratch.isNew_iff (Path.join_ne_nil ne root) single,
      fun work t₁ => Scratch.create_ok_iff, ?_, ?_⟩
    · intro n W least
      refine ⟨least.new.find_eq, ?_, fun names other => FileTree.node?_put_of_ne other⟩
      exact fun tree => tree.namesIn_put least.new.ne_nil least.new.node?_eq
    · intro taken
      have failed := Scratch.create_error_iff.2 ⟨taken, rfl⟩
      refine ⟨failed, ?_⟩
      rintro c rfl rfl
      exact runText_of_error failed c.text
  · intro calls t kept
    obtain ⟨each, pairs⟩ := Call.turns_apart ne kept t
    refine ⟨?_, pairs⟩
    intro turn mem work
    have told := (kept turn.2 (Call.mem_of_mem_turns mem)).kept_iff here turn.1 work
    refine ⟨told, ?_⟩
    intro keeps
    obtain ⟨t₁, made⟩ := told.1 keeps
    obtain ⟨W, new, -⟩ := Scratch.create_ok made
    exact ⟨W, new, new.node?_eq, each turn mem work W ⟨keeps, new⟩⟩

lemma leaving_staysHome : leaving.StaysHome := by
  intro inv t names apart
  rw [leaving]
  split
  · rename_i W found
    apply FileTree.node?_put_of_ne
    rintro rfl
    apply apart W found
    have below := FileTree.isBelow_append (W := W) [] ['o']
    rwa [List.append_nil] at below
  · rfl

/-- A name may be another one with a number behind it. -/
theorem runText_fresh_numbered :
    let config := { Scene.echo.config with keep := true }
    let call := fun name => Call.mk leaving config name "> x\n<<<\n".toList
    let calls := [call ['t'], call "t_0".toList, call ['t']]
    (Call.turns ['/'] calls {}).map (fun turn => (turn.2.run ['/'] turn.1).kept) =
      [some "/t_0".toList, some "/t_0_0".toList, some "/t_1".toList] ∧
    (Call.turns ['/'] calls {}).Pairwise fun turn turn' => ∀ work W work' W',
      Call.Keeps ['/'] turn work W → Call.Keeps ['/'] turn' work' W' →
        work ≠ work' ∧ ¬ W <+: W' ∧ ¬ W' <+: W := by
  intro config call calls
  have kept : ∀ name, '/' ∉ name → (call name).IsKept [] := by
    intro name single
    exact ⟨rfl, rfl, single, leaving_staysHome⟩
  have fresh := @runText_fresh ['/'] (by decide) []
  refine ⟨by decide +kernel, (fresh.2 calls {} ?_).2⟩
  intro c mem
  simp only [calls, List.mem_cons, List.not_mem_nil, or_false] at mem
  rcases mem with rfl | rfl | rfl
  · exact kept _ (by decide)
  · exact kept _ (by decide)
  · exact kept _ (by decide)

end Transcript
