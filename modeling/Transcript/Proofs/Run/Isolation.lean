import Mathlib.Tactic.Common
import Transcript.Proofs.Run.Confinement
import Transcript.Proofs.Run.Validation
import Transcript.Suite.Execution

/-!
# Runs leave no trace

When the program under test changes only what is below its directory, and a script's own instructions
name files in its scratch directory only, a run changes nothing but its scratch directory, whatever it
ends in. Without that directory the tree is the one before, so scripts can be run in any order
(`runText_isolated`).
-/

namespace Transcript

open FileTree (ChangesBelow)
open Path (Name IsInner)
open Script (IsLiteral Reader)

/-- A program that changes only what is below the directory that it is started in, and makes no links. -/
def Behaviour.IsConfined (b : Behaviour) : Prop :=
  ∀ inv t W, t.find inv.directory = .ok (W, .directory) → ChangesBelow W t (b inv t).2

namespace Scene

variable {scene : Scene} {t : FileTree} {s : Session} {i : Instruction} {W : List Name}

/-- Every file that a run's own instructions write or remove has a relative path that never names the
directory above. -/
def WritesInner (scene : Scene) (text : List Char) (t : FileTree) : Prop :=
  ∀ past r s i written, scene.Reaches (.ofText text) (scene.start t) past r s →
    (s.read r).result = .ok (some i) → i.written? = some written → IsInner written

section Steps

lemma checkOutput_tree (expected mode output s) :
    (checkOutput expected mode output s).2.tree = s.tree := by
  unfold checkOutput
  split <;> rfl

lemma runAndCheck_tree (command expected mode s) :
    (scene.runAndCheck command expected mode s).2.tree =
      (scene.behaviour (scene.invocation command s) s.tree).2 := by
  rw [runAndCheck]
  rcases scene.behaviour (scene.invocation command s) s.tree with ⟨outcome, t⟩
  rcases outcome with mishap | output | code | number | _
  · rfl
  · exact checkOutput_tree expected mode output _
  · rfl
  · rfl
  · rfl

/-- An instruction changes what is below the scratch directory only, whether it halts the script or not. -/
lemma apply_keeps (new : Scratch.IsNew t scene.work W) (tree : t.IsTree)
    (confined : scene.behaviour.IsConfined)
    (inner : ∀ written, i.written? = some written → IsInner written)
    (changed : ChangesBelow W (t.put W .directory) s.tree) :
    ChangesBelow W (t.put W .directory) (scene.apply s i).2.tree := by
  cases i with
  | comment => exact changed
  | setTimeout secs => exact changed
  | copyFile dest src =>
    have inside := new.isInside tree changed (inner dest rfl)
    exact changed.trans (copyReference_changesBelow new.bare inside)
  | deleteFile name =>
    have inside := new.isInside tree changed (inner name rfl)
    exact changed.trans (delete_changesBelow new.bare inside)
  | runAndCheck command expected mode =>
    have there := FileTree.find_ok_iff.2 (new.locate_eq tree changed true)
    rw [apply, runAndCheck_tree]
    exact changed.trans (confined (scene.invocation command s) s.tree W there)
  | checkContent name reference => exact changed
  | checkAbsent name => exact changed
  | checkExists name => exact changed
  | define name raw =>
    rw [apply]
    split <;> exact changed

/-- A run, whatever it ends in, changes what is below the scratch directory only. -/
lemma execute_keeps {text} (new : Scratch.IsNew t scene.work W) (tree : t.IsTree)
    (confined : scene.behaviour.IsConfined) (inner : scene.WritesInner text (t.put W .directory)) :
    ChangesBelow W (t.put W .directory)
      (scene.execute text (scene.start (t.put W .directory))).2.tree := by
  apply execute_invariant (P := fun s => ChangesBelow W (t.put W .directory) s.tree) (.refl W _)
  intro past r s i reached e changed
  exact apply_keeps new tree confined (fun written => inner past r s i written reached e) changed

end Steps

section Whole

/-- A run keeps the tree but for its scratch directory, which goes as well unless it is to be kept. -/
lemma runText_keeps {t₁ name text} (tree : t.IsTree) (confined : scene.behaviour.IsConfined)
    (made : Scratch.create t (Path.join scene.here scene.config.workRoot) name = .ok (scene.work, t₁))
    (inner : scene.WritesInner text t₁) :
    let run := runText scene.behaviour scene.here scene.config name text t
    (scene.config.keep = false → run.tree = t ∧ run.kept = none) ∧
    (scene.config.keep = true → run.kept = some scene.work ∧
      ∃ W, t.node? W = none ∧ run.tree.find scene.work = .ok (W, .directory) ∧
        run.tree.eraseBelow W = t) := by
  intro run
  obtain ⟨W, new, rfl⟩ := Scratch.create_ok made
  have keeps := execute_keeps new tree confined inner
  have ran : run = _ := runText_of_create made text
  rw [ran]
  constructor
  · intro keep
    rw [keep]
    exact ⟨new.finish_eq tree keeps, rfl⟩
  · intro keep
    rw [keep]
    refine ⟨rfl, W, new.node?_eq, ?_, new.eraseBelow_eq tree keeps⟩
    exact FileTree.find_ok_iff.2 (new.locate_eq tree keeps true)

/-- What a script without references writes can be told from its text. -/
lemma writesInner_of_literal {text is} (literal : IsLiteral false (Text.lines text))
    (all : (Reader.ofText text).all .ok = .ok is)
    (inner : ∀ i ∈ is, ∀ written, i.written? = some written → IsInner written) (t) :
    scene.WritesInner text t := by
  intro past r s i written reached e writes
  obtain ⟨left, before⟩ := reached.all_eq literal
  rw [read_literal s left] at e
  rw [before, Reader.all_goOn e] at all
  cases rest : (r.next (.ofFunction .ok) ()).reader.all .ok with
  | error m =>
    rw [rest] at all
    cases all
  | ok behind =>
    rw [rest] at all
    cases all
    apply inner i _ written writes
    exact List.mem_append_right _ List.mem_cons_self

end Whole

end Scene

section Runs

variable {behaviour : Behaviour} {here : List Char} {config : Configuration} {t : FileTree}

/-- The instructions of a script that is run in a scratch directory of its own write and remove files
there only. -/
def WritesInner (behaviour : Behaviour) (here : List Char) (config : Configuration)
    (name text : List Char) (t : FileTree) : Prop :=
  ∀ work t₁, Scratch.create t (Path.join here config.workRoot) name = .ok (work, t₁) →
    Scene.WritesInner { config, behaviour, here, work } text t₁

/-- A run that keeps nothing leaves the tree as it was. -/
lemma runText_gone {name text} (tree : t.IsTree) (confined : behaviour.IsConfined)
    (inner : WritesInner behaviour here config name text t) (keep : config.keep = false) :
    let run := runText behaviour here config name text t
    run.tree = t ∧ run.kept = none := by
  cases made : Scratch.create t (Path.join here config.workRoot) name with
  | error f =>
    rw [runText_of_error made]
    exact ⟨rfl, rfl⟩
  | ok pair =>
    obtain ⟨work, t₁⟩ := pair
    let scene : Scene := { config, behaviour, here, work }
    exact (scene.runText_keeps tree confined made (inner work t₁ made)).1 keep

/-- A run that keeps its scratch directory says so if it got one, and has changed nothing else. -/
lemma runText_kept {name text} (tree : t.IsTree) (confined : behaviour.IsConfined)
    (inner : WritesInner behaviour here config name text t) (keep : config.keep = true) :
    let run := runText behaviour here config name text t
    (∀ work, run.kept = some work ↔
      ∃ t₁, Scratch.create t (Path.join here config.workRoot) name = .ok (work, t₁)) ∧
    (run.kept = none → run.tree = t) ∧
    ∀ work, run.kept = some work → ∃ W, t.node? W = none ∧
      run.tree.find work = .ok (W, .directory) ∧ run.tree.eraseBelow W = t := by
  intro run
  cases made : Scratch.create t (Path.join here config.workRoot) name with
  | error f =>
    have ran : run = ⟨.faulty 0 (.noScratch name), none, t⟩ := runText_of_error made text
    rw [ran]
    refine ⟨fun work => ⟨?_, ?_⟩, fun _ => rfl, ?_⟩
    · intro kept
      cases kept
    · intro created
      obtain ⟨t₁, e⟩ := created
      cases e
    · intro work kept
      cases kept
  | ok pair =>
    obtain ⟨work, t₁⟩ := pair
    let scene : Scene := { config, behaviour, here, work }
    obtain ⟨told, W, free, found, others⟩ :=
      (scene.runText_keeps tree confined made (inner work t₁ made)).2 keep
    have same : run.kept = some work := told
    rw [same]
    refine ⟨fun work' => ⟨?_, ?_⟩, ?_, ?_⟩
    · intro e
      cases e
      exact ⟨t₁, rfl⟩
    · intro created
      obtain ⟨t', e⟩ := created
      cases e
      rfl
    · intro none
      cases none
    · intro work' e
      cases e
      exact ⟨W, free, found, others⟩

/-- Scripts that keep nothing are each run in the same tree. -/
lemma runAll_eq (tree : t.IsTree) (confined : behaviour.IsConfined) (keep : config.keep = false)
    {paths : List (List Char)}
    (inner : ∀ path ∈ paths, ∀ text, t.readText (FileTree.absolute here path) = .ok text →
      WritesInner behaviour here config (scriptName path) text.toList t) :
    Suite.runAll behaviour here config paths t =
      (paths.map fun path => (Suite.runOne behaviour here config path t).1, t) := by
  induction paths with
  | nil => rfl
  | cons path paths ih =>
    have first : (Suite.runOne behaviour here config path t).2 = t := by
      show (runScript behaviour here config path t).tree = t
      rw [runScript]
      cases stored : t.readText (FileTree.absolute here path) with
      | error e => rfl
      | ok text =>
        exact (runText_gone tree confined (inner path List.mem_cons_self text stored) keep).1
    have others := ih fun path mem => inner path (List.mem_cons_of_mem _ mem)
    rw [Suite.runAll]
    simp only [first, others, List.map_cons]

/-- A run that keeps nothing leaves the tree as it was, whatever it ends in; one that keeps its scratch
directory says so if it got one, and has changed nothing else. So a script comes to the same end in every
order in which it is run with others. -/
theorem runText_isolated (tree : t.IsTree) (confined : behaviour.IsConfined) :
    (∀ name text, WritesInner behaviour here config name text t →
      let run := runText behaviour here config name text t
      (config.keep = false → run.tree = t ∧ run.kept = none) ∧
      (config.keep = true →
        (∀ work, run.kept = some work ↔
          ∃ t₁, Scratch.create t (Path.join here config.workRoot) name = .ok (work, t₁)) ∧
        (run.kept = none → run.tree = t) ∧
        ∀ work, run.kept = some work → ∃ W, t.node? W = none ∧
          run.tree.find work = .ok (W, .directory) ∧ run.tree.eraseBelow W = t)) ∧
    (config.keep = false → ∀ paths : List (List Char),
      (∀ path ∈ paths, ∀ text, t.readText (FileTree.absolute here path) = .ok text →
        WritesInner behaviour here config (scriptName path) text.toList t) →
      ∀ order, order.Perm paths → Suite.runAll behaviour here config order t =
        (order.map fun path => (Suite.runOne behaviour here config path t).1, t)) := by
  constructor
  · intro name text inner
    exact ⟨runText_gone tree confined inner, runText_kept tree confined inner⟩
  · intro keep paths inner order perm
    apply runAll_eq tree confined keep
    intro path mem
    exact inner path (perm.mem_iff.1 mem)

/-- A program that leaves a file in its directory. -/
def leaving : Behaviour := fun inv t =>
  match t.find inv.directory with
  | .ok (W, .directory) => (.ok (.success []), t.put (W ++ [['o']]) (.file [] false))
  | _ => (.ok (.success []), t)

lemma leaving_isConfined : leaving.IsConfined := by
  intro inv t W found
  simp only [leaving, found]
  have below := FileTree.isBelow_append (W := W) [] ['o']
  rw [List.append_nil] at below
  exact .put below nofun

/-- What a program leaves in the scratch directory is gone with it, and two scripts can change places. -/
theorem runText_isolated_leaving :
    let disk : FileTree := ⟨[([['p']], .file [62, 32, 120, 10, 60, 60, 60, 10] false),
      ([['q']], .file [45, 32, 111, 10] false)]⟩
    let report := fun path => (Suite.runOne leaving ['/'] Scene.echo.config path disk).1
    (runText leaving ['/'] Scene.echo.config ['t'] "> x\n<<<\n".toList disk).tree = disk ∧
    Suite.runAll leaving ['/'] Scene.echo.config [['q'], ['p']] disk =
      ([report ['q'], report ['p']], disk) := by
  intro disk report
  have command : (Reader.ofText "> x\n<<<\n".toList).all .ok = .ok [.runAndCheck ['x'] [] .exact] := by
    rw [Reader.all_goOn (i := .runAndCheck ['x'] [] .exact) (by decide), Reader.all_end (by decide)]
    rfl
  have removal : (Reader.ofText "- o\n".toList).all .ok = .ok [.deleteFile ['o']] := by
    rw [Reader.all_goOn (i := .deleteFile ['o']) (by decide), Reader.all_end (by decide)]
    rfl
  have runs : ∀ name, WritesInner leaving ['/'] Scene.echo.config name "> x\n<<<\n".toList disk := by
    intro name work t₁ _
    apply Scene.writesInner_of_literal (by decide +kernel) command
    intro i mem written writes
    cases List.mem_singleton.1 mem
    cases writes
  have removes : ∀ name, WritesInner leaving ['/'] Scene.echo.config name "- o\n".toList disk := by
    intro name work t₁ _
    apply Scene.writesInner_of_literal (by decide +kernel) removal
    intro i mem written writes
    cases List.mem_singleton.1 mem
    cases writes
    decide
  have tree : disk.IsTree := by decide
  obtain ⟨alone, together⟩ :=
    @runText_isolated leaving ['/'] Scene.echo.config disk tree leaving_isConfined
  refine ⟨((alone ['t'] _ (runs ['t'])).1 rfl).1, together rfl [['p'], ['q']] ?_ _ (.swap _ _ _)⟩
  have stored : disk.readText ['/', 'p'] = .ok (String.ofList "> x\n<<<\n".toList) ∧
      disk.readText ['/', 'q'] = .ok (String.ofList "- o\n".toList) := ⟨rfl, rfl⟩
  intro path mem text found
  rcases List.mem_pair.1 mem with rfl | rfl
  · cases stored.1.symm.trans found
    rw [String.toList_ofList]
    exact runs _
  · cases stored.2.symm.trans found
    rw [String.toList_ofList]
    exact removes _

end Runs

end Transcript
