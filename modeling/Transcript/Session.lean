import Transcript.FileTree.Files
import Transcript.Script.Reader
import Transcript.Settings.Basic
import Transcript.Variables
import Transcript.Verdict

/-!
# Sessions

Runs a script. Its instructions are read and carried out one after the other, with a time limit,
variables and a file tree that are passed on from each to the next, until the script ends or an
instruction halts it. A script runs in a scratch directory of its own, which is removed afterwards
unless it is to be kept.
-/

namespace Transcript

open Text (Bytes)

/-- What an instruction may change. -/
structure Session where
  timeout : Duration
  vars : Variables
  tree : FileTree
deriving DecidableEq, Repr

/-- What stays the same while a script runs: the configuration, the program under test, the directory
that relative paths start from and the scratch directory. -/
structure Scene where
  config : Configuration
  behaviour : Behaviour
  here : List Char
  work : List Char

/-- Why an instruction halts a script. -/
inductive Halt where
  | failure (f : Failure)
  | fault (f : Fault)
deriving DecidableEq, Repr

/-- The verdict of a script that is halted at a line. -/
def Halt.verdict (line : Nat) : Halt → Verdict
  | .failure f => .failed line f
  | .fault f => .faulty line f

namespace Scene

/-- The path of a reference file. -/
def referencePath (scene : Scene) (name : List Char) : List Char :=
  FileTree.absolute scene.here (Path.join scene.config.references name)

/-- The path of a name in the scratch directory. -/
def workPath (scene : Scene) (name : List Char) : List Char :=
  Path.join scene.work name

/-- A file's content without carriage returns. -/
def plainContent? (t : FileTree) (path : List Char) : Option Bytes :=
  (t.read path).toOption.map fun bytes => bytes.filter (· ≠ 13)

/-- Removes a file of the scratch directory; what cannot be removed stays. -/
def delete (scene : Scene) (name : List Char) (t : FileTree) : FileTree :=
  (t.removeFile (scene.workPath name)).toOption.getD t

/-- Copies a reference file in place of what had its name. -/
def copyReference (scene : Scene) (dest src : List Char) (s : Session) : Option Halt × Session :=
  let t := scene.delete dest s.tree
  match t.copy (scene.referencePath src) (scene.workPath dest) with
  | .ok t' => (none, { s with tree := t' })
  | .error _ => (some (.fault (.notCopied src dest)), { s with tree := t })

/-- Looks at the output of a command. -/
def checkOutput (expected : List (List Char)) (mode : Mode) (output : List Char) (s : Session) :
    Option Halt × Session :=
  match Expectation.compare expected output mode with
  | .accepted none => (none, s)
  | .accepted (some groups) => (none, { s with vars := s.vars.recordGroups groups })
  | differs => (some (.failure (.incorrectOutput differs.describe)), s)

/-- What is invoked for a command. -/
def invocation (scene : Scene) (command : List Char) (s : Session) : Invocation where
  line := scene.config.subject.commandLine command
  directory := scene.work
  programs := scene.config.subject.programs
  timeout := s.timeout

/-- Runs the program under test and looks at its output. -/
def runAndCheck (scene : Scene) (command : List Char) (expected : List (List Char)) (mode : Mode)
    (s : Session) : Option Halt × Session :=
  let (outcome, t) := scene.behaviour (scene.invocation command s) s.tree
  let s := { s with tree := t }
  match outcome with
  | .error mishap => (some (.fault mishap), s)
  | .ok .timedOut => (some (.failure .timeout), s)
  | .ok (.exited code) => (some (.failure (.exitCode code)), s)
  | .ok (.signalled number) => (some (.failure (.signal number)), s)
  | .ok (.success output) => checkOutput expected mode output s

/-- Compares a file of the scratch directory with a reference file. -/
def checkContent (scene : Scene) (name reference : List Char) (s : Session) : Option Halt :=
  match plainContent? s.tree (scene.referencePath reference) with
  | none => some (.fault (.missingReference reference))
  | some expected =>
    if plainContent? s.tree (scene.workPath name) = some expected then none
    else some (.failure (.fileContent name))

/-- Carries an instruction out: what it halts with, if it does, and what it changes. -/
def apply (scene : Scene) (s : Session) : Instruction → Option Halt × Session
  | .comment => (none, s)
  | .setTimeout secs => (none, { s with timeout := .ofSeconds secs })
  | .copyFile dest src => scene.copyReference dest src s
  | .deleteFile name => (none, { s with tree := scene.delete name s.tree })
  | .runAndCheck command expected mode => scene.runAndCheck command expected mode s
  | .checkContent name reference => (scene.checkContent name reference s, s)
  | .checkAbsent name =>
    (if s.tree.pathExists (scene.workPath name) then some (.failure (.filePresent name)) else none, s)
  | .checkExists name =>
    (if s.tree.pathExists (scene.workPath name) then none else some (.failure (.fileMissing name)), s)
  | .define name value =>
    match s.vars.define name value with
    | .ok vars => (none, { s with vars })
    | .error fault => (some (.fault fault), s)

/-- Carries out what a reader still has, at most `fuel` instructions. -/
def executeFrom (scene : Scene) : Nat → Script.Reader → Session → Verdict × Session
  | 0, _, s => (.passed, s)
  | fuel + 1, r, s =>
    let reading := r.next (.ofFunction s.vars.substitute) ()
    match reading.result with
    | .error fault => (.faulty reading.reader.line fault, s)
    | .ok none => (.passed, s)
    | .ok (some i) =>
      match scene.apply s i with
      | (none, s') => executeFrom scene fuel reading.reader s'
      | (some halt, s') => (halt.verdict reading.reader.line, s')

/-- Carries a script out. -/
def execute (scene : Scene) (text : List Char) (s : Session) : Verdict × Session :=
  let r := Script.Reader.ofText text
  scene.executeFrom (r.rest.length + 1) r s

end Scene

namespace Scratch

/-- How many names are tried for a scratch directory. -/
def maxAttempts : Nat := 100

/-- The path of the scratch directory with a number. -/
def path (root name : List Char) (n : Nat) : List Char :=
  Path.join root (name ++ '_' :: Nat.toDigits 10 n)

/-- Makes the first scratch directory from number `n` on whose name is free, `attempts` tries at most. -/
def createFrom (t : FileTree) (root name : List Char) (n : Nat) :
    Nat → Option (List Char × FileTree)
  | 0 => none
  | attempts + 1 =>
    match t.makeDirectory (path root name n) with
    | .ok t' => some (path root name n, t')
    | .error _ => createFrom t root name (n + 1) attempts

/-- Makes a scratch directory for a script in a directory. -/
def create (t : FileTree) (root name : List Char) : Except Fault (List Char × FileTree) :=
  match createFrom t root name 0 maxAttempts with
  | some made => .ok made
  | none => .error (.noScratch name)

/-- The tree after a script: its scratch directory is removed unless it is kept. -/
def finish (t : FileTree) (work : List Char) (keep : Bool) : FileTree :=
  if keep then t else (t.removeAll work).toOption.getD t

end Scratch

/-- What a run of a script leaves. -/
structure Run where
  verdict : Verdict
  kept : Option (List Char)
  tree : FileTree
deriving DecidableEq, Repr

/-- Runs the text of a script under a name; relative paths start from the directory `here`. -/
def runText (behaviour : Behaviour) (here : List Char) (config : Configuration)
    (name text : List Char) (t : FileTree) : Run :=
  match Scratch.create t (Path.join here config.workRoot) name with
  | .error fault => ⟨.faulty 0 fault, none, t⟩
  | .ok (work, t) =>
    let scene : Scene := { config, behaviour, here, work }
    let (verdict, s) := scene.execute text { timeout := config.timeout, vars := {}, tree := t }
    ⟨verdict, if config.keep then some work else none, Scratch.finish s.tree work config.keep⟩

/-- The name of a script: the stem of its file, or the whole path where there is none. -/
def scriptName (path : List Char) : List Char :=
  (Path.fileStem? path).getD path

/-- Runs the script of a file. -/
def runScript (behaviour : Behaviour) (here : List Char) (config : Configuration)
    (path : List Char) (t : FileTree) : Run :=
  match t.readText (FileTree.absolute here path) with
  | .error e => ⟨.faulty 0 (.unreadable e), none, t⟩
  | .ok text => runText behaviour here config (scriptName path) text.toList t

end Transcript
