import Transcript.Deadline
import Transcript.Shell.Evaluation
import Transcript.Shell.Host

/-!
# Subjects in a shell

Runs the command line of a subject: a shell is started in the directory of the invocation, with the
directory of programs searched first, and takes the command line's first program in its own place.
-/

namespace Transcript.Shell

/-- The search path with a directory in front of it. A directory with a colon in its name cannot be put
there. -/
def searchPathWith (programs : Option (List Char)) : List Char :=
  match programs with
  | none => searchPath
  | some d => if d.contains ':' then searchPath else d ++ ':' :: searchPath

/-- The number of the process that is run. -/
def childPid : Nat := 1000

/-- The world in which an invocation starts, in the directory with some names. -/
def startWorld (inv : Invocation) (names : List Path.Name) (tree : FileTree) : World where
  proc :=
    { cwd := '/' :: List.intercalate ['/'] names
      vars := [("PATH".toList, { value := searchPathWith inv.programs, exported := true }),
        ("HOME".toList, { value := Host.home, exported := true })]
      fds := [(0, 0), (1, 1), (2, 1)]
      pid := childPid
      parents := [childPid - 1]
      shell := childPid }
  tree := tree
  clock := 0
  limit := Deadline.killTime inv.timeout
  files := #[.nothing, .output]
  nextPid := childPid + 1

/-- How the process has ended, if it has. -/
def endingOf : EStateM.Result Flow World Nat → Option Deadline.Ending
  | .ok status _ | .error (.exit status) _ | .error (.ret status) _ => some (.exited status)
  | .error (.killed _ signal) _ => some (.signalled signal)
  | .error (.leave _) w | .error (.again _) w => some (.exited w.proc.status)
  | .error .expired _ => none

/-- The world that a run leaves. -/
def worldOf : EStateM.Result Flow World Nat → World
  | .ok _ w | .error _ w => w

/-- What was written, in the order of time. -/
def World.output (w : World) : Text.Bytes :=
  ((w.written.reverse.mergeSort fun a b => a.1 ≤ b.1).map Prod.snd).flatten

/-- The time at which the last process lets go of the output. -/
def World.closes (w : World) : Nat :=
  w.held.foldl (fun t h => max t h.2) w.clock

/-- Runs an invocation in a directory that is there. -/
def invokeIn (names : List Path.Name) : Behaviour := fun inv tree =>
  let line := "exec ".toList ++ inv.line
  let result := (execute depthLimit "sh".toList ["-c".toList, line]).run (startWorld inv names tree)
  let w := worldOf result
  let reading := Deadline.decisive inv.timeout ((endingOf result).map fun how => (how, w.clock))
  let output (remaining : Nat) : Option Text.Bytes :=
    if w.closes ≤ reading.elapsed + remaining then some w.output else none
  let outcome := match Deadline.await inv.timeout output [reading] with
    | some watched => watched.outcome
    | none => .ok .timedOut
  (outcome, w.tree)

/-- Runs an invocation. It does not start where its directory cannot be entered, or where its texts cannot
be handed to the system. -/
def invoke : Behaviour := fun inv tree =>
  if inv.line.contains '\x00' || (inv.programs.getD []).contains '\x00' then
    (.error (.notStarted .nul), tree)
  else match tree.find inv.directory with
    | .error e => (.error (.notStarted e), tree)
    | .ok (names, .directory) => invokeIn names inv tree
    | .ok _ => (.error (.notStarted .notDirectory), tree)

end Transcript.Shell
