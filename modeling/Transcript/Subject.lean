import Transcript.Cause
import Transcript.Duration
import Transcript.FileTree.Basic
import Transcript.Text.Blank

/-!
# Subjects

The program under test: how its command lines are built, what an invocation can end in, and what it may
change. What the program does is a parameter everywhere; the tests hold it to its answers.
-/

namespace Transcript

/-- The program under test. -/
structure Subject where
  invocation : List Char := []
  programs : Option (List Char) := none
deriving DecidableEq, Repr, Inhabited

/-- The command line for operands. -/
def Subject.commandLine (s : Subject) (operands : List Char) : List Char :=
  let invocation := Text.trim s.invocation
  if invocation.isEmpty then Text.trim operands
  else invocation ++ ' ' :: Text.trim operands

/-- How an invocation ends. -/
inductive RunOutcome where
  | success (output : List Char)
  | exited (code : Int)
  | signalled (number : Int)
  | timedOut
deriving DecidableEq, Repr

/-- Why an invocation comes to nothing: the program is not started, or it is lost sight of. -/
inductive Mishap where
  | notStarted (cause : SystemError)
  | lost (cause : SystemError)
deriving DecidableEq, Repr

/-- The fault of a script whose subject meets with a mishap. -/
def Mishap.fault : Mishap → Fault
  | .notStarted cause => .notStarted cause
  | .lost cause => .lost cause

instance : Coe Mishap Fault := ⟨Mishap.fault⟩

/-- A command line that is to be run: where, with which programs found first, and for how long. -/
structure Invocation where
  line : List Char
  directory : List Char
  programs : Option (List Char)
  timeout : Duration
deriving DecidableEq, Repr

/-- What an invocation does: its end, or why it did not take place, and the file tree afterwards. -/
abbrev Behaviour := Invocation → FileTree → Except Mishap RunOutcome × FileTree

end Transcript
