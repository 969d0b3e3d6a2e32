import Transcript.Cause
import Transcript.Duration

/-!
# Verdicts

What becomes of a script: it passes, the program under test fails at a line, or a line cannot be
carried out. Line 0 stands for a script that was not begun.
-/

namespace Transcript

/-- The single outcome of a script. -/
inductive Verdict where
  | passed
  | failed (line : Nat) (failure : Failure)
  | faulty (line : Nat) (fault : Fault)
deriving DecidableEq, Repr

namespace Verdict

/-- The script passed. -/
def isPassed : Verdict → Bool
  | .passed => true
  | _ => false

/-- The line at which a script ended early. -/
def line? : Verdict → Option Nat
  | .passed => none
  | .failed line _ => some line
  | .faulty line _ => some line

end Verdict

/-- A script with what became of it. -/
structure ScriptResult where
  name : List Char
  path : List Char
  verdict : Verdict
  duration : Duration
  kept : Option (List Char)
deriving DecidableEq, Repr

end Transcript
