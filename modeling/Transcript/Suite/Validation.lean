import Transcript.FileTree.Files
import Transcript.Script.Reader

/-!
# Validating scripts

Reads a script without running it. The references in it stand for themselves.
-/

namespace Transcript.Suite

/-- Why a script is not valid. -/
inductive Invalid where
  | unreadable (cause : SystemError)
  | misread (why : Script.Misread)
deriving DecidableEq, Repr

/-- The text about a script that is not valid. -/
def Invalid.message : Invalid → String
  | .unreadable cause => "could not read script: " ++ cause.message
  | .misread why => "line " ++ toString why.line ++ ": " ++ why.fault.message

/-- The number of instructions of the script in a file. -/
def validate (t : FileTree) (here path : List Char) : Except Invalid Nat :=
  match t.readText (FileTree.absolute here path) with
  | .error e => .error (.unreadable e)
  | .ok text => (Script.count text.toList).mapError .misread

end Transcript.Suite
