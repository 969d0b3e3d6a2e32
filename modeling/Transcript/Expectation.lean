import Transcript.EditDistance
import Transcript.Pattern.Search
import Transcript.Text.Blank
import Transcript.Text.Lines
import Transcript.Text.Quoted

/-!
# Expected output

Compares the output of a command with the lines that a script expects. Blank lines at the end do not
count on either side, and lines are compared without the blank characters around them: either within a
few edits, or as patterns that have to reach the end of the line.
-/

namespace Transcript

open Text (isAllBlank trim)

/-- How expected lines are meant. -/
inductive Mode where
  | exact
  | pattern
deriving DecidableEq, Repr, Inhabited

/-- What a comparison finds. Line numbers count from zero. -/
inductive Comparison where
  | accepted (groups : Option (List (List Char)))
  | lineCount (expected actual : Nat)
  | lineDiffers (index : Nat) (expected actual : List Char)
deriving DecidableEq, Repr

namespace Comparison

/-- The output is as expected. -/
def isAccepted : Comparison → Bool
  | .accepted _ => true
  | _ => false

/-- A difference in one line; empty when there is none. -/
def describe : Comparison → List Char
  | .accepted _ => []
  | .lineCount expected actual =>
    "expected ".toList ++ Nat.toDigits 10 expected ++ " line(s), got ".toList ++
      Nat.toDigits 10 actual
  | .lineDiffers index expected actual =>
    "line ".toList ++ Nat.toDigits 10 (index + 1) ++ ": expected ".toList ++ Text.quote expected ++
      ", got ".toList ++ Text.quote actual

end Comparison

namespace Expectation

/-- The most edits by which a line may differ. -/
def tolerance : Nat := 2

/-- The lines of an output. -/
def outputLines (output : List Char) : List (List Char) :=
  (Text.splitAt '\n' (Text.trimEndWhile (fun c => c == '\n' || c == '\r') output)).map
    Text.dropReturn

/-- Lines without the blank ones at their end. -/
def significant : List (List Char) → List (List Char)
  | [] => []
  | l :: ls =>
    match significant ls with
    | [] => if isAllBlank l then [] else [l]
    | m :: ms => l :: m :: ms

variable [Pattern.Dialect]

/-- The test of one line: `none` when it fails, else the groups that it leaves. -/
def testLine (mode : Mode) (expected actual : List Char) : Option (Option (List (List Char))) :=
  match mode with
  | .exact => if editDistance expected actual ≤ tolerance then some none else none
  | .pattern => (Pattern.groupsAtStart? (expected ++ ['$']) actual).map some

/-- Tests pairs of lines from `index` on; `groups` are those of the line before. -/
def compareLines (mode : Mode) (index : Nat) (groups : Option (List (List Char))) :
    List (List Char) → List (List Char) → Comparison
  | e :: es, a :: as =>
    match testLine mode (trim e) (trim a) with
    | some found => compareLines mode (index + 1) found es as
    | none => .lineDiffers index (trim e) (trim a)
  | _, _ => .accepted groups

/-- Compares an output with expected lines. -/
def compare (expected : List (List Char)) (output : List Char) (mode : Mode) : Comparison :=
  let es := significant expected
  let as := significant (outputLines output)
  if es.length = as.length then compareLines mode 0 none es as
  else .lineCount es.length as.length

end Expectation

end Transcript
