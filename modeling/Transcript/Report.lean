import Transcript.Json
import Transcript.Number.Power
import Transcript.Path
import Transcript.Verdict

/-!
# Reports

What is written about scripts that have run: a line for each, a listing with the line that failed
pointed out, a record, the totals, and the exit status that they give.
-/

namespace Transcript

namespace ScriptResult

/-- The status that follows a script's name. -/
def status (r : ScriptResult) : String :=
  match r.verdict with
  | .passed => "OK"
  | .failed _ failure => "ERROR (" ++ failure.message ++ ")"
  | .faulty _ fault => "FAILED (" ++ fault.message ++ ")"

/-- What is known about a failure beyond its message. -/
def detail? (r : ScriptResult) : Option (List Char) :=
  match r.verdict with
  | .failed _ (.incorrectOutput detail) => some detail
  | _ => none

/-- The name of the script's file. -/
def baseName (r : ScriptResult) : List Char :=
  (Path.fileName? r.path).getD r.name

end ScriptResult

namespace Listing

/-- The line that is pointed out; line 0 is none. -/
def marked? (v : Verdict) : Option Nat :=
  v.line?.filter (0 < ·)

/-- Digits with blanks in front of them. -/
def padLeft (width : Nat) (ds : List Char) : List Char :=
  List.replicate (width - ds.length) ' ' ++ ds

/-- A row: a marker, the number of a line, and the line. -/
def row (marked : Option Nat) (width number : Nat) (line : List Char) : List Char :=
  (if marked = some number then '>' else ' ') :: padLeft width (Nat.toDigits 10 number) ++
    '.' :: ' ' :: line

/-- The rows of lines from a number on. -/
def rows (marked : Option Nat) (width : Nat) (number : Nat) : List (List Char) → List (List Char)
  | [] => []
  | l :: ls => row marked width number l :: rows marked width (number + 1) ls

/-- The first line of a listing with a failing line. -/
def header (base : List Char) (line : Nat) : List Char :=
  "    Error on line ".toList ++ Nat.toDigits 10 line ++ " of ".toList ++ base

/-- The rule with the name of the file. -/
def openingRule (base : List Char) : List Char :=
  let dashes := List.replicate 20 '-'
  dashes ++ ' ' :: base ++ ' ' :: dashes

/-- The rule at the end; it grows with the bytes of the name. -/
def closingRule (base : List Char) : List Char :=
  List.replicate (42 + base.foldl (fun n c => n + c.utf8Size) 0) '-'

/-- The lines of a listing. -/
def listingLines (r : ScriptResult) (source : List Char) : List (List Char) :=
  let base := r.baseName
  let ls := Text.lines source
  let width := (Nat.toDigits 10 ls.length).length
  let marked := marked? r.verdict
  (match marked with
    | some line => [header base line]
    | none => []) ++
    [openingRule base] ++ rows marked width 1 ls ++ [closingRule base]

end Listing

/-- The listing of a script with the failing line pointed out. -/
def ScriptResult.listing (r : ScriptResult) (source : List Char) : List Char :=
  (Listing.listingLines r source).flatMap (· ++ ['\n'])

/-- The record of a script. -/
def ScriptResult.json (r : ScriptResult) : Json :=
  let (status, message) := match r.verdict with
    | .passed => ("passed", none)
    | .failed _ failure => ("failed", some failure.message)
    | .faulty _ fault => ("faulty", some fault.message)
  .object [
    ("name".toList, .string r.name),
    ("file".toList, .string r.path),
    ("status".toList, .string status.toList),
    ("line".toList, .ofOption .whole r.verdict.line?),
    ("message".toList, .ofOption (fun m => .string m.toList) message),
    ("detail".toList, .ofOption .string r.detail?),
    ("duration".toList, .number r.duration.toSeconds),
    ("kept_dir".toList, .ofOption .string r.kept)]

/-- How many scripts came to which end. -/
structure Summary where
  passed : Nat := 0
  failed : Nat := 0
  faulty : Nat := 0
deriving DecidableEq, Repr

namespace Summary

/-- Counts one more script. -/
def record (s : Summary) : Verdict → Summary
  | .passed => { s with passed := s.passed + 1 }
  | .failed .. => { s with failed := s.failed + 1 }
  | .faulty .. => { s with faulty := s.faulty + 1 }

/-- How many scripts have been counted. -/
def total (s : Summary) : Nat :=
  s.passed + s.failed + s.faulty

/-- The exit status: the number of scripts that did not pass, as far as a status can tell. -/
def exitCode (s : Summary) : Nat :=
  min (s.failed + s.faulty) 255

/-- The line at the end of a run. -/
def line (s : Summary) : String :=
  "Ran " ++ toString s.total ++ " tests. " ++ toString s.passed ++ " passed, " ++
    toString s.failed ++ " failed" ++
    (if 0 < s.faulty then ", " ++ toString s.faulty ++ " faulty test file(s)" else "") ++ "."

/-- The record of the totals. -/
def json (s : Summary) : Json :=
  .object [
    ("passed".toList, .whole s.passed),
    ("failed".toList, .whole s.failed),
    ("faulty".toList, .whole s.faulty)]

end Summary

/-- How many scripts that did not pass are shown in full. -/
inductive ShowLimit where
  | count (n : Nat)
  | all
deriving DecidableEq, Repr

namespace ShowLimit

/-- The text about a limit that cannot be read. -/
def badText (s : List Char) : List Char :=
  "expected a number or \"all\", got ".toList ++ Text.quote s

/-- Reads a limit: a number of 64 bits, which may have a plus sign, or the word for no limit. -/
def read? (s : List Char) : Option ShowLimit :=
  if s = "all".toList then some .all
  else
    let ds := match s with
      | '+' :: r => r
      | r => r
    if ds.isEmpty || !ds.all Char.isDigit then none
    else
      let n := Number.digitsValue ds
      if n < Number.twoTo 64 then some (.count n) else none

end ShowLimit

end Transcript
