import Transcript.Report
import Transcript.Session

/-!
# Running suites

Runs scripts one after the other and writes what became of them: as lines for a reader, with details
about the first scripts that did not pass, or as one record.
-/

namespace Transcript.Suite

/-- The form of what is written. -/
inductive Format where
  | human
  | json
deriving DecidableEq, Repr

/-- A script that has run, with its text if it can be read. -/
structure Reported where
  result : ScriptResult
  source : Except SystemError (List Char)

/-- Details about a script. -/
def details (r : Reported) : List Char :=
  (match r.result.detail? with
    | some detail => "    ".toList ++ detail ++ ['\n']
    | none => []) ++
  (match r.source with
    | .ok source => r.result.listing source
    | .error e =>
      "    (could not read ".toList ++ r.result.path ++ ": ".toList ++ e.message.toList ++
        ")\n".toList)

/-- What is written in place of details when the limit is used up. -/
def limitExceeded : List Char :=
  "   Limit on error details exceeded.\n".toList

/-- What is written about a script that did not pass, and the limit for those that follow. -/
def showDetails (limit : Option ShowLimit) (r : Reported) : List Char × Option ShowLimit :=
  match limit with
  | none => ([], none)
  | some (.count 0) => (limitExceeded, some (.count 0))
  | some (.count (n + 1)) => (details r, some (.count n))
  | some .all => (details r, some .all)

/-- What is written first about a script: its name and status, and its directory if that was kept. -/
def heading (r : Reported) : List Char :=
  r.result.name ++ ':' :: ' ' :: r.result.status.toList ++ ['\n'] ++
    match r.result.kept with
    | some dir => "    Testing directory: ".toList ++ dir ++ ['\n']
    | none => []

/-- What is written about a script, and the limit for those that follow. -/
def showResult (limit : Option ShowLimit) (r : Reported) : List Char × Option ShowLimit :=
  if r.result.verdict.isPassed then (heading r, limit)
  else
    let (shown, limit) := showDetails limit r
    (heading r ++ shown, limit)

/-- What is written about scripts in turn. -/
def showResults (limit : Option ShowLimit) : List Reported → List Char
  | [] => []
  | r :: rs =>
    let (shown, limit) := showResult limit r
    shown ++ showResults limit rs

/-- The totals of scripts. -/
def summarize (rs : List Reported) : Summary :=
  rs.foldl (fun s r => s.record r.result.verdict) {}

/-- What is written about a suite. -/
def render (format : Format) (limit : Option ShowLimit) (rs : List Reported) : List Char :=
  match format with
  | .human => showResults limit rs ++ '\n' :: (summarize rs).line.toList ++ ['\n']
  | .json =>
    (Json.object [
      ("summary".toList, (summarize rs).json),
      ("results".toList, .array (rs.map fun r => r.result.json))]).write ++ ['\n']

/-- Runs a script and takes down what became of it. The text is read again after the run. -/
def runOne (behaviour : Behaviour) (here : List Char) (config : Configuration) (path : List Char)
    (t : FileTree) : Reported × FileTree :=
  let run := runScript behaviour here config path t
  ({ result := {
      name := scriptName path
      path := path
      verdict := run.verdict
      duration := ⟨0⟩
      kept := run.kept }
     source := (run.tree.readText (FileTree.absolute here path)).map String.toList },
   run.tree)

/-- Runs scripts in turn. -/
def runAll (behaviour : Behaviour) (here : List Char) (config : Configuration) :
    List (List Char) → FileTree → List Reported × FileTree
  | [], t => ([], t)
  | p :: ps, t =>
    let (r, t) := runOne behaviour here config p t
    let (rs, t) := runAll behaviour here config ps t
    (r :: rs, t)

end Transcript.Suite
