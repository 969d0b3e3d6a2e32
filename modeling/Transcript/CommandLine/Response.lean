import Transcript.CommandLine.Request
import Transcript.Settings.File
import Transcript.Settings.Schema
import Transcript.Suite.Discovery
import Transcript.Suite.Validation

/-!
# Responses

Carries a request out: what is written, the status, and the file tree afterwards.
-/

namespace Transcript.CommandLine

/-- What the program writes and how it ends. -/
structure Response where
  exit : Nat := 0
  output : List Char := []
  complaints : List Char := []
deriving DecidableEq, Repr

namespace Response

/-- A response that says why nothing was done. -/
def refusal (message : String) : Response :=
  { exit := 1, complaints := (message ++ "\n").toList }

/-- A response that tells something. -/
def telling (text : List Char) : Response := { output := text ++ ['\n'] }

end Response

/-- The name and the number of the program. -/
def versionText : String := "sessiontest 0.1.0"

/-- What the program can be asked for. -/
def helpText : String :=
  "Run line-oriented test scripts against a command-line program\n\n" ++
  "Usage: sessiontest [OPTIONS] <COMMAND>\n\n" ++
  "Commands:\n" ++
  "  run       Execute test scripts\n" ++
  "  validate  Check script syntax without running anything\n" ++
  "  init      Scaffold a new test script\n" ++
  "  schema    Output the suite config schema\n" ++
  "  help      Print this message or the help of the given subcommand(s)\n\n" ++
  "Options:\n" ++
  "  -v, --verbose  Log each instruction and the subject's output\n" ++
  "  -h, --help     Print help\n" ++
  "  -V, --version  Print version"

/-- A script to start from. -/
def sampleScript : String :=
  "# Example session. Lines are substituted before they run:\n" ++
  "# $\x7bNAME\x7d is a D definition, $\x7b1\x7d a group from the last <<<* block.\n" ++
  "T 5\n" ++
  "D NAME \"world\"\n" ++
  "> hello $\x7bNAME\x7d\n" ++
  "hello $\x7bNAME\x7d\n" ++
  "<<<\n" ++
  "> id=42\n" ++
  "id=(\\d+)\n" ++
  "<<<*\n" ++
  "> $\x7b1\x7d\n" ++
  "42\n" ++
  "<<<\n"

/-- The settings of the file that was named, or else of the one that is found. -/
def loadSettings (t : FileTree) (here : List Char) (file : Option (List Char)) :
    Except Settings.LoadError Settings :=
  match file with
  | some path => Settings.load t here path
  | none => (Settings.loadFrom t here ['.']).map fun s => s.getD {}

/-- Runs scripts. -/
def runScripts (behaviour : Behaviour) (here : List Char) (r : RunRequest) (t : FileTree) :
    Response × FileTree :=
  match loadSettings t here r.settingsFile with
  | .error e => (.refusal ("Error loading suite config: " ++ e.message), t)
  | .ok file =>
    match file.resolve r.settings with
    | .error bad => (.refusal ("Error: " ++ bad.message), t)
    | .ok config =>
      match Suite.findScripts t here r.paths with
      | .error e => (.refusal ("Error finding scripts: " ++ e.message), t)
      | .ok scripts =>
        let (rs, t) := Suite.runAll behaviour here config scripts t
        ({ exit := (Suite.summarize rs).exitCode, output := Suite.render r.format r.limit rs }, t)

/-- What validating a script adds to a response. -/
def Response.addValidation (r : Response) (path : List Char) :
    Except Suite.Invalid Nat → Response
  | .ok count =>
    { r with output := r.output ++ '✓' :: ' ' :: path ++
        (" (" ++ toString count ++ " instructions)\n").toList }
  | .error e =>
    { r with complaints := r.complaints ++ '✗' :: ' ' :: path ++ (": " ++ e.message ++ "\n").toList }

/-- Validates scripts. -/
def validateScripts (here : List Char) (paths : List (List Char)) (t : FileTree) : Response :=
  match Suite.findScripts t here paths with
  | .error e => .refusal ("Error finding scripts: " ++ e.message)
  | .ok [] => .refusal "No scripts found"
  | .ok scripts =>
    let checked := scripts.map fun p => (p, Suite.validate t here p)
    let r := checked.foldl (fun r c => r.addValidation c.1 c.2) ({} : Response)
    let invalid := checked.countP fun c => !c.2.toBool
    if invalid = 0 then
      { r with output := r.output ++
          ("\nAll " ++ toString scripts.length ++ " script(s) valid\n").toList }
    else
      { r with
        exit := 1
        complaints := r.complaints ++ ("\n" ++ toString invalid ++
          " script(s) failed validation\n").toList }

/-- Makes the directory that a path lies in, if it is not there. -/
def makeParent (t : FileTree) (here path : List Char) : Except SystemError FileTree :=
  match Path.parent? path with
  | none | some [] => .ok t
  | some parent =>
    let parent := FileTree.absolute here parent
    if t.pathExists parent then .ok t else t.makeDirectories parent

/-- Writes the script to start from. -/
def writeSample (here path : List Char) (t : FileTree) : Response × FileTree :=
  let shown := String.ofList path
  let place := FileTree.absolute here path
  if t.pathExists place then (.refusal ("Error: file already exists: " ++ shown), t)
  else match makeParent t here path with
    | .error e => (.refusal ("Error creating directory: " ++ e.message), t)
    | .ok t =>
      match t.write place (Text.encode sampleScript) with
      | .error e => (.refusal ("Error writing file: " ++ e.message), t)
      | .ok t => (.telling ("Created: " ++ shown).toList, t)

/-- Carries a request out. -/
def respond (behaviour : Behaviour) (here : List Char) (t : FileTree) :
    Request → Response × FileTree
  | .run r => runScripts behaviour here r t
  | .validate paths => (validateScripts here paths t, t)
  | .init path => writeSample here path t
  | .schema => (.telling (Settings.schema.writeAt 0), t)
  | .version => (.telling versionText.toList, t)
  | .help => (.telling helpText.toList, t)

/-- Carries a command line out. One without arguments is answered with what can be asked for. -/
def execute (behaviour : Behaviour) (here : List Char) (args : List (List Char)) (t : FileTree) :
    Response × FileTree :=
  if args.isEmpty then ({ exit := 2, complaints := (helpText ++ "\n").toList }, t)
  else match Request.ofArguments args with
    | .error misuse => ({ exit := 2, complaints := (misuse.message ++ "\n").toList }, t)
    | .ok request => respond behaviour here t request

end Transcript.CommandLine
