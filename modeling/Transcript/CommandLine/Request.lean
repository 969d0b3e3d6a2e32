import Transcript.CommandLine.Options
import Transcript.Report
import Transcript.Settings.Basic
import Transcript.Suite.Execution

/-!
# Requests

What a command line asks for: to run scripts, to validate them, to write a first one, or to tell about
the program.
-/

namespace Transcript.CommandLine

/-- A request to run scripts. -/
structure RunRequest where
  paths : List (List Char)
  settings : Settings
  limit : Option ShowLimit
  settingsFile : Option (List Char)
  format : Suite.Format

/-- What can be asked for. -/
inductive Request where
  | run (r : RunRequest)
  | validate (paths : List (List Char))
  | init (path : List Char)
  | schema
  | version
  | help

/-- The options that stand anywhere. -/
def commonForms : List OptionForm :=
  [{ name := "verbose", letter := some 'v' }, { name := "help", letter := some 'h' }]

/-- The options in front of the command. -/
def topForms : List OptionForm :=
  { name := "version", letter := some 'V' } :: commonForms

/-- The options of a run. -/
def runForms : List OptionForm :=
  [{ name := "show", valued := true }, { name := "keep" }, { name := "progdir", valued := true },
    { name := "subject", valued := true }, { name := "timeout", valued := true },
    { name := "refdir", valued := true }, { name := "work-root", valued := true },
    { name := "config", valued := true }, { name := "output", letter := some 'o', valued := true }] ++
    commonForms

/-- A value that may be left out, understood. -/
def understand {α : Type} (g : Given) (name : String) (read? : List Char → Option α) :
    Except Misuse (Option α) :=
  match g.value? name with
  | none => .ok none
  | some v =>
    match read? v with
    | some a => .ok (some a)
    | none => .error (.badValue name v)

/-- A path, which is not empty. -/
def readPath? (s : List Char) : Option (List Char) :=
  if s.isEmpty then none else some s

/-- The form of the output. -/
def readFormat? (s : List Char) : Option Suite.Format :=
  match String.ofList s with
  | "human" => some .human
  | "json" => some .json
  | _ => none

/-- Operands that are paths, at least one. -/
def pathsOf (g : Given) : Except Misuse (List (List Char)) :=
  if g.operands.isEmpty then .error (.missingOperand "PATHS")
  else g.operands.mapM fun p =>
    match readPath? p with
    | some p => .ok p
    | none => .error (.badValue "PATHS" p)

/-- A request to run scripts. -/
def readRun (g : Given) : Except Misuse Request := do
  let limit ← understand g "show" ShowLimit.read?
  let programs ← understand g "progdir" readPath?
  let subject ← understand g "subject" some
  let timeout ← understand g "timeout" Number.readNumber?
  let references ← understand g "refdir" readPath?
  let workRoot ← understand g "work-root" readPath?
  let settingsFile ← understand g "config" readPath?
  let format ← understand g "output" readFormat?
  let paths ← pathsOf g
  return .run {
    paths, limit, settingsFile
    settings := { timeout, subject, programs, references, workRoot, keep := g.has "keep" }
    format := format.getD .human }

/-- The path of a script that is written when none is given. -/
def defaultPath : List Char := "tests/example.in".toList

/-- A request to write a first script. -/
def readInit (g : Given) : Except Misuse Request :=
  match g.operands with
  | [] => .ok (.init defaultPath)
  | [p] => if p.isEmpty then .error (.badValue "PATH" p) else .ok (.init p)
  | _ :: p :: _ => .error (.needlessOperand p)

/-- A request that takes no operands. -/
def readBare (request : Request) (g : Given) : Except Misuse Request :=
  match g.operands with
  | [] => .ok request
  | a :: _ => .error (.needlessOperand a)

/-- Reads what follows a command. -/
def readCommand (forms : List OptionForm) (read : Given → Except Misuse Request)
    (args : List (List Char)) : Except Misuse Request := do
  let (g, _) ← readArguments forms false {} none args
  if g.has "help" then return .help
  read g

/-- Reads a command line. -/
def Request.ofArguments (args : List (List Char)) : Except Misuse Request := do
  let (g, rest) ← readArguments topForms true {} none args
  if g.has "help" then return .help
  if g.has "version" then return .version
  match g.operands with
  | a :: _ => throw (.needlessOperand a)
  | [] => pure ()
  match rest with
  | [] => throw .missingCommand
  | name :: args =>
    match String.ofList name with
    | "run" => readCommand runForms readRun args
    | "validate" => readCommand commonForms (fun g => (pathsOf g).map .validate) args
    | "init" => readCommand commonForms readInit args
    | "schema" => readCommand commonForms (readBare .schema) args
    | "help" => return .help
    | _ => throw (.unknownCommand name)

end Transcript.CommandLine
