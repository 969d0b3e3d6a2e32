import Transcript.FileTree.Files
import Transcript.Number.Power
import Transcript.Shell.Command
import Transcript.Shell.Glob

/-!
# The world of a command

What commands see and change: the process that runs them, the file tree, a clock, and what has been
written. Nothing waits: a command that sleeps moves the clock on, and what runs in the background starts
at the same time as what follows it. A process that holds the output open beyond the end of the command
is noted with the time at which it lets go.
-/

namespace Transcript.Shell

open Transcript.Path (Name)
open Text (Bytes)

/-- The value of a variable. -/
structure Variable where
  value : List Char
  exported : Bool := false
  readOnly : Bool := false
deriving Repr

/-- A command in the background. -/
structure Job where
  pid : Nat
  ends : Nat
  status : Nat
deriving Repr

/-- What a descriptor can lead to. -/
inductive OpenFile where
  | output
  | nothing
  | buffer (chunks : List Bytes)
  | source (rest : Bytes)
  | file (names : List Name) (offset : Nat) (append : Bool)
deriving Repr, Inhabited

/-- A process that runs commands. -/
structure Process where
  vars : List (List Char × Variable) := []
  name : List Char := "sh".toList
  args : List (List Char) := []
  cwd : List Char
  fds : List (Nat × Nat) := []
  functions : List (List Char × Command) := []
  status : Nat := 0
  pid : Nat
  parents : List Nat := []
  shell : Nat
  line : Nat := 1
  jobs : List Job := []
  lastJob : Option Nat := none
  traps : List (String × List Char) := []
  stopOnError : Bool := false
  needSet : Bool := false
  noGlob : Bool := false
  trace : Bool := false
  guarded : Bool := false
  loops : Nat := 0
  locals : Option (List (List Char × Option Variable)) := none
  substituted : Option Nat := none
deriving Repr

/-- What there is beside the process. -/
structure World where
  proc : Process
  tree : FileTree
  clock : Nat
  limit : Nat
  written : List (Nat × Bytes) := []
  held : List (Nat × Nat) := []
  files : Array OpenFile := #[]
  nextPid : Nat
deriving Repr

/-- Why a command does not go on to the next. -/
inductive Flow where
  | exit (status : Nat)
  | killed (pid signal : Nat)
  | leave (levels : Nat)
  | again (levels : Nat)
  | ret (status : Nat)
  | expired
deriving DecidableEq, Repr

/-- An action in the world. -/
abbrev Act := EStateM Flow World

/-- How a process ends. -/
inductive Ended where
  | exited (status : Nat)
  | killed (signal : Nat)
deriving DecidableEq, Repr

/-- The status that a shell sees. -/
def Ended.status : Ended → Nat
  | .exited s => s
  | .killed n => 128 + n

/-- A time that does not come. -/
def never : Nat := Number.tenTo 40

/-- A second, in the unit of the clock. -/
def second : Nat := 1000000000

/-- The time that it takes to start a program. -/
def startTime : Nat := 1000000

/-- The directories that are searched for programs when no others are named. -/
def searchPath : List Char :=
  "/usr/local/sbin:/usr/local/bin:/usr/sbin:/usr/bin:/sbin:/bin".toList

/-! ## The process -/

/-- Changes the process. -/
def changeProcess (f : Process → Process) : Act Unit :=
  modify fun w => { w with proc := f w.proc }

/-- Sets the status of the last command. -/
def setStatus (n : Nat) : Act Unit :=
  changeProcess fun p => { p with status := n }

/-- The value of a variable. -/
def Process.value? (p : Process) (name : List Char) : Option (List Char) :=
  (p.vars.lookup name).map Variable.value

/-- The process with a variable set. -/
def Process.setVar (p : Process) (name : List Char) (v : Variable) : Process :=
  { p with vars := (name, v) :: p.vars.filter (·.1 ≠ name) }

/-- Sets a variable; one that is handed on stays so. -/
def setValue (name value : List Char) : Act Unit :=
  changeProcess fun p =>
    let old := (p.vars.lookup name).getD { value := [] }
    p.setVar name { old with value := value }

/-- What a program is handed: the variables that are marked for it. -/
def Process.handedOn (p : Process) : List (List Char × Variable) :=
  p.vars.filter fun v => v.2.exported

/-- The absolute form of a path. -/
def pathOf (path : List Char) : Act (List Char) := do
  return FileTree.absolute (← get).proc.cwd path

/-! ## Time -/

/-- Moves the clock on; beyond the limit nothing is carried out. -/
def pass (nanos : Nat) : Act Unit := do
  let w ← get
  let clock := w.clock + nanos
  set { w with clock }
  if w.limit < clock then throw .expired

/-! ## Descriptors -/

/-- Opens something and gives it a number. -/
def openNew (f : OpenFile) : Act Nat := do
  let w ← get
  set { w with files := w.files.push f }
  return w.files.size

/-- What a descriptor leads to. -/
def descriptor (fd : Nat) : Act (Option (Nat × OpenFile)) := do
  let w ← get
  return (w.proc.fds.lookup fd).map fun n => (n, w.files.getD n .nothing)

/-- Lets a descriptor lead to something that is open, or to nothing. -/
def Process.point (p : Process) (fd : Nat) (target : Option Nat) : Process :=
  let others := p.fds.filter (·.1 ≠ fd)
  { p with fds := match target with | some n => (fd, n) :: others | none => others }

/-- Replaces what is open under a number. -/
def setOpen (n : Nat) (f : OpenFile) : Act Unit :=
  modify fun w => { w with files := w.files.setIfInBounds n f }

/-- A file with bytes in the place of those at an offset. -/
def overwrite (content : Bytes) (offset : Nat) (bytes : Bytes) : Bytes :=
  let before := content.take offset
  before ++ List.replicate (offset - before.length) 0 ++ bytes ++
    content.drop (offset + bytes.length)

/-- Writes to a descriptor; false when it leads nowhere. -/
def writeBytes (fd : Nat) (bytes : Bytes) : Act Bool := do
  match ← descriptor fd with
  | none => return false
  | some (n, f) =>
    match f with
    | .output => modify fun w => { w with written := (w.clock, bytes) :: w.written }
    | .nothing => pure ()
    | .buffer chunks => setOpen n (.buffer (bytes :: chunks))
    | .source _ => pure ()
    | .file names offset append =>
      modify fun w =>
        match w.tree.node? names with
        | some (.file content x) =>
          let offset := if append then content.length else offset
          { w with
            tree := w.tree.put names (.file (overwrite content offset bytes) x)
            files := w.files.setIfInBounds n (.file names (offset + bytes.length) append) }
        | _ => w
    return true

/-- Writes a text. -/
def say (s : List Char) : Act Unit := do
  let _ ← writeBytes 1 (Text.encode (String.ofList s))

/-- Writes a text and ends the line. -/
def sayLine (s : List Char) : Act Unit := say (s ++ ['\n'])

/-- Writes a complaint of a program. -/
def complain (s : String) : Act Unit := do
  let _ ← writeBytes 2 (Text.encode (s ++ "\n"))

/-- Writes a complaint of the shell. -/
def grumble (s : String) : Act Unit := do
  let p := (← get).proc
  complain (String.ofList p.name ++ ": " ++ toString p.line ++ ": " ++ s)

/-- What can still be read from a descriptor, without reading it. -/
def available (fd : Nat) : Act Bytes := do
  match ← descriptor fd with
  | some (_, .source rest) => return rest
  | some (_, .file names offset _) =>
    match (← get).tree.node? names with
    | some node => return (node.content?.toOption.getD []).drop offset
    | none => return []
  | _ => return []

/-- Passes over bytes of a descriptor. -/
def consume (fd : Nat) (count : Nat) : Act Unit := do
  match ← descriptor fd with
  | some (n, .source rest) => setOpen n (.source (rest.drop count))
  | some (n, .file names offset append) => setOpen n (.file names (offset + count) append)
  | _ => return ()

/-- Reads all that is left. -/
def readRest (fd : Nat) : Act Bytes := do
  let bytes ← available fd
  consume fd bytes.length
  return bytes

/-- Reads a line without its end; there is none where nothing is left. The flag says that it was ended. -/
def readLine? (fd : Nat) : Act (Option (List Char × Bool)) := do
  let bytes ← available fd
  if bytes.isEmpty then return none
  let (line, rest) := bytes.span (· ≠ 10)
  consume fd (line.length + (if rest.isEmpty then 0 else 1))
  return some ((Text.decodeLossy line).toList, !rest.isEmpty)

/-- What was collected in a buffer. -/
def collected (n : Nat) : Act Bytes := do
  match (← get).files.getD n .nothing with
  | .buffer chunks => return chunks.reverse.flatten
  | _ => return []

/-! ## Processes -/

/-- The process has a descriptor that leads to the output. -/
def holdsOutput : Act Bool := do
  let w ← get
  return w.proc.fds.any fun d =>
    match w.files.getD d.2 .nothing with
    | .output => true
    | _ => false

/-- Runs an action in a process of its own. Only its end is seen, and whether it held the output then. -/
def forkHolding (body : Act Unit) : Act (Ended × Bool) := do
  let w ← get
  let parent := w.proc
  let pid := w.nextPid
  set { w with
    nextPid := pid + 1
    proc := { parent with
      pid := pid
      parents := parent.pid :: parent.parents
      jobs := []
      traps := parent.traps.filter (·.2.isEmpty) } }
  let ended ← try
      body
      pure (Ended.exited (← get).proc.status)
    catch flow =>
      match flow with
      | .exit s | .ret s => pure (Ended.exited s)
      | .leave _ | .again _ => pure (Ended.exited (← get).proc.status)
      | .killed target signal => if target = pid then pure (Ended.killed signal) else throw flow
      | .expired => throw flow
  let holds ← holdsOutput
  changeProcess fun _ => parent
  return (ended, holds)

/-- Runs an action in a process of its own, of which only the end is seen. -/
def fork (body : Act Unit) : Act Ended := do
  return (← forkHolding body).1

/-- Runs an action and puts the descriptors back that it changes. -/
def keepingDescriptors (body : Act Unit) : Act Unit := do
  let old := (← get).proc.fds
  try body finally changeProcess fun p => { p with fds := old }

/-- Runs an action of which the outcome is only looked at, so that a failure does not end the shell. -/
def guarding (body : Act Unit) : Act Unit := do
  let old := (← get).proc.guarded
  changeProcess fun p => { p with guarded := true }
  try body finally changeProcess fun p => { p with guarded := old }

/-- Runs an action in a process of its own and collects what it writes. -/
def collect (body : Act Unit) : Act (Bytes × Ended) := do
  let n ← openNew (.buffer [])
  let ended ← fork do
    changeProcess fun p => p.point 1 (some n)
    body
  return (← collected n, ended)

/-- Runs an action beside what follows, with nothing to read. -/
def spawn (body : Act Unit) : Act Unit := do
  let null ← openNew .nothing
  let w ← get
  set { w with limit := never }
  let (status, ends, holds) ← try
      let (ended, holds) ← forkHolding do
        changeProcess fun p => p.point 0 (some null)
        body
      pure (ended.status, (← get).clock, holds)
    catch _ => pure (0, never, true)
  modify fun v => { v with
    clock := w.clock
    limit := w.limit
    held := if holds then (w.nextPid, ends) :: v.held else v.held
    proc := { w.proc with
      jobs := w.proc.jobs ++ [⟨w.nextPid, ends, status⟩]
      lastJob := some w.nextPid
      status := 0 } }

end Transcript.Shell
