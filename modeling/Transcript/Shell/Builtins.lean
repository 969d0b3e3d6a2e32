import Transcript.Shell.Expansion
import Transcript.Shell.Lexer
import Transcript.Shell.Signal
import Transcript.Shell.Utilities

/-!
# Commands inside the shell

The commands that change the shell itself and need not run others: its directory, variables, arguments,
options, traps and jobs. Each gives its status.
-/

namespace Transcript.Shell.Builtins

/-- A mistake that ends the shell. -/
def abort {α : Type} (message : String) : Act α := do
  grumble message
  throw (.exit 2)

/-- A number that has to be one. -/
def numberOf (program : String) (s : List Char) : Act Nat := do
  if s.isEmpty || !s.all Char.isDigit then
    abort (program ++ ": Illegal number: " ++ String.ofList s)
  return Number.digitsValue s

/-! ## Directory -/

/-- The names of an absolute path with its steps upwards carried out. -/
def simplify (path : List Char) : List Char :=
  let names := (Path.pieces path).foldl (fun (acc : List (List Char)) n =>
    if n = ['.'] then acc else if n = ['.', '.'] then acc.tail else n :: acc) []
  '/' :: List.intercalate ['/'] names.reverse

/-- `cd`. -/
def cd (args : List (List Char)) : Act Nat := do
  let p := (← get).proc
  let home := (p.value? "HOME".toList).getD []
  let before := (p.value? "OLDPWD".toList).getD []
  let (target, shown) := match args.filter fun a => a ≠ "-P".toList && a ≠ "-L".toList with
    | [] => (home, false)
    | ['-'] :: _ => (before, true)
    | a :: _ => (a, false)
  if target.isEmpty then return 0
  let path := simplify (Path.join p.cwd target)
  if (← get).tree.isDirectory path then
    setValue "OLDPWD".toList p.cwd
    setValue "PWD".toList path
    changeProcess fun p => { p with cwd := path }
    if shown then sayLine path
    return 0
  grumble ("cd: can't cd to " ++ String.ofList target)
  return 2

/-! ## Variables -/

/-- A name and the value after the first equals sign. -/
def splitAssignment (s : List Char) : List Char × Option (List Char) :=
  match s.span (· ≠ '=') with
  | (n, _ :: v) => (n, some v)
  | (n, []) => (n, none)

/-- A name that a variable can have. -/
def isName (s : List Char) : Bool :=
  match s with
  | c :: cs => isNameStart c && cs.all isNameChar
  | [] => false

/-- Sets a variable that can be set. -/
def assign (name value : List Char) : Act Unit := do
  match (← get).proc.vars.lookup name with
  | some old => if old.readOnly then abort (String.ofList name ++ ": is read only")
  | none => pure ()
  setValue name value

/-- Sets variables and changes how they are kept. -/
def declare (program : String) (mark : Variable → Variable) (args : List (List Char)) : Act Nat := do
  let _ ← (args.filter fun a => a ≠ "-p".toList).mapM fun a => do
    let (name, value) := splitAssignment a
    if !isName name then abort (program ++ ": " ++ String.ofList name ++ ": bad variable name")
    match value with
    | some v => assign name v
    | none => pure ()
    changeProcess fun p =>
      match p.vars.lookup name with
      | some v => p.setVar name (mark v)
      | none => p
  return 0

/-- `unset`. -/
def unset (args : List (List Char)) : Act Nat := do
  let functions := args.head? == some "-f".toList
  let names := args.filter fun a => a.head? != some '-'
  changeProcess fun p =>
    if functions then { p with functions := p.functions.filter fun f => !names.contains f.1 }
    else { p with vars := p.vars.filter fun v => !names.contains v.1 }
  return 0

/-- `local`: the old values come back when the function ends. -/
def declareLocal (args : List (List Char)) : Act Nat := do
  match (← get).proc.locals with
  | none => abort "local: not in a function"
  | some _ =>
    let _ ← args.mapM fun a => do
      let (name, value) := splitAssignment a
      changeProcess fun p =>
        { p with locals := p.locals.map fun l => (name, p.vars.lookup name) :: l }
      match value with
      | some v => assign name v
      | none => pure ()
    return 0

/-- Gives variables their old values back. -/
def restore (old : List (List Char × Option Variable)) : Act Unit :=
  changeProcess fun p => old.foldl (fun p (name, v) =>
    match v with
    | some v => p.setVar name v
    | none => { p with vars := p.vars.filter fun w => w.1 ≠ name }) p

/-! ## Reading -/

/-- A line without its backslashes, which take characters away from their meaning. -/
def unescapeLine : List Char → List Marked
  | '\\' :: c :: r => ⟨c, true⟩ :: unescapeLine r
  | c :: r => ⟨c, false⟩ :: unescapeLine r
  | [] => []

/-- The fields of a line, at most a number of them: the last takes what is left. -/
def lineFields (separators : List Char) : Nat → List Marked → List (List Char)
  | 0, _ => []
  | fuel + 1, s =>
    let isBlank (m : Marked) : Bool := !m.quoted && separators.contains m.char && m.char.isWhitespace
    let isEnd (m : Marked) : Bool := !m.quoted && separators.contains m.char
    let s := s.dropWhile isBlank
    if fuel = 0 then [unmark (s.reverse.dropWhile isBlank).reverse]
    else
      let (field, r) := s.span fun m => !isEnd m
      let r := r.dropWhile isBlank
      let r := match r with
        | m :: t => if isEnd m then t else r
        | [] => r
      unmark field :: lineFields separators fuel r

/-- `read`. -/
def readLineInto (args : List (List Char)) : Act Nat := do
  let raw := args.contains "-r".toList
  let names := args.filter fun a => a.head? != some '-'
  let names := if names.isEmpty then ["REPLY".toList] else names
  let (line, ended) := (← readLine? 0).getD ([], false)
  let marked := if raw then mark false line else unescapeLine line
  let fields := lineFields (← get).proc.separators names.length marked
  let _ ← names.zipIdx.mapM fun (n, k) => assign n (fields.getD k [])
  return if ended then 0 else 1

/-! ## Arguments and options -/

/-- Switches the options whose letters are given. -/
def switch (on : Bool) (letters : List Char) : Act Unit :=
  changeProcess fun p =>
    { p with
      stopOnError := if letters.contains 'e' then on else p.stopOnError
      needSet := if letters.contains 'u' then on else p.needSet
      noGlob := if letters.contains 'f' then on else p.noGlob
      trace := if letters.contains 'x' then on else p.trace }

/-- `set`. -/
def setArguments : List (List Char) → Act Nat
  | [] => return 0
  | ['-', '-'] :: args => do
    changeProcess fun p => { p with args }
    return 0
  | ['-', 'o'] :: name :: args => do
    switch true (if name = "errexit".toList then ['e'] else if name = "nounset".toList then ['u'] else [])
    setArguments args
  | ('-' :: c :: cs) :: args => do
    switch true (c :: cs)
    setArguments args
  | ('+' :: c :: cs) :: args => do
    switch false (c :: cs)
    setArguments args
  | args => do
    changeProcess fun p => { p with args }
    return 0

/-- `shift`. -/
def shift (args : List (List Char)) : Act Nat := do
  let n ← match args with
    | [] => pure 1
    | a :: _ => numberOf "shift" a
  if (← get).proc.args.length < n then abort "shift: can't shift that many"
  changeProcess fun p => { p with args := p.args.drop n }
  return 0

/-! ## Leaving -/

/-- `break` and `continue`. -/
def leaveLoop (again : Bool) (args : List (List Char)) : Act Nat := do
  let n ← match args with
    | [] => pure 1
    | a :: _ => numberOf (if again then "continue" else "break") a
  let loops := (← get).proc.loops
  if loops = 0 then return 0
  setStatus 0
  let levels := min n loops
  throw (if again then .again levels else .leave levels)

/-- The status that is given, or else that of the last command. -/
def statusOf (program : String) (args : List (List Char)) : Act Nat := do
  match args with
  | [] => return (← get).proc.status
  | a :: _ => return (← numberOf program a) % 256

/-! ## Signals and jobs -/

/-- `trap`. -/
def trap (args : List (List Char)) : Act Nat := do
  let args := if args.head? == some "--".toList then args.tail else args
  let set (action : Option (List Char)) (signals : List (List Char)) : Act Nat := do
    let names := signals.filterMap trapName?
    changeProcess fun p =>
      { p with traps :=
          (action.toList.flatMap fun a => names.map fun n => (n, a)) ++
            p.traps.filter fun t => !names.contains t.1 }
    return if names.length = signals.length then 0 else 1
  match args with
  | [] => return 0
  | [signal] => set none [signal]
  | ['-'] :: signals => set none signals
  | action :: signals =>
    if action.all Char.isDigit && !action.isEmpty then set none args
    else set (some action) signals

/-- Ends a job at this time. -/
def endJob (pid signal : Nat) : Act Unit :=
  modify fun w =>
    { w with
      held := w.held.map fun h => if h.1 = pid then (pid, min h.2 w.clock) else h
      proc := { w.proc with
        jobs := w.proc.jobs.map fun j =>
          if j.pid = pid && w.clock < j.ends then ⟨pid, w.clock, 128 + signal⟩ else j } }

/-- Sends a signal to a process; `run` is what carries out a trap. The result says whether there is such a
process. -/
def send (run : List Char → Act Unit) (signal target : Nat) : Act Bool := do
  let p := (← get).proc
  if p.jobs.any (·.pid = target) then
    if !Signal.isHarmless signal && signal ≠ 0 then endJob target signal
    return true
  if target ≠ p.pid && !p.parents.contains target then return false
  if signal = 0 then return true
  let name := (Signal.ofNumber? signal).elim "" Signal.name
  match if signal = 9 || signal = 19 then none else p.traps.lookup name with
  | some [] => return true
  | some action =>
    run action
    return true
  | none =>
    if Signal.isHarmless signal then return true
    if Signal.isStop signal then throw .expired
    throw (.killed target signal)

/-- The signal and the targets of `kill`. -/
def killArguments : List (List Char) → Option (Nat × List (List Char))
  | ['-', 's'] :: name :: targets => (Signal.ofText? name).map fun s => (s.number, targets)
  | ['-', '-'] :: targets => some (15, targets)
  | ('-' :: c :: cs) :: targets =>
    if c :: cs = ['0'] then some (0, targets)
    else (Signal.ofText? (c :: cs)).map fun s => (s.number, targets)
  | targets => some (15, targets)

/-- `kill`. -/
def kill (run : List Char → Act Unit) (args : List (List Char)) : Act Nat := do
  if args.head? == some "-l".toList then
    sayLine (List.intercalate ['\n'] (args.tail.map fun n =>
      (Signal.ofText? n).elim n fun s => s.name.toList))
    return 0
  match killArguments args with
  | none =>
    grumble "kill: invalid signal number or name"
    return 2
  | some (_, []) =>
    grumble "kill: Usage: kill [-s sigspec | -signum | -sigspec] [pid | job]..."
    return 2
  | some (signal, targets) =>
    match targets.find? fun t => t.isEmpty || !t.all Char.isDigit with
    | some t =>
      grumble ("kill: Illegal number: " ++ String.ofList t)
      return 2
    | none =>
      let oks ← targets.mapM fun t => do
        let found ← send run signal (Number.digitsValue t)
        if !found then grumble "kill: No such process\n"
        return found
      return if oks.all id then 0 else 1

/-- `wait`. -/
def wait (args : List (List Char)) : Act Nat := do
  let pids := args.filterMap fun a => if a.all Char.isDigit then some (Number.digitsValue a) else none
  let w ← get
  let (waited, others) := w.proc.jobs.partition fun j => pids.isEmpty || pids.contains j.pid
  pass ((waited.foldl (fun t j => max t j.ends) w.clock) - w.clock)
  changeProcess fun p => { p with jobs := others }
  if pids.isEmpty then return 0
  match pids.getLast?.bind fun n => waited.find? (·.pid = n) with
  | some job => return job.status
  | none => return 127

/-! ## Tables -/

/-- The commands that a function cannot take the place of, as far as they need no others: an assignment in
front of them stays, and a mistake in them ends the shell. -/
def special? (name : String) : Option (List (List Char) → Act Nat) :=
  match name with
  | ":" | "times" => some fun _ => return 0
  | "break" => some (leaveLoop false)
  | "continue" => some (leaveLoop true)
  | "exit" => some fun args => do throw (.exit (← statusOf "exit" args))
  | "return" => some fun args => do throw (.ret (← statusOf "return" args))
  | "export" => some (declare "export" fun v => { v with exported := true })
  | "readonly" => some (declare "readonly" fun v => { v with readOnly := true })
  | "set" => some setArguments
  | "shift" => some shift
  | "trap" => some trap
  | "unset" => some unset
  | _ => none

/-- The other commands inside the shell, as far as they need no others. -/
def regular? (name : String) : Option (List (List Char) → Act Nat) :=
  match name with
  | "cd" => some cd
  | "pwd" => some fun _ => Utilities.pwd
  | "read" => some readLineInto
  | "wait" => some wait
  | "local" => some declareLocal
  | "echo" => some Printing.echoBuiltin
  | "printf" => some Printing.printfBuiltin
  | "test" => some Conditions.test
  | "[" => some Conditions.bracket
  | "true" => some fun _ => return 0
  | "false" => some fun _ => return 1
  | "umask" => some fun args => do
    if args.isEmpty then sayLine "0022".toList
    return 0
  | "ulimit" | "hash" | "alias" | "unalias" | "jobs" | "fg" | "bg" => some fun _ => return 0
  | _ => none

end Transcript.Shell.Builtins
