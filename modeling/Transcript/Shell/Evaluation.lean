import Transcript.Shell.Builtins
import Transcript.Shell.Parser
import Transcript.Shell.Redirection

/-!
# Running commands

Carries out commands: simple ones by the shell itself, by functions and by programs that are found
through the search path, and those that combine others. A fuel bounds how deep commands are nested and
how often a loop goes round; where it is used up, the time is taken to be up too.
-/

namespace Transcript.Shell

/-- The most rounds of a loop. -/
def roundLimit : Nat := 100000

/-- How deep commands can be nested. -/
def depthLimit : Nat := 2000

/-- The last command succeeded. -/
def succeeded : Act Bool := return (← get).proc.status = 0

/-- Ends the shell after a failure where it was told to. -/
def stopIfFailed : Act Unit := do
  let p := (← get).proc
  if p.stopOnError && !p.guarded && p.status ≠ 0 then throw (.exit p.status)

/-! ## Loops -/

/-- Goes round as long as rounds say so; each is handed the status of the one before. -/
def repeatRounds (round : Nat → Act (Nat × Bool)) : Nat → Nat → Act Unit
  | 0, _ => throw .expired
  | fuel + 1, last => do
    let (status, more) ← round last
    if more then repeatRounds round fuel status else setStatus status

/-- Runs the body of a loop; the result says whether the loop goes on. -/
def runBody (body : Act Unit) : Act Bool := do
  try
    body
    return true
  catch flow =>
    match flow with
    | .leave n => if n ≤ 1 then return false else throw (.leave (n - 1))
    | .again n => if n ≤ 1 then return true else throw (.again (n - 1))
    | flow => throw flow

/-- A round of a loop with a condition. -/
def conditionRound (untilTrue : Bool) (test body : Act Unit) (last : Nat) : Act (Nat × Bool) := do
  let more ← runBody do
    guarding test
    if (← succeeded) = untilTrue then
      setStatus last
      throw (.leave 1)
    body
  return ((← get).proc.status, more)

/-- Runs a body for each word. -/
def forWords (name : List Char) (body : Act Unit) : List (List Char) → Act Unit
  | [] => return ()
  | w :: ws => do
    Builtins.assign name w
    if ← runBody body then forWords name body ws

/-- Runs something inside one more loop. -/
def inLoop (body : Act Unit) : Act Unit := do
  let old := (← get).proc.loops
  changeProcess fun p => { p with loops := old + 1 }
  try body finally changeProcess fun p => { p with loops := old }

/-! ## Pipelines -/

/-- Runs stages of which each reads what the one before has written. All start at the same time, and the
last gives the status. -/
def runStages (start : Nat) : Option Nat → List (Act Unit) → Act Nat
  | _, [] => return 0
  | input, stage :: rest => do
    let before := (← get).clock
    modify fun w => { w with clock := start }
    let output ← if rest.isEmpty then pure none else some <$> openNew (.buffer [])
    let ended ← fork do
      changeProcess fun p =>
        let p := if input.isSome then p.point 0 input else p
        if output.isSome then p.point 1 output else p
      stage
    modify fun w => { w with clock := max before w.clock }
    match output with
    | none => return ended.status
    | some n =>
      setOpen n (.source (← collected n))
      runStages start (some n) rest

/-! ## Choices -/

/-- The first branch with a pattern that matches. -/
def choose (subst : Substitution) (value : List Char) :
    List (List Word × Command) → Act (Option Command)
  | [] => return none
  | (patterns, body) :: rest => do
    let ps ← patterns.mapM (expandPattern subst)
    if ps.any fun p => Glob.isMatch p value then return some body
    choose subst value rest

/-! ## Assignments -/

/-- Carries out an assignment. -/
def assignWord (subst : Substitution) (a : List Char × Word) : Act Unit := do
  Builtins.assign a.1 (← expandText subst a.2)

/-- Marks variables to be handed on. -/
def exportNames (names : List (List Char)) : Act Unit :=
  changeProcess fun p =>
    { p with vars := p.vars.map fun v =>
        if names.contains v.1 then (v.1, { v.2 with exported := true }) else v }

/-- Runs something with assignments that hold only for it. -/
def withAssignments (subst : Substitution) (assigns : List (List Char × Word)) (body : Act Unit) :
    Act Unit := do
  let vars := (← get).proc.vars
  let old := assigns.map fun a => (a.1, vars.lookup a.1)
  assigns.forM (assignWord subst)
  exportNames (assigns.map Prod.fst)
  try body finally Builtins.restore old

/-! ## Programs -/

/-- What a search for a program comes to. -/
inductive Found where
  | program (path : List Char) (node : Node)
  | refused (isFile : Bool)
  | missing
deriving Repr

/-- The paths that a name can stand for: itself if it has a slash, and else one for each directory that is
searched. -/
def placesOf (p : Process) (name : List Char) : List (List Char) :=
  if name.contains '/' then [name]
  else (Text.splitAt ':' ((p.value? "PATH".toList).getD "/bin:/usr/bin".toList)).map fun d =>
    if d.isEmpty then Path.join ['.'] name else Path.join d name

/-- The first path that leads to a program. -/
def searchPlaces (t : FileTree) (cwd : List Char) : List (List Char) → Found
  | [] => .missing
  | path :: rest =>
    match t.find (FileTree.absolute cwd path) with
    | .ok (_, .program name) => .program path (.program name)
    | .ok (_, .file content true) => .program path (.file content true)
    | .ok (_, node) =>
      match searchPlaces t cwd rest with
      | .program path node => .program path node
      | .refused true => .refused true
      | _ => .refused (match node with | .file .. => true | _ => false)
    | .error _ => searchPlaces t cwd rest

/-- The program that a name stands for. -/
def findProgram (name : List Char) : Act Found := do
  let w ← get
  return searchPlaces w.tree w.proc.cwd (placesOf w.proc name)

/-- The interpreter that the first line of a script names, with the one argument that it can have. -/
def interpreter? (content : Text.Bytes) : Option (List Char × Option (List Char)) :=
  match content with
  | 35 :: 33 :: r =>
    let isGap (c : Char) : Bool := c == ' ' || c == '\t'
    let line := (Text.decodeLossy (r.takeWhile (· ≠ 10))).toList
    let (path, arg) := (line.dropWhile isGap).span fun c => !isGap c
    let arg := Text.trimEndWhile isGap (arg.dropWhile isGap)
    if path.isEmpty then none else some (path, if arg.isEmpty then none else some arg)
  | _ => none

/-! ## Shells -/

/-- The letters of the options of a shell, and what follows them. -/
def shellOptions : List (List Char) → List Char × List (List Char)
  | ['-', '-'] :: r => ([], r)
  | ['-', 'o'] :: _ :: r => shellOptions r
  | ('-' :: c :: cs) :: r =>
    let (letters, rest) := shellOptions r
    (c :: cs ++ letters, rest)
  | ('+' :: _ :: _) :: r => shellOptions r
  | r => ([], r)

/-- The variables that a shell starts with: those it is handed, and a few of its own. -/
def startVariables (p : Process) : List (List Char × Variable) :=
  let handed := p.handedOn
  let own : List (List Char × Variable) :=
    [("IFS".toList, { value := [' ', '\t', '\n'] }), ("OPTIND".toList, { value := ['1'] }),
      ("PS1".toList, { value := "# ".toList }), ("PS2".toList, { value := "> ".toList }),
      ("PS4".toList, { value := "+ ".toList }), ("PATH".toList, { value := searchPath }),
      ("PPID".toList, { value := (toString (p.parents.headD 1)).toList })]
  let handed := handed.filter fun v => v.1 ≠ "PWD".toList
  ("PWD".toList, { value := p.cwd, exported := true }) ::
    handed ++ own.filter fun v => (handed.lookup v.1).isNone

/-- The process as a new shell. -/
def Process.restart (p : Process) (name : List Char) (args : List (List Char)) (letters : List Char) :
    Process :=
  { vars := startVariables p, name, args, cwd := p.cwd, fds := p.fds
    pid := p.pid, parents := p.parents, shell := p.pid
    traps := p.traps.filter (·.2.isEmpty)
    stopOnError := letters.contains 'e', needSet := letters.contains 'u'
    noGlob := letters.contains 'f', trace := letters.contains 'x' }

/-- Runs something as a shell does: leaving it is its end, and a trap for the end is carried out. -/
def asShell (run : List Char → Act Unit) (body : Act Unit) : Act Unit := do
  let settle (act : Act Unit) : Act Unit := do
    try act
    catch flow =>
      match flow with
      | .exit s | .ret s => setStatus s
      | .leave _ | .again _ => return ()
      | flow => throw flow
  settle body
  let p := (← get).proc
  match p.traps.lookup "EXIT" with
  | none => return ()
  | some action =>
    changeProcess fun p => { p with traps := p.traps.filter (·.1 ≠ "EXIT") }
    settle do
      run action
      setStatus p.status

/-! ## Commands that run others -/

/-- Reads and runs a file in the shell itself. -/
def runFile (run : List Char → Act Unit) (args : List (List Char)) : Act Nat := do
  match args with
  | [] => Builtins.abort ".: filename argument required"
  | name :: _ =>
    let w ← get
    let content? := (placesOf w.proc name).findSome? fun path =>
      (w.tree.read (FileTree.absolute w.proc.cwd path)).toOption
    match content? with
    | none => Builtins.abort (".: cannot open " ++ String.ofList name ++ ": No such file")
    | some bytes =>
      setStatus 0
      try run (Text.decodeLossy bytes).toList
      catch flow =>
        match flow with
        | .ret s => setStatus s
        | flow => throw flow
      return (← get).proc.status

/-- The commands inside the shell that a function cannot take the place of. -/
def specialWith (run : List Char → Act Unit) (name : String) : Option (List (List Char) → Act Nat) :=
  match name with
  | "." => some (runFile run)
  | "eval" => some fun args => do
    setStatus 0
    run (List.intercalate [' '] args)
    return (← get).proc.status
  | _ => Builtins.special? name

/-- Tells what names stand for: in a sentence for each, or by what can be run under the name. -/
def describe (inSentences : Bool) (names : List (List Char)) : Act Nat := do
  let oks ← names.mapM fun n => do
    let p := (← get).proc
    let text := String.ofList n
    let tell (what : String) (short : List Char) : Act Bool := do
      sayLine (if inSentences then n ++ what.toList else short)
      return true
    if (p.functions.lookup n).isSome then tell " is a shell function" n
    else if text = "exec" || (specialWith (fun _ => return ()) text).isSome then
      tell " is a special shell builtin" n
    else if ["kill", "command", "type"].contains text || (Builtins.regular? text).isSome then
      tell " is a shell builtin" n
    else match ← findProgram n with
      | .program path _ => tell (" is " ++ String.ofList path) path
      | _ =>
        if inSentences then complain (text ++ ": not found")
        return false
  return if oks.all id then 0 else 127

/-- The other commands inside the shell. -/
def regularWith (run : List Char → Act Unit) (call : List Char → List (List Char) → Act Nat)
    (name : String) : Option (List (List Char) → Act Nat) :=
  match name with
  | "kill" => some (Builtins.kill run)
  | "type" => some (describe true)
  | "command" => some fun args =>
    match args with
    | ['-', 'v'] :: names => describe false names
    | ['-', 'V'] :: names => describe true names
    | ['-', 'p'] :: name :: args | name :: args =>
      match specialWith run (String.ofList name) with
      | some f => f args
      | none =>
        match Builtins.regular? (String.ofList name) with
        | some f => f args
        | none => call name args
    | [] => return 0
  | _ => Builtins.regular? name

/-- The variables that `env` sets, and the command that it runs. -/
def setEnvironment : List (List Char) → Act (List (List Char))
  | ['-', 'i'] :: r | ['-'] :: r => do
    changeProcess fun p => { p with vars := [] }
    setEnvironment r
  | ['-', 'u'] :: name :: r => do
    changeProcess fun p => { p with vars := p.vars.filter fun v => v.1 ≠ name }
    setEnvironment r
  | a :: r => do
    match Builtins.splitAssignment a with
    | (name, some v) =>
      changeProcess fun p => p.setVar name { value := v, exported := true }
      setEnvironment r
    | (_, none) => return a :: r
  | [] => return []

/-- Runs something that has to end within a time of its own. -/
def within (nanos : Nat) (body : Act Nat) : Act Nat := do
  let w ← get
  let own := w.clock + nanos
  if w.limit ≤ own then body
  else
    modify fun w => { w with limit := own }
    try
      let status ← body
      modify fun v => { v with limit := w.limit }
      return status
    catch flow =>
      modify fun v => { v with limit := w.limit }
      match flow with
      | .expired =>
        modify fun v => { v with clock := own, proc := w.proc }
        return 124
      | flow => throw flow

/-- The words of a text. -/
def wordsOf (s : List Char) : List (List Char) :=
  (Text.splitAt ' ' (s.map fun c => if c.isWhitespace then ' ' else c)).filter (!·.isEmpty)

mutual

/-- Runs a command. -/
def runCommand : Nat → Command → Act Unit
  | 0, _ => throw .expired
  | fuel + 1, command =>
    match command with
    | .simple line assigns words redirects => do
      runSimple fuel line assigns words redirects
      stopIfFailed
    | .pipeline stages => do
      setStatus (← runStages (← get).clock none (stages.map fun c => runCommand fuel c))
      stopIfFailed
    | .negated body => do
      guarding (runCommand fuel body)
      setStatus (if ← succeeded then 1 else 0)
    | .both first second => do
      guarding (runCommand fuel first)
      if ← succeeded then runCommand fuel second
    | .either first second => do
      guarding (runCommand fuel first)
      if !(← succeeded) then runCommand fuel second
    | .sequence first second => do
      runCommand fuel first
      runCommand fuel second
    | .background body =>
      let run (redirects : List Redirect) (c : Command) : Act Unit := do
        if ← redirectAll (substitute fuel) redirects then runCommand fuel c else setStatus 2
      spawn <| asShell (fun s => runSource fuel s) <|
        match body with
        | .simple line assigns words redirects => run redirects (.simple line assigns words [])
        | .redirected inner redirects => run redirects inner
        | body => run [] body
    | .subshell body => do
      let ended ← fork (asShell (fun s => runSource fuel s) (runCommand fuel body))
      reportEnd ended
      setStatus ended.status
      stopIfFailed
    | .redirected body redirects => keepingDescriptors do
      if ← redirectAll (substitute fuel) redirects then runCommand fuel body else setStatus 2
    | .conditional test body otherwise => do
      guarding (runCommand fuel test)
      if ← succeeded then runCommand fuel body
      else match otherwise with
        | some c => runCommand fuel c
        | none => setStatus 0
    | .loop untilTrue test body => inLoop do
      repeatRounds (conditionRound untilTrue (runCommand fuel test) (runCommand fuel body)) roundLimit 0
    | .forEach name words body => do
      let values ← match words with
        | some ws => expandWords (substitute fuel) ws
        | none => pure (← get).proc.args
      setStatus 0
      inLoop (forWords name (runCommand fuel body) values)
    | .choice word branches => do
      let value ← expandText (substitute fuel) word
      match ← choose (substitute fuel) value branches with
      | some c => runCommand fuel c
      | none => setStatus 0
    | .function name body => do
      changeProcess fun p =>
        { p with functions := (name, body) :: p.functions.filter (·.1 ≠ name) }
      setStatus 0

/-- Runs a simple command. -/
def runSimple : Nat → Nat → List (List Char × Word) → List Word → List Redirect → Act Unit
  | 0, _, _, _, _ => throw .expired
  | fuel + 1, line, assigns, words, redirects => do
    changeProcess fun p => { p with line, substituted := none }
    let subst := substitute fuel
    let redirected (act : Act Unit) : Act Unit := keepingDescriptors do
      if ← redirectAll subst redirects then act else setStatus 2
    let expanded ← expandWords subst words
    if (← get).proc.trace && !expanded.isEmpty then
      complain (String.ofList ("+ ".toList ++ List.intercalate [' '] expanded))
    match expanded with
    | [] => redirected do
      assigns.forM (assignWord subst)
      setStatus ((← get).proc.substituted.getD 0)
    | ['e', 'x', 'e', 'c'] :: args =>
      if !(← redirectAll subst redirects) then throw (.exit 2)
      assigns.forM (assignWord subst)
      match args with
      | [] => setStatus 0
      | name :: args =>
        exportNames (assigns.map Prod.fst)
        changeProcess fun p => { p with traps := p.traps.filter (·.2.isEmpty) }
        throw (.exit (← execute fuel name args))
    | name :: args =>
      let run (s : List Char) : Act Unit := runSource fuel s
      match specialWith run (String.ofList name) with
      | some f => keepingDescriptors do
        if !(← redirectAll subst redirects) then throw (.exit 2)
        assigns.forM (assignWord subst)
        setStatus (← f args)
      | none =>
        match (← get).proc.functions.lookup name with
        | some body => redirected <| withAssignments subst assigns (runFunction fuel body args)
        | none =>
          let call (name : List Char) (args : List (List Char)) : Act Nat := do
            match ← findProgram name with
            | .refused false =>
              grumble (String.ofList name ++ ": Permission denied")
              return if name.contains '/' then 126 else 127
            | _ =>
              let ended ← fork do throw (.exit (← execute fuel name args))
              reportEnd ended
              return ended.status
          match regularWith run call (String.ofList name) with
          | some f => redirected <| withAssignments subst assigns do setStatus (← f args)
          | none => redirected <| withAssignments subst assigns do setStatus (← call name args)

/-- Runs a function: it has its own arguments and can have variables of its own. -/
def runFunction : Nat → Command → List (List Char) → Act Unit
  | 0, _, _ => throw .expired
  | fuel + 1, body, args => do
    let old := (← get).proc
    changeProcess fun p => { p with args, loops := 0, locals := some [] }
    try runCommand fuel body
    catch flow =>
      match flow with
      | .ret s => setStatus s
      | flow => throw flow
    finally
      Builtins.restore ((← get).proc.locals.getD [])
      changeProcess fun p => { p with args := old.args, loops := old.loops, locals := old.locals }

/-- Runs the commands of a source, line by line. -/
def runSource : Nat → List Char → Act Unit
  | 0, _ => throw .expired
  | fuel + 1, s => do
    let source := parse s
    source.lines.forM fun c => runCommand fuel c
    if !source.wellFormed then Builtins.abort "Syntax error"

/-- What the commands of a source write, without the ends of lines at its end. -/
def substitute : Nat → List Char → Act (List Char)
  | 0, _ => throw .expired
  | fuel + 1, s => do
    let (bytes, ended) ← collect do
      setStatus 0
      runSource fuel s
    changeProcess fun p => { p with substituted := some ended.status }
    return Text.trimEndWhile (· == '\n')
      (Text.decodeLossy (bytes.filter fun b => b ≠ 0)).toList

/-- Runs a program in the place of the process and gives its status. -/
def execute : Nat → List Char → List (List Char) → Act Nat
  | 0, _, _ => throw .expired
  | fuel + 1, name, args => do
    pass startTime
    match ← findProgram name with
    | .program path node => load fuel name path args node
    | .refused _ =>
      grumble (String.ofList name ++ ": Permission denied")
      return 126
    | .missing =>
      grumble (String.ofList name ++ ": not found")
      return 127

/-- Runs what was found: a program of its own, or a script by its interpreter or else by the shell. -/
def load : Nat → List Char → List Char → List (List Char) → Node → Act Nat
  | 0, _, _, _, _ => throw .expired
  | fuel + 1, name, path, args, node =>
    match node with
    | .program tool => runTool fuel name tool args
    | .file content _ =>
      match interpreter? content with
      | none => runShell fuel path args [] (Text.decodeLossy content).toList
      | some (interpreter, arg) => do
        let w ← get
        match searchPlaces w.tree w.proc.cwd [interpreter] with
        | .program _ node => load fuel interpreter interpreter (arg.toList ++ path :: args) node
        | .refused _ =>
          grumble (String.ofList name ++ ": Permission denied")
          return 126
        | .missing =>
          grumble (String.ofList name ++ ": not found")
          return 127
    | _ => return 126

/-- Runs a program by its own name. -/
def runTool : Nat → List Char → String → List (List Char) → Act Nat
  | 0, _, _, _ => throw .expired
  | fuel + 1, name, tool, args =>
    match tool with
    | "sh" => do
      let (letters, args) := shellOptions args
      if letters.contains 'c' then
        match args with
        | [] =>
          complain (String.ofList name ++ ": 0: -c requires an argument")
          return 2
        | source :: args => runShell fuel (args.headD name) args.tail letters source
      else
        match args with
        | file :: args =>
          if letters.contains 's' then
            runShell fuel name (file :: args) letters (Text.decodeLossy (← readRest 0)).toList
          else match (← get).tree.read (← pathOf file) with
            | .ok bytes => runShell fuel file args letters (Text.decodeLossy bytes).toList
            | .error .isDirectory => return 0
            | .error e =>
              complain (String.ofList name ++ ": 0: cannot open " ++ String.ofList file ++ ": " ++
                refusalText false e)
              return 2
        | [] => runShell fuel name [] letters (Text.decodeLossy (← readRest 0)).toList
    | "env" => do
      match ← setEnvironment args with
      | [] => Utilities.printenv []
      | name :: args => execute fuel name args
    | "nohup" | "nice" | "setsid" =>
      match args with
      | name :: args => execute fuel name args
      | [] => return 125
    | "timeout" =>
      match args with
      | time :: name :: args =>
        match Utilities.readTime? time with
        | some nanos => within nanos do
          let ended ← fork do throw (.exit (← execute fuel name args))
          return ended.status
        | none => return 125
      | _ => return 125
    | "xargs" => do
      let words := wordsOf (Text.decodeLossy (← readRest 0)).toList
      match args with
      | name :: args => execute fuel name (args ++ words)
      | [] => execute fuel "echo".toList words
    | "kill" => Builtins.kill (fun _ => return ()) args
    | tool =>
      match Utilities.find? tool with
      | some f => f args
      | none => return 0

/-- Runs a source in a new shell. -/
def runShell : Nat → List Char → List (List Char) → List Char → List Char → Act Nat
  | 0, _, _, _, _ => throw .expired
  | fuel + 1, name, args, letters, source => do
    changeProcess fun p => p.restart name args letters
    asShell (fun s => runSource fuel s) (runSource fuel source)
    return (← get).proc.status

end

end Transcript.Shell
