import Transcript.Shell.World

/-!
# Programs for files

`cat`, `ls`, `mkdir`, `rmdir`, `rm`, `touch`, `cp`, `mv`, `ln` and `chmod`. A program that cannot do what
it is asked to for one file says so, goes on with the others, and ends with status 1.
-/

namespace Transcript.Shell.FileTools

open Text (Bytes)

/-- The letters of options, and the other arguments; two hyphens end the options. -/
def options : List (List Char) → List Char × List (List Char)
  | ['-', '-'] :: r => ([], r)
  | ('-' :: '-' :: _) :: r => options r
  | ('-' :: c :: cs) :: r =>
    let (opts, rest) := options r
    (c :: cs ++ opts, rest)
  | a :: r =>
    let (opts, rest) := options r
    (opts, a :: rest)
  | [] => ([], [])

/-- A name as complaints show it. -/
def shown (path : List Char) : String :=
  "'" ++ String.ofList path ++ "'"

/-- Does something for each argument; the status is 1 when it fails for one. -/
def forEach (args : List (List Char)) (f : List Char → Act Bool) : Act Nat := do
  let oks ← args.mapM f
  return if oks.all id then 0 else 1

/-- Changes the tree, or complains. -/
def change (complaint : String) (f : FileTree → Except SystemError FileTree) : Act Bool := do
  match f (← get).tree with
  | .ok t =>
    modify fun w => { w with tree := t }
    return true
  | .error e =>
    complain (complaint ++ ": " ++ e.reason)
    return false

/-- The content of a file, or of the input for a hyphen. -/
def contentOf (program : String) (arg : List Char) : Act (Option Bytes) := do
  if arg = ['-'] then return some (← readRest 0)
  match (← get).tree.read (← pathOf arg) with
  | .ok bytes => return some bytes
  | .error e =>
    complain (program ++ ": " ++ String.ofList arg ++ ": " ++ e.reason)
    return none

/-- Lines with their numbers in front. -/
def numbered (bytes : Bytes) : Bytes :=
  (bytes.splitBy fun a _ => a ≠ 10).zipIdx.flatMap fun (line, k) =>
    let n := Nat.toDigits 10 (k + 1)
    Text.encode (String.ofList (List.replicate (6 - n.length) ' ' ++ n ++ ['\t'])) ++ line

/-- `cat`. -/
def cat (args : List (List Char)) : Act Nat := do
  let (opts, files) := options args
  forEach (if files.isEmpty then [['-']] else files) fun f => do
    match ← contentOf "cat" f with
    | some bytes =>
      let bytes := if opts.contains 'n' then numbered bytes else bytes
      if !bytes.isEmpty then let _ ← writeBytes 1 bytes
      return true
    | none => return false

/-- The names in a directory as `ls` shows them. -/
def listed (all almost : Bool) (names : List (List Char)) : List (List Char) :=
  (if all then [['.'], ['.', '.']] else []) ++
    names.filter fun n => all || almost || n.head? != some '.'

/-- `ls`. -/
def ls (args : List (List Char)) : Act Nat := do
  let (opts, files) := options args
  let files := (if files.isEmpty then [['.']] else files).mergeSort Path.nameLe
  let asEntry := opts.contains 'd'
  let w ← get
  let there ← files.filterM fun f => do
    match w.tree.locate false (← pathOf f) with
    | .ok (.taken ..) => return true
    | .ok (.free _) =>
      complain ("ls: cannot access " ++ shown f ++ ": " ++ SystemError.missing.reason)
      return false
    | .error e =>
      complain ("ls: cannot access " ++ shown f ++ ": " ++ e.reason)
      return false
  let (dirs, others) := there.partition fun f =>
    !asEntry && w.tree.isDirectory (FileTree.absolute w.proc.cwd f)
  let _ ← others.mapM sayLine
  let titled := 1 < files.length
  let _ ← dirs.zipIdx.mapM fun (d, k) => do
    if titled then
      if 0 < k || !others.isEmpty then sayLine []
      sayLine (d ++ [':'])
    match w.tree.list (← pathOf d) with
    | .ok names =>
      let _ ← (listed (opts.contains 'a') (opts.contains 'A') names).mapM sayLine
    | .error _ => pure ()
  return if there.length = files.length then 0 else 2

/-- `mkdir`. -/
def mkdir (args : List (List Char)) : Act Nat := do
  let (opts, dirs) := options args
  if dirs.isEmpty then
    complain "mkdir: missing operand"
    return 1
  forEach dirs fun d => do
    let path ← pathOf d
    change ("mkdir: cannot create directory " ++ shown d) fun t =>
      if opts.contains 'p' then t.makeDirectories path else t.makeDirectory path

/-- `rmdir`. -/
def rmdir (args : List (List Char)) : Act Nat := do
  let (_, dirs) := options args
  forEach dirs fun d => do
    let path ← pathOf d
    change ("rmdir: failed to remove " ++ shown d) fun t => t.removeDirectory path

/-- The last name of a path is a point or two, which cannot be removed. -/
def endsInPoints (path : List Char) : Bool :=
  match (Path.pieces path).getLast? with
  | some n => n == ['.'] || n == ['.', '.']
  | none => true

/-- `rm`. -/
def rm (args : List (List Char)) : Act Nat := do
  let (opts, files) := options args
  let deep := opts.contains 'r' || opts.contains 'R'
  let force := opts.contains 'f'
  if files.isEmpty && !force then
    complain "rm: missing operand"
    return 1
  forEach files fun f => do
    let path ← pathOf f
    if deep && endsInPoints f then
      complain ("rm: refusing to remove '.' or '..' directory: skipping " ++ shown f)
      return false
    match (← get).tree.locate false path with
    | .ok (.taken _ .directory) =>
      change ("rm: cannot remove " ++ shown f) fun t =>
        if deep then t.removeAll path else .error .isDirectory
    | .ok (.taken ..) => change ("rm: cannot remove " ++ shown f) fun t => t.removeFile path
    | .ok (.free _) | .error .missing | .error .notDirectory =>
      if force then return true
      complain ("rm: cannot remove " ++ shown f ++ ": " ++ SystemError.missing.reason)
      return false
    | .error e =>
      complain ("rm: cannot remove " ++ shown f ++ ": " ++ e.reason)
      return false

/-- `touch`. -/
def touch (args : List (List Char)) : Act Nat := do
  let (opts, files) := options args
  forEach files fun f => do
    let path ← pathOf f
    if (← get).tree.pathExists path || opts.contains 'c' then return true
    change ("touch: cannot touch " ++ shown f) fun t =>
      match t.write path [] with
      | .error .isDirectory => .error .missing
      | r => r

/-- A path inside a directory when the path is one: what is put there keeps its name. -/
def into (target source : List Char) : Act (List Char) := do
  let path ← pathOf target
  if (← get).tree.isDirectory path then
    return Path.join path ((Path.fileName? source).getD [])
  return path

/-- The last argument and those before it. -/
def splitLast (args : List (List Char)) : Option (List (List Char) × List Char) :=
  match args.reverse with
  | last :: first :: r => some ((first :: r).reverse, last)
  | _ => none

/-- A tree with what is below some names also below others. -/
def copyBelow (t : FileTree) (source dest : List Path.Name) : FileTree :=
  t.entries.foldl (fun t e =>
    if source.isPrefixOf e.1 then t.put (dest ++ e.1.drop source.length) e.2 else t) t

/-- Copies one file or directory. -/
def copyOne (source target : List Char) (t : FileTree) : Except SystemError FileTree := do
  let (names, node) ← t.find source
  match node with
  | .directory =>
    match t.locate false target with
    | .ok (.free dest) => return copyBelow t names dest
    | .ok (.taken dest .directory) => return copyBelow t names dest
    | .ok (.taken ..) => throw .notDirectory
    | .error e => throw e
  | _ => t.copy source target

/-- `cp`. -/
def cp (args : List (List Char)) : Act Nat := do
  let (opts, files) := options args
  let deep := opts.contains 'r' || opts.contains 'R' || opts.contains 'a'
  match splitLast files with
  | none =>
    complain "cp: missing file operand"
    return 1
  | some (sources, target) =>
    forEach sources fun s => do
      let source ← pathOf s
      let dest ← into target s
      match (← get).tree.find source with
      | .error e =>
        complain ("cp: cannot stat " ++ shown s ++ ": " ++ e.reason)
        return false
      | .ok (_, node) =>
        if node = .directory && !deep then
          complain ("cp: -r not specified; omitting directory " ++ shown s)
          return false
        change ("cp: cannot create regular file " ++ shown target) (copyOne source dest)

/-- Moves what is at one path to another. -/
def moveOne (source target : List Char) (t : FileTree) : Except SystemError FileTree := do
  match ← t.locate false source, ← t.locate false target with
  | .taken names node, .free dest =>
    match node with
    | .directory => return (copyBelow t names dest).eraseBelow names
    | _ => return (t.erase names).put dest node
  | .taken names node, .taken dest old =>
    if names = dest then return t
    match node, old with
    | .directory, .directory => throw .notEmpty
    | .directory, _ => throw .notDirectory
    | _, .directory => throw .isDirectory
    | _, _ => return (t.erase names).put dest node
  | .free _, _ => throw .missing

/-- `mv`. -/
def mv (args : List (List Char)) : Act Nat := do
  let (_, files) := options args
  match splitLast files with
  | none =>
    complain "mv: missing file operand"
    return 1
  | some (sources, target) =>
    forEach sources fun s => do
      let source ← pathOf s
      let dest ← into target s
      match (← get).tree.locate false source with
      | .ok (.taken ..) =>
        change ("mv: cannot move " ++ shown s ++ " to " ++ shown target) (moveOne source dest)
      | .ok (.free _) | .error _ =>
        complain ("mv: cannot stat " ++ shown s ++ ": " ++ SystemError.missing.reason)
        return false

/-- `ln`. -/
def ln (args : List (List Char)) : Act Nat := do
  let (opts, files) := options args
  let (target, name) := match files with
    | [target] => (target, ['.'])
    | target :: name :: _ => (target, name)
    | [] => ([], [])
  if target.isEmpty then
    complain "ln: missing file operand"
    return 1
  let dest ← into name target
  if opts.contains 'f' then
    modify fun w => { w with tree := (w.tree.removeFile dest).toOption.getD w.tree }
  let source ← pathOf target
  let ok ← change ("ln: failed to create link " ++ shown name) fun t =>
    if opts.contains 's' then t.link target dest
    else match t.locate false dest with
      | .ok (.taken ..) => .error .exists
      | _ => t.copy source dest
  return if ok then 0 else 1

/-- What a mode makes of the permission to run a file: it gives it, takes it away, or leaves it. -/
def executableAfter? (mode : List Char) : Option (Option Bool) :=
  if !mode.isEmpty && mode.all Char.isDigit then
    some (some ((mode.reverse.take 3).any fun d => d.toNat % 2 = 1))
  else
    let changes := mode.dropWhile fun c => "ugoa".toList.contains c
    match changes with
    | '+' :: r => some (if r.contains 'x' then some true else none)
    | '-' :: r => some (if r.contains 'x' then some false else none)
    | '=' :: r => some (some (r.contains 'x'))
    | _ => none

/-- `chmod`. -/
def chmod (args : List (List Char)) : Act Nat := do
  let args := args.filter fun a => a ≠ ['-', 'R'] && a ≠ ['-', 'f']
  match args with
  | mode :: files =>
    match executableAfter? mode with
    | none =>
      complain ("chmod: invalid mode: " ++ shown mode)
      return 1
    | some x =>
      forEach files fun f => do
        let path ← pathOf f
        change ("chmod: cannot access " ++ shown f) fun t =>
          match x with
          | some x => t.setExecutable path x
          | none => (t.find path).map fun _ => t
  | [] =>
    complain "chmod: missing operand"
    return 1

end Transcript.Shell.FileTools
