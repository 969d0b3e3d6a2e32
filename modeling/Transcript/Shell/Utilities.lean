import Transcript.Number.Power
import Transcript.Shell.Conditions
import Transcript.Shell.Filters

/-!
# Programs

The programs that can be run by name and need no others: the table of those for files, text and
conditions, and a few that tell about the process or only let time pass.
-/

namespace Transcript.Shell.Utilities

/-- A length of time as `sleep` reads it, in the unit of the clock. -/
def readTime? (s : List Char) : Option Nat :=
  if s = "infinity".toList || s = "inf".toList then some never
  else
    let (whole, r) := s.span Char.isDigit
    let (places, r) := match r with
      | '.' :: r => r.span Char.isDigit
      | r => ([], r)
    let unit? : Option Nat := match r with
      | [] | ['s'] => some 1
      | ['m'] => some 60
      | ['h'] => some 3600
      | ['d'] => some 86400
      | _ => none
    if whole.isEmpty && places.isEmpty then none
    else unit?.map fun unit =>
      Number.digitsValue (whole ++ places) * unit * second / Number.tenTo places.length

/-- `sleep`. -/
def sleep (args : List (List Char)) : Act Nat := do
  match args.mapM readTime? with
  | some [] =>
    complain "sleep: missing operand"
    return 1
  | some times =>
    pass (times.foldl (· + ·) 0)
    return 0
  | none =>
    complain "sleep: invalid time interval"
    return 1

/-- `printenv`: the variables that are handed on, or the values of those that are named. -/
def printenv (args : List (List Char)) : Act Nat := do
  let vars := (← get).proc.handedOn
  if args.isEmpty then
    let _ ← vars.reverse.mapM fun (n, v) => sayLine (n ++ '=' :: v.value)
    return 0
  FileTools.forEach args fun n => do
    match vars.lookup n with
    | some v =>
      sayLine v.value
      return true
    | none => return false

/-- `pwd`. -/
def pwd : Act Nat := do
  sayLine (← get).proc.cwd
  return 0

/-- `yes`, which ends when nobody reads on; so many lines are as good as all. -/
def yes (args : List (List Char)) : Act Nat := do
  let line := Printing.bytesOf (if args.isEmpty then ['y'] else List.intercalate [' '] args) ++ [10]
  let _ ← writeBytes 1 (List.replicate 5000 line).flatten
  return 0

/-- `id` for the numbers of the user. -/
def identity (args : List (List Char)) : Act Nat := do
  sayLine (if args.contains "-un".toList then "root".toList
    else if args.isEmpty then "uid=0(root) gid=0(root) groups=0(root)".toList else ['0'])
  return 0

/-- A program by its name. -/
def find? (name : String) : Option (List (List Char) → Act Nat) :=
  match name with
  | "echo" => some Printing.echoProgram
  | "printf" => some Printing.printfProgram
  | "seq" => some Printing.seq
  | "test" => some Conditions.test
  | "[" => some Conditions.bracket
  | "expr" => some Conditions.expr
  | "true" | "sync" => some fun _ => return 0
  | "false" => some fun _ => return 1
  | "cat" => some FileTools.cat
  | "ls" => some FileTools.ls
  | "mkdir" => some FileTools.mkdir
  | "rmdir" => some FileTools.rmdir
  | "rm" => some FileTools.rm
  | "touch" => some FileTools.touch
  | "cp" => some FileTools.cp
  | "mv" => some FileTools.mv
  | "ln" => some FileTools.ln
  | "chmod" => some FileTools.chmod
  | "head" => some Filters.head
  | "tail" => some Filters.tail
  | "wc" => some Filters.wc
  | "sort" => some Filters.sort
  | "uniq" => some Filters.uniq
  | "cut" => some Filters.cut
  | "tr" => some Filters.tr
  | "grep" => some Filters.grep
  | "egrep" => some fun args => Filters.grep ("-E".toList :: args)
  | "fgrep" => some fun args => Filters.grep ("-F".toList :: args)
  | "tee" => some Filters.tee
  | "rev" => some Filters.rev
  | "tac" => some Filters.tac
  | "nl" => some Filters.nl
  | "cksum" => some Filters.cksum
  | "basename" => some Filters.basename
  | "dirname" => some Filters.dirname
  | "sleep" => some sleep
  | "printenv" => some printenv
  | "pwd" => some fun _ => pwd
  | "yes" => some yes
  | "id" => some identity
  | "whoami" => some fun _ => do
    sayLine "root".toList
    return 0
  | _ => none

/-- The names of the programs in the table. -/
def names : List String :=
  ["echo", "printf", "seq", "test", "[", "expr", "true", "sync", "false", "cat", "ls", "mkdir", "rmdir",
    "rm", "touch", "cp", "mv", "ln", "chmod", "head", "tail", "wc", "sort", "uniq", "cut", "tr", "grep",
    "egrep", "fgrep", "tee", "rev", "tac", "nl", "cksum", "basename", "dirname", "sleep", "printenv",
    "pwd", "yes", "id", "whoami"]

end Transcript.Shell.Utilities
