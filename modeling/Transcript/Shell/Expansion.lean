import Transcript.Shell.Arithmetic

/-!
# Expanding words

Replaces parameters, command substitutions and arithmetic in words. What comes from an expansion outside
quotes is split into fields, and fields that are patterns become the names that they match.
-/

namespace Transcript.Shell

/-- A piece of an expanded word: text that stays together, text that may be split, or the border between
two arguments. -/
inductive Fragment where
  | kept (s : List Marked)
  | loose (s : List Char)
  | cut
deriving Repr

/-- Fragments as one text. -/
def fragmentsText (fs : List Fragment) : List Char :=
  fs.flatMap fun f =>
    match f with
    | .kept s => unmark s
    | .loose s => s
    | .cut => [' ']

/-- Fragments as one pattern. -/
def fragmentsPattern (fs : List Fragment) : List Marked :=
  fs.flatMap fun f =>
    match f with
    | .kept s => s
    | .loose s => mark false s
    | .cut => mark false [' ']

/-- Fields that are complete, last first, and the one that is open, last character first. -/
structure Splitting where
  done : List (List Marked) := []
  current : Option (List Marked) := none

/-- Ends the open field. -/
def Splitting.close (s : Splitting) : Splitting :=
  match s.current with
  | some f => ⟨f.reverse :: s.done, none⟩
  | none => s

/-- Adds a character to the open field. -/
def Splitting.add (s : Splitting) (m : Marked) : Splitting :=
  { s with current := some (m :: s.current.getD []) }

/-- Splits a text at separators; one that is no blank ends a field even when that is empty. -/
def Splitting.split (separators : List Char) (s : Splitting) (text : List Char) : Splitting :=
  text.foldl (fun s c =>
    if separators.contains c then
      if c.isWhitespace then s.close
      else { s with current := some (s.current.getD []) }.close
    else s.add ⟨c, false⟩) s

/-- The fields of fragments. -/
def fieldsOf (separators : List Char) (fs : List Fragment) : List (List Marked) :=
  let s : Splitting := fs.foldl (fun s f =>
    match f with
    | .kept ms => ms.foldl Splitting.add { s with current := some (s.current.getD []) }
    | .loose text => s.split separators text
    | .cut => s.close) {}
  s.close.done.reverse

/-- The characters that separate fields. -/
def Process.separators (p : Process) : List Char :=
  (p.value? "IFS".toList).getD [' ', '\t', '\n']

/-- The number of a parameter that is one. -/
def position? (name : List Char) : Option Nat :=
  if !name.isEmpty && name.all Char.isDigit then
    some (name.foldl (fun acc d => acc * 10 + (d.toNat - '0'.toNat)) 0)
  else none

/-- The value of a parameter. -/
def Process.parameter? (p : Process) (name : List Char) : Option (List Char) :=
  match position? name with
  | some 0 => some p.name
  | some n => p.args[n - 1]?
  | none =>
    match name with
    | ['#'] => some (toString p.args.length).toList
    | ['?'] => some (toString p.status).toList
    | ['$'] => some (toString p.shell).toList
    | ['!'] => p.lastJob.map fun n => (toString n).toList
    | ['-'] => some ((if p.stopOnError then ['e'] else []) ++ (if p.needSet then ['u'] else []))
    | ['@'] | ['*'] =>
      if p.args.isEmpty then none else some (List.intercalate [' '] p.args)
    | _ => p.value? name

/-- The fragments of a value. -/
def fragmentsOf (quoted : Bool) (s : List Char) : List Fragment :=
  if quoted then [.kept (mark true s)] else [.loose s]

/-- The fragments of all arguments. -/
def argumentFragments (p : Process) (joined quoted : Bool) : List Fragment :=
  if joined && quoted then
    let sep := p.separators.take 1
    [.kept (mark true (List.intercalate sep p.args))]
  else List.intercalate [.cut] (p.args.map (fragmentsOf quoted))

/-- A text without the ending, or without the beginning, that matches a pattern. -/
def dropMatch (atEnd longest : Bool) (pattern : List Marked) (s : List Char) : List Char :=
  let steps := Glob.steps pattern
  let cuts := List.range (s.length + 1)
  if atEnd then
    let cuts := if longest then cuts else cuts.reverse
    match cuts.find? fun n => Glob.matchSteps steps (s.drop n) with
    | some n => s.take n
    | none => s
  else
    let cuts := if longest then cuts.reverse else cuts
    match cuts.find? fun n => Glob.matchSteps steps (s.take n) with
    | some n => s.drop n
    | none => s

/-- Runs the source of a command substitution and gives what it writes. -/
abbrev Substitution := List Char → Act (List Char)

mutual

/-- The fragments of a part. -/
def expandPart (subst : Substitution) : Part → Act (List Fragment)
  | .text s quoted => return [.kept (mark quoted s)]
  | .command source quoted => do return fragmentsOf quoted (← subst source)
  | .arithmetic source quoted => do
    let fs ← expandParts subst source
    let n ← Arithmetic.evalText (fragmentsText fs)
    return fragmentsOf quoted (toString n).toList
  | .parameter name how operand quoted => do
    let p := (← get).proc
    let value := p.parameter? name
    let plain : List Fragment :=
      if name = ['@'] then argumentFragments p false quoted
      else if name = ['*'] then argumentFragments p true quoted
      else fragmentsOf quoted (value.getD [])
    let present (orEmpty : Bool) : Bool :=
      match value with
      | none => false
      | some v => !(orEmpty && v.isEmpty)
    match how with
    | .plain =>
      if name.isEmpty then
        grumble "Bad substitution"
        throw (.exit 2)
      if value.isNone && p.needSet && name != ['@'] && name != ['*'] then
        grumble (String.ofList name ++ ": parameter not set")
        throw (.exit 2)
      return plain
    | .length =>
      return fragmentsOf quoted (toString (value.getD []).length).toList
    | .orElse orEmpty => if present orEmpty then return plain else expandParts subst operand
    | .ifSet orEmpty => if present orEmpty then expandParts subst operand else return []
    | .orAssign orEmpty =>
      if present orEmpty then return plain
      else
        let text := fragmentsText (← expandParts subst operand)
        setValue name text
        return fragmentsOf quoted text
    | .orFail orEmpty =>
      if present orEmpty then return plain
      else
        let text := fragmentsText (← expandParts subst operand)
        let message := if text.isEmpty then "parameter not set" else String.ofList text
        grumble (String.ofList name ++ ": " ++ message)
        throw (.exit 2)
    | .dropEnd longest =>
      let pattern := fragmentsPattern (← expandParts subst operand)
      return fragmentsOf quoted (dropMatch true longest pattern (value.getD []))
    | .dropStart longest =>
      let pattern := fragmentsPattern (← expandParts subst operand)
      return fragmentsOf quoted (dropMatch false longest pattern (value.getD []))

/-- The fragments of several parts. -/
def expandParts (subst : Substitution) : List Part → Act (List Fragment)
  | [] => return []
  | p :: ps => do
    let f ← expandPart subst p
    let fs ← expandParts subst ps
    return f ++ fs

end

/-- A word with a leading tilde replaced by the home directory. -/
def replaceTilde (p : Process) (w : Word) : Word :=
  match w with
  | .text ('~' :: r) false :: ps =>
    if (r.isEmpty && ps.isEmpty) || r.head? == some '/' then
      .text ((p.value? "HOME".toList).getD ['~']) true :: .text r false :: ps
    else w
  | _ => w

/-- A word as one text. -/
def expandText (subst : Substitution) (w : Word) : Act (List Char) := do
  return fragmentsText (← expandParts subst (replaceTilde (← get).proc w))

/-- A word as a pattern. -/
def expandPattern (subst : Substitution) (w : Word) : Act (List Marked) := do
  return fragmentsPattern (← expandParts subst (replaceTilde (← get).proc w))

/-- The names that a field stands for: itself, or those that match it. -/
def globField (field : List Marked) : Act (List (List Char)) := do
  let w ← get
  if Glob.isPattern field && !w.proc.noGlob then
    match Glob.expand w.tree w.proc.cwd field with
    | [] => return [unmark field]
    | found => return found
  else return [unmark field]

/-- Only all arguments in quotes, which are no field where there are none. -/
def isQuotedArguments : Word → Bool
  | [.text [] true, .parameter ['@'] .plain _ true] => true
  | _ => false

/-- The fields of a word. -/
def expandWord (subst : Substitution) (w : Word) : Act (List (List Char)) := do
  let p := (← get).proc
  if isQuotedArguments w && p.args.isEmpty then return []
  let fs ← expandParts subst (replaceTilde p w)
  let fields := fieldsOf (← get).proc.separators fs
  return (← fields.mapM globField).flatten

/-- The fields of several words. -/
def expandWords (subst : Substitution) (ws : List Word) : Act (List (List Char)) := do
  return (← ws.mapM (expandWord subst)).flatten

end Transcript.Shell
