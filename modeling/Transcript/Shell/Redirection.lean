import Transcript.Shell.Expansion

/-!
# Redirections

Opens what the words of redirections name and lets descriptors lead there.
-/

namespace Transcript.Shell

open Transcript.Path (Name)

/-- What a shell says about a file that it cannot open or make. -/
def refusalText (making : Bool) : SystemError → String
  | .missing | .notDirectory => if making then "Directory nonexistent" else "No such file"
  | e => e.reason

/-- Opens a file for reading. -/
def openForReading (path : List Char) : Act (Except SystemError OpenFile) := do
  match (← get).tree.find (← pathOf path) with
  | .error e => return .error e
  | .ok (names, .file ..) => return .ok (.file names 0 false)
  | .ok (_, .program name) => return .ok (.source ((Node.program name).content?.toOption.getD []))
  | .ok _ => return .ok .nothing

/-- Opens a file for writing; what is in it goes away unless something is to be added. -/
def openForWriting (kind : RedirectKind) (path : List Char) : Act (Except SystemError OpenFile) := do
  let t := (← get).tree
  match t.writable (← pathOf path) with
  | .error e => return .error e
  | .ok (names, old) =>
    let opened : OpenFile := .file names 0 (kind == .append)
    match old with
    | some (.file ..) =>
      if kind == .write then modify fun w => { w with tree := t.fill names old [] false }
      return .ok opened
    | none =>
      modify fun w => { w with tree := t.fill names old [] false }
      return .ok opened
    | some (.program _) => return .error (.described "Text file busy")
    | some _ => return .ok .nothing

/-- Lets a descriptor lead to what was opened, or complains. -/
def pointAt (making : Bool) (fd : Nat) (path : List Char) (opened : Except SystemError OpenFile) :
    Act Bool := do
  match opened with
  | .ok f =>
    let n ← openNew f
    changeProcess fun p => p.point fd (some n)
    return true
  | .error e =>
    grumble ((if making then "cannot create " else "cannot open ") ++ String.ofList path ++ ": " ++
      refusalText making e)
    return false

/-- Carries out a redirection; false when it is not possible. -/
def redirect (subst : Substitution) (r : Redirect) : Act Bool := do
  let text ← expandText subst r.word
  match r.kind with
  | .read => pointAt false r.fd text (← openForReading text)
  | .write | .append | .readWrite => pointAt true r.fd text (← openForWriting r.kind text)
  | .content =>
    let n ← openNew (.source (Text.encode (String.ofList text)))
    changeProcess fun p => p.point r.fd (some n)
    return true
  | .duplicate =>
    if text = ['-'] then
      changeProcess fun p => p.point r.fd none
      return true
    let fds := (← get).proc.fds
    match (position? text).bind fun n => fds.lookup n with
    | some n =>
      changeProcess fun p => p.point r.fd (some n)
      return true
    | none =>
      grumble (String.ofList text ++ ": Bad file descriptor")
      return false

/-- Carries out redirections in their order, up to the first that is not possible. -/
def redirectAll (subst : Substitution) : List Redirect → Act Bool
  | [] => return true
  | r :: rs => do if ← redirect subst r then redirectAll subst rs else return false

end Transcript.Shell
