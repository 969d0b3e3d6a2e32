import Transcript.Number.Numeral
import Transcript.Subject

/-!
# Settings

What a suite can set, and how it is settled: a value of the command line goes before one of the file,
and either before the default.
-/

namespace Transcript

open Number (Binary64)

/-- Values that are set, by a file or on the command line. -/
structure Settings where
  timeout : Option Binary64 := none
  subject : Option (List Char) := none
  programs : Option (List Char) := none
  references : Option (List Char) := none
  workRoot : Option (List Char) := none
  keep : Bool := false
deriving DecidableEq, Repr, Inhabited

/-- What a run goes by. -/
structure Configuration where
  subject : Subject
  references : List Char
  workRoot : List Char
  timeout : Duration
  keep : Bool
deriving DecidableEq, Repr

namespace Settings

/-- Five seconds. -/
def defaultTimeout : Binary64 := .ofNat 5

/-- A time limit that cannot be used. -/
structure BadTimeout where
  secs : Binary64
deriving DecidableEq, Repr

/-- The text about a time limit that cannot be used. -/
def BadTimeout.message (bad : BadTimeout) : String :=
  "bad timeout: " ++ String.ofList (Number.writeNumber bad.secs)

/-- The configuration of a file's settings under those of the command line. -/
def resolve (file line : Settings) : Except BadTimeout Configuration :=
  let timeout := (line.timeout.or file.timeout).getD defaultTimeout
  if timeout.isTime then
    .ok {
      subject := {
        invocation := (line.subject.or file.subject).getD []
        programs := line.programs.or file.programs }
      references := (line.references.or file.references).getD "src".toList
      workRoot := (line.workRoot.or file.workRoot).getD ".".toList
      timeout := .ofSeconds timeout
      keep := line.keep || file.keep }
  else .error ⟨timeout⟩

end Settings

end Transcript
