import Transcript.Subject
import Transcript.Text.Utf8

/-!
# Deadlines

Watches a child process: it is polled until it has ended, is lost sight of, or has run for too long. What
it wrote counts only when all of it has come before the time is up. A child is never left behind: either
it was seen to end, or it is killed and waited for.
-/

namespace Transcript.Deadline

/-- How a child ends. -/
inductive Ending where
  | exited (code : Int)
  | signalled (number : Int)
deriving DecidableEq, Repr

/-- What a poll finds. -/
inductive Poll where
  | running
  | ended (how : Ending)
  | lost (cause : SystemError)
deriving DecidableEq, Repr

/-- A poll with the time that has passed, in nanoseconds. -/
structure Reading where
  poll : Poll
  elapsed : Nat
deriving DecidableEq, Repr

/-- What is done to a child. -/
inductive Act where
  | poll
  | kill
  | wait
deriving DecidableEq, Repr

/-- What watching a child comes to, and what was done to the child, in order. -/
structure Watched where
  outcome : Except Mishap RunOutcome
  acts : List Act

/-- The same with one more poll before. -/
def Watched.behindPoll (w : Watched) : Watched :=
  { w with acts := .poll :: w.acts }

/-- What an end means; `output` gives all that is written, if it comes within a number of nanoseconds. -/
def outcomeOf (output : Nat → Option Text.Bytes) (remaining : Nat) : Ending → RunOutcome
  | .exited 0 =>
    match output remaining with
    | some bytes => .success (Text.decodeLossy bytes).toList
    | none => .timedOut
  | .exited code => .exited code
  | .signalled number => .signalled number

/-- Goes through polls up to the one that decides. -/
def await (timeout : Duration) (output : Nat → Option Text.Bytes) : List Reading → Option Watched
  | [] => none
  | r :: rest =>
    match r.poll with
    | .lost cause => some ⟨.error (.lost cause), [.poll, .kill, .wait]⟩
    | .ended how => some ⟨.ok (outcomeOf output (timeout.nanos - r.elapsed) how), [.poll]⟩
    | .running =>
      if timeout.nanos < r.elapsed then some ⟨.ok .timedOut, [.poll, .kill, .wait]⟩
      else (await timeout output rest).map .behindPoll

/-- The time of the first poll. -/
def firstPoll : Nat := 20000

/-- The time between two polls. -/
def pollInterval : Nat := 10000000

/-- The time of a poll. -/
def pollTime (k : Nat) : Nat := firstPoll + k * pollInterval

/-- The first poll that is not before a time. -/
def pollFrom (time : Nat) : Nat := (time - firstPoll + (pollInterval - 1)) / pollInterval

/-- The time of the poll that kills a child which is still running. -/
def killTime (timeout : Duration) : Nat := pollTime (pollFrom (timeout.nanos + 1))

/-- The poll that decides, for a child that ends at a time or runs on. -/
def decisive (timeout : Duration) (ending : Option (Ending × Nat)) : Reading :=
  match ending with
  | none => ⟨.running, killTime timeout⟩
  | some (how, time) =>
    let seen := pollTime (pollFrom time)
    if killTime timeout < seen then ⟨.running, killTime timeout⟩ else ⟨.ended how, seen⟩

end Transcript.Deadline
