import Transcript.Number.Numeral
import Transcript.Shell.World

/-!
# Signals

The signals with their names, and what becomes of a process that gets one: a trap of its own, nothing,
or its end.
-/

namespace Transcript.Shell

/-- A signal. -/
structure Signal where
  number : Nat
  name : String
  description : String
deriving Repr

namespace Signal

/-- The signals that there are. -/
def all : List Signal :=
  [⟨1, "HUP", "Hangup"⟩, ⟨2, "INT", "Interrupt"⟩, ⟨3, "QUIT", "Quit"⟩,
    ⟨4, "ILL", "Illegal instruction"⟩, ⟨5, "TRAP", "Trace/breakpoint trap"⟩, ⟨6, "ABRT", "Aborted"⟩,
    ⟨7, "BUS", "Bus error"⟩, ⟨8, "FPE", "Floating point exception"⟩, ⟨9, "KILL", "Killed"⟩,
    ⟨10, "USR1", "User defined signal 1"⟩, ⟨11, "SEGV", "Segmentation fault"⟩,
    ⟨12, "USR2", "User defined signal 2"⟩, ⟨13, "PIPE", "Broken pipe"⟩, ⟨14, "ALRM", "Alarm clock"⟩,
    ⟨15, "TERM", "Terminated"⟩, ⟨16, "STKFLT", "Stack fault"⟩, ⟨17, "CHLD", "Child exited"⟩,
    ⟨18, "CONT", "Continued"⟩, ⟨19, "STOP", "Stopped (signal)"⟩, ⟨20, "TSTP", "Stopped"⟩,
    ⟨21, "TTIN", "Stopped (tty input)"⟩, ⟨22, "TTOU", "Stopped (tty output)"⟩,
    ⟨23, "URG", "Urgent I/O condition"⟩, ⟨24, "XCPU", "CPU time limit exceeded"⟩,
    ⟨25, "XFSZ", "File size limit exceeded"⟩, ⟨26, "VTALRM", "Virtual timer expired"⟩,
    ⟨27, "PROF", "Profiling timer expired"⟩, ⟨28, "WINCH", "Window changed"⟩,
    ⟨29, "POLL", "I/O possible"⟩, ⟨30, "PWR", "Power failure"⟩, ⟨31, "SYS", "Bad system call"⟩]

/-- The signal of a number. -/
def ofNumber? (n : Nat) : Option Signal :=
  all.find? fun s => s.number = n

/-- The signal of a name or of a number. -/
def ofText? (s : List Char) : Option Signal :=
  if !s.isEmpty && s.all Char.isDigit then ofNumber? (Number.digitsValue s)
  else
    let name := String.ofList (s.map Char.toUpper)
    all.find? fun g => g.name = name

/-- Nothing comes of the signal where nothing was set for it. -/
def isHarmless (n : Nat) : Bool :=
  [17, 18, 23, 28].contains n

/-- The signal stops a process without ending it. -/
def isStop (n : Nat) : Bool :=
  [19, 20, 21, 22].contains n

end Signal

/-- The name under which a trap is kept, for the name or number that it is given with. -/
def trapName? (s : List Char) : Option String :=
  if s = ['0'] || s.map Char.toUpper = "EXIT".toList then some "EXIT"
  else (Signal.ofText? s).map Signal.name

/-- What a shell says about a child that a signal ended. -/
def reportEnd (ended : Ended) : Act Unit := do
  match ended with
  | .exited _ => return ()
  | .killed n =>
    if n = 2 || n = 13 then return ()
    complain ((Signal.ofNumber? n).elim "Unknown signal" Signal.description)

end Transcript.Shell
