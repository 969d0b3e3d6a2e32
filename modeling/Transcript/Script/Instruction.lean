import Transcript.Cause
import Transcript.Expectation
import Transcript.Number.Numeral

/-!
# Instructions

The instructions of a script and the forms of their lines. The first character of a line decides its
form; the words after it are separated by blank characters.
-/

namespace Transcript

open Number (Binary64)

/-- One step of a script. -/
inductive Instruction where
  | comment
  | setTimeout (secs : Binary64)
  | copyFile (dest src : List Char)
  | deleteFile (name : List Char)
  | runAndCheck (command : List Char) (expected : List (List Char)) (mode : Mode)
  | checkContent (name reference : List Char)
  | checkAbsent (name : List Char)
  | checkExists (name : List Char)
  | define (name value : List Char)
deriving DecidableEq, Repr, Inhabited

namespace Script

open Text (isBlank isAllBlank trimStart trimEnd spanWord)

/-- A line of a script: a whole instruction, or a command whose expected output follows. -/
inductive Form where
  | whole (i : Instruction)
  | command (text : List Char)
deriving DecidableEq, Repr

/-- A line that only the reader of a script passes over. -/
def isComment (raw : List Char) : Bool :=
  (trimStart raw).head? == some '#'

/-- The first word of a text. -/
def word? (s : List Char) : Option (List Char) :=
  match (spanWord (trimStart s)).1 with
  | [] => none
  | w => some w

/-- The first two words of a text. -/
def twoWords? (s : List Char) : Option (List Char × List Char) :=
  let (first, rest) := spanWord (trimStart s)
  if first.isEmpty then none else (word? rest).map (first, ·)

/-- The command of a line: up to the end of the line that its first word stands in. -/
def commandText (s : List Char) : List Char :=
  trimEnd ((trimStart s).takeWhile (· ≠ '\n'))

/-- A character that a name may begin with. -/
def isNameStart (c : Char) : Bool :=
  c.isAlpha || c == '_'

/-- A character of a name. -/
def isNameChar (c : Char) : Bool :=
  c.isAlphanum || c == '_'

/-- What stands before the last quote of a text, when only blank characters follow that quote. -/
def beforeLastQuote? (s : List Char) : Option (List Char) :=
  let (after, r) := s.reverse.span (· ≠ '"')
  match r with
  | _ :: before => if isAllBlank after then some before.reverse else none
  | [] => none

/-- A name and a value in quotes. -/
def definition? (s : List Char) : Option (List Char × List Char) :=
  match trimStart s with
  | [] => none
  | c :: r =>
    if isNameStart c then
      let (name, rest) := r.span isNameChar
      match trimStart rest with
      | '"' :: quoted =>
        match beforeLastQuote? quoted with
        | some value => if value.contains '\n' then none else some (c :: name, value)
        | none => none
      | _ => none
    else none

/-- The time limit of a word. -/
def timeLimit (w : List Char) : Except Fault Form :=
  match Number.readNumber? w with
  | some secs => if secs.isTime then .ok (.whole (.setTimeout secs)) else .error (.badTimeout w)
  | none => .error (.badTimeout w)

/-- A whole instruction, or a fault of line `line` when there is none. -/
def wholeOr (line : Nat) : Option Instruction → Except Fault Form
  | some i => .ok (.whole i)
  | none => .error (.malformed line)

/-- The form of a line in which references have been replaced. -/
def readForm (line : Nat) (s : List Char) : Except Fault Form :=
  if isAllBlank s then .ok (.whole .comment)
  else match s with
    | 'T' :: r =>
      match word? r with
      | some w => timeLimit w
      | none => .error (.malformed line)
    | '+' :: r => wholeOr line ((twoWords? r).map fun w => .copyFile w.1 w.2)
    | '-' :: r => wholeOr line ((word? r).map .deleteFile)
    | '>' :: r => .ok (.command (commandText r))
    | '=' :: r => wholeOr line ((twoWords? r).map fun w => .checkContent w.1 w.2)
    | '*' :: r => wholeOr line ((word? r).map .checkAbsent)
    | 'E' :: r => wholeOr line ((word? r).map .checkExists)
    | 'D' :: r => wholeOr line ((definition? r).map fun d => .define d.1 d.2)
    | _ => .error (.malformed line)

end Script

end Transcript
