import Transcript.Pattern.Elaborate
import Transcript.Pattern.Program

/-!
# Searching

Looks for the first match of a pattern program in a text: of the places where a match can begin the
leftmost one, and there the way that the forks prefer. No instruction is tried twice at the same place,
since a second visit cannot succeed where the first has failed; this bounds the number of steps by the
size of the program times the length of the text.
-/

namespace Transcript.Pattern

/-- A place in the middle of a search: an instruction, a position in the text, and the positions saved
on the way, last first. -/
structure Thread where
  pc : Nat
  pos : Nat
  saved : List (Nat × Nat)
deriving Repr

/-- The character before a position. -/
def charBefore? (text : Array Char) (pos : Nat) : Option Char :=
  if pos = 0 then none else text[pos - 1]?

/-- A character of a word stands here. -/
def isWordAt (unicode : Bool) : Option Char → Bool
  | none => false
  | some c => if unicode then Unicode.wordCharacters.contains c else c.isAlphanum || c == '_'

/-- The condition holds between two characters, of which either may be lacking. -/
def Look.holds (before after : Option Char) : Look → Bool
  | .start => before.isNone
  | .stop => after.isNone
  | .startLine => before.all (· == '\n')
  | .endLine => after.all (· == '\n')
  | .startLineReturn => before.all (· == '\n') || (before == some '\r' && after != some '\n')
  | .endLineReturn => after.all (· == '\r') || (after == some '\n' && before != some '\r')
  | .word unicode negated => (isWordAt unicode before != isWordAt unicode after) != negated
  | .wordStart unicode => !isWordAt unicode before && isWordAt unicode after
  | .wordEnd unicode => isWordAt unicode before && !isWordAt unicode after
  | .wordStartHalf unicode => !isWordAt unicode before
  | .wordEndHalf unicode => !isWordAt unicode after

/-- What comes after one instruction. -/
inductive Step where
  | accept
  | goOn (threads : List Thread)

/-- Runs the instruction of a thread. The threads that it leads to come in the order of preference. -/
def Program.step (p : Program) (text : Array Char) (t : Thread) : Step :=
  match p.code[t.pc]? with
  | some .accept => .accept
  | some (.char c next) =>
    if text[t.pos]? == some c then .goOn [⟨next, t.pos + 1, t.saved⟩] else .goOn []
  | some (.set s next) =>
    if text[t.pos]?.any s.contains then .goOn [⟨next, t.pos + 1, t.saved⟩] else .goOn []
  | some (.look l next) =>
    if l.holds (charBefore? text t.pos) text[t.pos]? then .goOn [⟨next, t.pos, t.saved⟩]
    else .goOn []
  | some (.save slot next) => .goOn [⟨next, t.pos, (slot, t.pos) :: t.saved⟩]
  | some (.fork first second) => .goOn [⟨first, t.pos, t.saved⟩, ⟨second, t.pos, t.saved⟩]
  | some .fail | none => .goOn []

/-- The places that were visited: for each instruction a number with a bit for each position. -/
abbrev Visited := Array Nat

/-- This place was visited. -/
def Visited.has (v : Visited) (t : Thread) : Bool :=
  (v.getD t.pc 0).testBit t.pos

/-- Notes a place. -/
def Visited.add (v : Visited) (t : Thread) : Visited :=
  v.setIfInBounds t.pc (v.getD t.pc 0 ||| 1 <<< t.pos)

/-- Runs threads, the first one first, until one accepts; the result is what it has saved. -/
def Program.run (p : Program) (text : Array Char) : Nat → Visited → List Thread →
    Option (List (Nat × Nat))
  | 0, _, _ => none
  | _ + 1, _, [] => none
  | fuel + 1, v, t :: ts =>
    if v.has t then p.run text fuel v ts
    else match p.step text t with
      | .accept => some t.saved
      | .goOn more => p.run text fuel (v.add t) (more ++ ts)

/-- The positions saved by the first match in a text. -/
def Program.search (p : Program) (text : Array Char) : Option (List (Nat × Nat)) :=
  let places := text.size + 1
  let starts := (List.range places).map fun pos => ⟨p.entry, pos, []⟩
  p.run text (2 * p.code.size * places + places + 1) (Array.replicate p.code.size 0) starts

/-- The text of a group; empty when it took no part in the match. -/
def groupText (text : Array Char) (saved : List (Nat × Nat)) (index : Nat) : List Char :=
  match saved.lookup (2 * index), saved.lookup (2 * index + 1) with
  | some first, some last => (text.extract first last).toList
  | _, _ => []

/-- The texts of the groups of the first match of an expression; the whole match is group 0. -/
def Expr.find? (e : Expr) (s : List Char) : Option (List (List Char)) :=
  let text := s.toArray
  (e.program.search text).map fun saved => (List.range e.groupCount).map (groupText text saved)

/-- The expression of a pattern's text, if it is a pattern and not too large. -/
def compile [Dialect] (pattern : List Char) : Except PatternError Expr :=
  match Expr.read pattern with
  | .ok e => if Dialect.tooLarge pattern e then .error .tooLarge else .ok e
  | .error err => .error err

/-- The text of a pattern that begins its match where the text begins. -/
def anchored (pattern : List Char) : List Char :=
  "^(?:".toList ++ pattern ++ [')']

/-- The groups of a match of a pattern at the beginning of a text. What is no pattern never matches. -/
def groupsAtStart? [Dialect] (pattern candidate : List Char) : Option (List (List Char)) :=
  match compile (anchored pattern) with
  | .ok e => e.find? candidate
  | .error _ => none

end Transcript.Pattern
