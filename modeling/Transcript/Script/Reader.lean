import Transcript.Script.Instruction

/-!
# Reading scripts

Reads one instruction at a time. Every line but a comment is expanded before its form is looked at; the
expansion may keep a state. A command takes the lines after it along, up to the line that ends its
expected output.
-/

namespace Transcript.Script

open Text (trimEnd)

/-- Replaces the references of a line, with a state that is passed on. -/
abbrev Expander (σ : Type) := List Char → σ → Except Fault (List Char) × σ

/-- An expansion that keeps no state. -/
def Expander.ofFunction (expand : List Char → Except Fault (List Char)) : Expander Unit :=
  fun line _ => (expand line, ())

/-- The lines of a script that have not been read, and the number of those that have. -/
structure Reader where
  rest : List (List Char)
  line : Nat := 0
deriving DecidableEq, Repr

/-- A reader at the beginning of a script. -/
def Reader.ofText (text : List Char) : Reader := ⟨Text.lines text, 0⟩

/-- The line that ends expected output, with what it says about the lines before it. -/
def terminator? (s : List Char) : Option Mode :=
  match s with
  | ['<', '<', '<'] => some .exact
  | ['<', '<', '<', '*'] => some .pattern
  | _ => none

/-- What a call of the reader gives: what was read, the reader and the state afterwards. -/
structure Reading (σ : Type) (α : Type) where
  result : Except Fault α
  reader : Reader
  state : σ

/-- Reads expected output; `line` lines were read before and `expected` has those of this block, last
first. -/
def readBlock {σ : Type} (expand : Expander σ) (command : List Char) (expected : List (List Char))
    (state : σ) (line : Nat) : List (List Char) → Reading σ Instruction
  | [] => ⟨.error (.unterminated command), ⟨[], line⟩, state⟩
  | raw :: rest =>
    let s := trimEnd raw
    match terminator? s with
    | some mode => ⟨.ok (.runAndCheck command expected.reverse mode), ⟨rest, line + 1⟩, state⟩
    | none =>
      match expand s state with
      | (.ok e, next) => readBlock expand command (e :: expected) next (line + 1) rest
      | (.error fault, next) => ⟨.error fault, ⟨rest, line + 1⟩, next⟩

/-- Reads the next instruction; none is left at the end of the script. -/
def Reader.next {σ : Type} (r : Reader) (expand : Expander σ) (state : σ) :
    Reading σ (Option Instruction) :=
  match r.rest with
  | [] => ⟨.ok none, r, state⟩
  | raw :: rest =>
    let reader : Reader := ⟨rest, r.line + 1⟩
    if isComment raw then ⟨.ok (some .comment), reader, state⟩
    else
      match expand raw state with
      | (.error fault, state) => ⟨.error fault, reader, state⟩
      | (.ok s, state) =>
        match readForm reader.line s with
        | .error fault => ⟨.error fault, reader, state⟩
        | .ok (.whole i) => ⟨.ok (some i), reader, state⟩
        | .ok (.command text) =>
          let block := readBlock expand text [] state reader.line rest
          ⟨block.result.map some, block.reader, block.state⟩

/-- Why a script cannot be read, and at which line. -/
structure Misread where
  line : Nat
  fault : Fault
deriving DecidableEq, Repr

/-- The number of instructions of a script that are not comments, its references taken as they stand;
`fuel` bounds the number of calls. -/
def countFrom : Nat → Nat → Reader → Except Misread Nat
  | 0, count, _ => .ok count
  | fuel + 1, count, r =>
    let reading := r.next (Expander.ofFunction .ok) ()
    match reading.result with
    | .error fault => .error ⟨reading.reader.line, fault⟩
    | .ok none => .ok count
    | .ok (some .comment) => countFrom fuel count reading.reader
    | .ok (some _) => countFrom fuel (count + 1) reading.reader

/-- The number of instructions of a script that are not comments. -/
def count (text : List Char) : Except Misread Nat :=
  let r := Reader.ofText text
  countFrom (r.rest.length + 1) 0 r

end Transcript.Script
