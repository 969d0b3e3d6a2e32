import Transcript.Number.Power
import Transcript.Pattern.Ast
import Transcript.Text.Blank

/-!
# Escapes

The parts of a pattern that begin with a backslash, and the small readers they share with the rest of
the pattern: blanks and comments that a verbose pattern skips, decimal numbers and code points.
Every reader takes the text after what introduced it and returns the text that it left.
-/

namespace Transcript.Pattern

open Text (isBlank)
open Unicode (PropertyQuery)

/-- A reader's answer: a value and the text after it. -/
abbrev Read (α : Type) := Except PatternError (α × List Char)

/-- Skips blanks and comments; a comment lasts to the end of its line. -/
def skipComments (inComment : Bool) : List Char → List Char
  | [] => []
  | c :: r =>
    if inComment then skipComments (c ≠ '\n') r
    else if isBlank c then skipComments false r
    else if c = '#' then skipComments true r
    else c :: r

/-- Skips what a verbose pattern ignores. -/
def skipIgnored (verbose : Bool) (s : List Char) : List Char :=
  if verbose then skipComments false s else s

/-- The next character that counts, looking past blanks and the start of a comment. -/
def peekPast (verbose : Bool) (s : List Char) : Option Char :=
  if verbose then go false s else s.head?
where
  go (inComment : Bool) : List Char → Option Char
    | [] => none
    | c :: r =>
      if isBlank c then go inComment r
      else if !inComment && c = '#' then go true r
      else some c

/-- The digits of a number and the text after them; what is ignored may stand between digits. -/
def spanDigits (verbose : Bool) : Nat → List Char → List Char × List Char
  | fuel + 1, c :: r =>
    if c.isDigit then
      let (ds, rest) := spanDigits verbose fuel (skipIgnored verbose r)
      (c :: ds, rest)
    else ([], c :: r)
  | _, s => ([], s)

/-- The value of decimal digits. -/
def decimalValue (ds : List Char) : Nat :=
  ds.foldl (fun n d => n * 10 + (d.toNat - '0'.toNat)) 0

/-- A decimal number of 32 bits with blanks around it; `none` where no digit stands. -/
def readDecimal (verbose : Bool) (s : List Char) : Read (Option Nat) :=
  let s := s.dropWhile isBlank
  let (ds, rest) := spanDigits verbose s.length s
  let rest := skipIgnored verbose (rest.dropWhile isBlank)
  if ds.isEmpty then .ok (none, rest)
  else
    let n := decimalValue ds
    if n < Number.twoTo 32 then .ok (some n, rest) else .error .badCount

/-- The value of a hexadecimal digit. -/
def hexValue? (c : Char) : Option Nat :=
  if c.isDigit then some (c.toNat - '0'.toNat)
  else if 'a' ≤ c && c ≤ 'f' then some (c.toNat - 'a'.toNat + 10)
  else if 'A' ≤ c && c ≤ 'F' then some (c.toNat - 'A'.toNat + 10)
  else none

/-- The character with a code point, unless it is a surrogate or out of range. -/
def scalar? (n : Nat) : Option Char :=
  if n < 0xD800 || (0xE000 ≤ n && n ≤ 0x10FFFF) then some (Char.ofNat n) else none

/-- Exactly `count` more hexadecimal digits. -/
def readHexDigits (verbose : Bool) (acc : Nat) : Nat → List Char → Read Nat
  | 0, s => .ok (acc, s)
  | _ + 1, [] => .error .badEscape
  | count + 1, c :: r =>
    match hexValue? c with
    | none => .error .badEscape
    | some d => readHexDigits verbose (acc * 16 + d) count (skipIgnored verbose r)

/-- Hexadecimal digits up to a closing brace; `seen` tells whether there was one already. -/
def readHexBrace (verbose : Bool) (acc : Nat) (seen : Bool) : Nat → List Char → Read Nat
  | fuel + 1, c :: r =>
    if c = '}' then if seen then .ok (acc, skipIgnored verbose r) else .error .badEscape
    else match hexValue? c with
      | none => .error .badEscape
      | some d => readHexBrace verbose (min (acc * 16 + d) (Number.twoTo 32)) true fuel (skipIgnored verbose r)
  | _, _ => .error .badEscape

/-- A literal of a code point that was read. -/
def literalOf (byte : Bool) : Nat × List Char → Read Literal
  | (n, rest) =>
    match scalar? n with
    | some c => .ok (⟨c, byte⟩, rest)
    | none => .error .badEscape

/-- A code point after `\x`, `\u` or `\U`, which want `count` digits or braces. -/
def readCodePoint (verbose : Bool) (count : Nat) (s : List Char) : Read Literal :=
  match skipIgnored verbose s with
  | [] => .error .badEscape
  | '{' :: r =>
    let r := skipIgnored verbose r
    (readHexBrace verbose 0 false (r.length + 1) r).bind (literalOf false)
  | s => (readHexDigits verbose 0 count s).bind (literalOf (count == 2))

/-- The text up to a closing brace, without what is ignored. -/
def spanBrace (verbose : Bool) : Nat → List Char → Option (List Char × List Char)
  | fuel + 1, c :: r =>
    if c = '}' then some ([], r)
    else (spanBrace verbose fuel (skipIgnored verbose r)).map fun (name, rest) => (c :: name, rest)
  | _, _ => none

/-- Cuts a text at the first occurrence of a separator of one character. -/
def cutAt (sep : Char) : List Char → Option (List Char × List Char)
  | [] => none
  | c :: r => if c = sep then some ([], r) else (cutAt sep r).map fun (a, b) => (c :: a, b)

/-- Cuts a text at the first `!=`. -/
def cutAtUnequal : List Char → Option (List Char × List Char)
  | [] => none
  | '!' :: '=' :: r => some ([], r)
  | c :: r => (cutAtUnequal r).map fun (a, b) => (c :: a, b)

/-- The query that stands in braces. -/
def queryOf (name : List Char) : PropertyQuery :=
  match ((cutAtUnequal name).or (cutAt ':' name)).or (cutAt '=' name) with
  | some (n, v) => .valued n v
  | none => .named name

/-- A property after `\p`. -/
def readProperty (verbose : Bool) (s : List Char) : Read PropertyQuery :=
  match skipIgnored verbose s with
  | [] => .error .badEscape
  | '{' :: r =>
    match spanBrace verbose (r.length + 1) (skipIgnored verbose r) with
    | some (name, rest) => .ok (queryOf name, rest)
    | none => .error .badEscape
  | c :: r => if c = '\\' then .error .badEscape else .ok (.oneLetter c, skipIgnored verbose r)

/-- The letters and hyphens of the name of a word boundary. -/
def spanBoundaryName (verbose : Bool) : Nat → List Char → List Char × List Char
  | fuel + 1, c :: r =>
    if c.isAlpha || c = '-' then
      let (name, rest) := spanBoundaryName verbose fuel (skipIgnored verbose r)
      (c :: name, rest)
    else ([], c :: r)
  | _, s => ([], s)

/-- The word boundary after `\b`: one with a name in braces, or the plain one. Braces that do not begin
with a letter or a hyphen are left for a count. -/
def readBoundary (verbose : Bool) (s : List Char) : Read Assertion :=
  match s with
  | '{' :: r =>
    let r := skipIgnored verbose r
    match r with
    | [] => .error .badEscape
    | c :: _ =>
      if !(c.isAlpha || c = '-') then .ok (.wordBoundary, s)
      else match spanBoundaryName verbose r.length r with
        | (name, '}' :: rest) =>
          match String.ofList name with
          | "start" => .ok (.wordStart, rest)
          | "end" => .ok (.wordEnd, rest)
          | "start-half" => .ok (.wordStartHalf, rest)
          | "end-half" => .ok (.wordEndHalf, rest)
          | _ => .error .badEscape
        | _ => .error .badEscape
  | _ => .ok (.wordBoundary, s)

/-- What an escape stands for. -/
inductive Escaped where
  | literal (l : Literal)
  | assertion (a : Assertion)
  | property (negated : Bool) (query : PropertyQuery)
  | letter (negated : Bool) (cls : LetterClass)
deriving DecidableEq, Repr

/-- ASCII characters other than letters, digits and angle brackets stand for themselves after a
backslash. -/
def isEscapable (c : Char) : Bool :=
  c.toNat < 128 && !c.isAlphanum && c ≠ '<' && c ≠ '>'

/-- The escape after a backslash. -/
def readEscape (verbose : Bool) : List Char → Read Escaped
  | [] => .error .badEscape
  | c :: r =>
    let char (d : Char) : Read Escaped := .ok (.literal ⟨d, false⟩, r)
    let place (a : Assertion) : Read Escaped := .ok (.assertion a, r)
    let codePoint (count : Nat) : Read Escaped :=
      (readCodePoint verbose count r).map fun (l, rest) => (.literal l, rest)
    let property (negated : Bool) : Read Escaped :=
      (readProperty verbose r).map fun (q, rest) => (.property negated q, rest)
    let letter (negated : Bool) (cls : LetterClass) : Read Escaped := .ok (.letter negated cls, r)
    match c with
    | 'x' => codePoint 2
    | 'u' => codePoint 4
    | 'U' => codePoint 8
    | 'p' => property false
    | 'P' => property true
    | 'd' => letter false .digit
    | 's' => letter false .space
    | 'w' => letter false .word
    | 'D' => letter true .digit
    | 'S' => letter true .space
    | 'W' => letter true .word
    | 'a' => char '\x07'
    | 'f' => char '\x0C'
    | 't' => char '\t'
    | 'n' => char '\n'
    | 'r' => char '\r'
    | 'v' => char '\x0B'
    | 'A' => place .startText
    | 'z' => place .endText
    | 'B' => place .notWordBoundary
    | '<' => place .wordStart
    | '>' => place .wordEnd
    | 'b' => (readBoundary verbose r).map fun (a, rest) => (.assertion a, rest)
    | c => if isEscapable c then char c else .error .badEscape

end Transcript.Pattern
