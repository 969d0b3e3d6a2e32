/-!
# Tokens of YAML

The tokens that a YAML text is made of, and the place of the reader in the text. Line feeds, carriage
returns, both together, the next-line control and the two Unicode separators end a line.
-/

namespace Transcript.Yaml

/-- How a scalar is written. -/
inductive Style where
  | plain
  | quoted
  | literal
  | folded
deriving DecidableEq, Repr

/-- A token. -/
inductive Token where
  | version (major minor : List Char)
  | tagDirective (handle beginning : List Char)
  | documentStart
  | documentEnd
  | blockSequenceStart
  | blockMappingStart
  | blockEnd
  | flowSequenceStart
  | flowSequenceEnd
  | flowMappingStart
  | flowMappingEnd
  | blockEntry
  | flowEntry
  | key
  | value
  | alias (name : List Char)
  | anchor (name : List Char)
  | tag (handle suffix : List Char)
  | scalar (text : List Char) (style : Style)
  | streamEnd
deriving DecidableEq, Repr

/-- Why a text is no YAML that can be used. -/
inductive Refusal where
  | badCharacter
  | badToken
  | badDirective
  | badEscape
  | badIndentation
  | badName
  | badTag
  | missingColon
  | missingQuote
  | unexpected (token : Token)
  | unknownAnchor
  | unknownTag
  | severalDocuments
  | noMapping
  | nested
deriving DecidableEq, Repr

/-- A place in the text. Lines and columns count from zero. -/
structure Cursor where
  rest : List Char
  index : Nat := 0
  line : Nat := 0
  column : Nat := 0
deriving DecidableEq, Repr

/-- A character that ends a line. -/
def isBreak (c : Char) : Bool :=
  c == '\n' || c == '\r' || c == '\u0085' || c == '\u2028' || c == '\u2029'

/-- A space or a tab. -/
def isSpace (c : Char) : Bool :=
  c == ' ' || c == '\t'

/-- The end of the text, of a line or of a word. -/
def endsWord : Option Char → Bool
  | none => true
  | some c => isBreak c || isSpace c

/-- The end of the text or of a line. -/
def endsLine : Option Char → Bool
  | none => true
  | some c => isBreak c

/-- A character of names. -/
def isNameChar (c : Char) : Bool :=
  c.isAlphanum || c == '_' || c == '-'

namespace Cursor

/-- The next character. -/
def peek (c : Cursor) : Option Char := c.rest.head?

/-- The character `n` places on. -/
def peekAt (c : Cursor) (n : Nat) : Option Char := c.rest[n]?

/-- Passes over a character that ends no line. -/
def skip (c : Cursor) : Cursor :=
  { c with rest := c.rest.tail, index := c.index + 1, column := c.column + 1 }

/-- Passes over several characters. -/
def skipMany (c : Cursor) (n : Nat) : Cursor :=
  { c with rest := c.rest.drop n, index := c.index + n, column := c.column + n }

/-- Passes over the end of a line; what it stands for in a scalar comes with the cursor. -/
def readBreak (c : Cursor) : List Char × Cursor :=
  let next (n : Nat) : Cursor :=
    { rest := c.rest.drop n, index := c.index + n, line := c.line + 1, column := 0 }
  match c.rest with
  | '\r' :: '\n' :: _ => (['\n'], next 2)
  | b :: _ =>
    if b == '\u2028' || b == '\u2029' then ([b], next 1)
    else if isBreak b then (['\n'], next 1)
    else ([], c)
  | [] => ([], c)

/-- Passes over characters as long as they satisfy `p`. -/
def readWhile (c : Cursor) (p : Char → Bool) : List Char × Cursor :=
  let word := c.rest.takeWhile p
  (word, c.skipMany word.length)

/-- The marker of a document's start or end stands here. -/
def atMarker (c : Cursor) (mark : Char) : Bool :=
  c.column == 0 && c.rest.take 3 == [mark, mark, mark] && endsWord (c.peekAt 3)

/-- A marker of either kind stands here. -/
def atAnyMarker (c : Cursor) : Bool :=
  c.atMarker '-' || c.atMarker '.'

end Cursor

end Transcript.Yaml
