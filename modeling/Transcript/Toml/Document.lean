import Transcript.Toml.Value

/-!
# Flat documents of TOML

Reads a text that consists of lines with a key and a value each. Keys are bare or quoted and stand only
once; headers of tables and keys with points are refused, since a flat document has no tables.
-/

namespace Transcript.Toml

/-- A character of a bare key. -/
def isKeyChar (c : Char) : Bool :=
  c.isAlphanum || c == '_' || c == '-'

/-- A key and the text after it. -/
def readKey (s : List Char) : Read (List Char) :=
  match s with
  | '"' :: r => readLine '"' (r.length + 1) [] r
  | '\'' :: r => readLine '\'' (r.length + 1) [] r
  | s =>
    let (key, r) := s.span isKeyChar
    if key.isEmpty then .error .badKey else .ok (key, r)

/-- The text after the end of a line, which may have a comment before it. -/
def readLineEnd (s : List Char) : Except Refusal (List Char) :=
  let s := skipSpaces s
  let s := match s with
    | '#' :: r => r.dropWhile isPlain
    | r => r
  match s with
  | [] => .ok []
  | s =>
    match newLine? s with
    | some r => .ok r
    | none => .error .badLine

/-- A key with its value, up to the end of the line. -/
def readPair (s : List Char) : Except Refusal ((List Char × Value) × List Char) := do
  let (key, r) ← readKey s
  match skipSpaces r with
  | '=' :: r =>
    let (v, r) ← readValue (skipSpaces r)
    let r ← readLineEnd r
    return ((key, v), r)
  | _ => throw .missingEquals

/-- The pairs of a document, last first; each step takes a line. -/
def readPairs : Nat → List (List Char × Value) → List Char →
    Except Refusal (List (List Char × Value))
  | 0, acc, _ => .ok acc
  | fuel + 1, acc, s =>
    match skipSpaces s with
    | [] => .ok acc
    | c :: r =>
      if c == '#' || c == '\n' || c == '\r' then
        (readLineEnd (c :: r)).bind (readPairs fuel acc)
      else
        (readPair (c :: r)).bind fun (pair, r) =>
          if (acc.lookup pair.1).isSome then .error .duplicateKey
          else readPairs fuel (pair :: acc) r

/-- The pairs of a flat document; a byte order mark at its beginning does not count. -/
def readDocument (s : List Char) : Except Refusal (List (List Char × Value)) :=
  let s := match s with
    | '\ufeff' :: r => r
    | r => r
  (readPairs (s.length + 1) [] s).map List.reverse

end Transcript.Toml
