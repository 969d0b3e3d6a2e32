import Transcript.Yaml.Token

/-!
# Scalars of YAML

Reads the text of scalars: plain, between quotes, and in blocks. A line end inside a plain or quoted
scalar is folded: alone it becomes a space, and of several the first is dropped.
-/

namespace Transcript.Yaml

/-- What stands between two runs of text: blanks of one line, or line ends. -/
structure Gap where
  blanks : List Char := []
  broken : Bool := false
  first : List Char := []
  others : List Char := []
deriving DecidableEq, Repr

namespace Gap

/-- The text that a gap stands for. -/
def folded (g : Gap) : List Char :=
  if g.broken then
    if g.first == ['\n'] then if g.others.isEmpty then [' '] else g.others
    else g.first ++ g.others
  else g.blanks

/-- A gap with one more line end. -/
def addBreak (g : Gap) (text : List Char) : Gap :=
  if g.broken then { g with others := g.others ++ text }
  else { g with broken := true, blanks := [], first := text }

/-- A gap with one more blank. -/
def addBlank (g : Gap) (c : Char) : Gap :=
  if g.broken then g else { g with blanks := g.blanks ++ [c] }

end Gap

/-- Passes over blanks and line ends; `tabColumn` is the column before which a tab may not begin a line. -/
def readGap (tabColumn : Int) : Nat → Gap → Cursor → Except Refusal (Gap × Cursor)
  | 0, g, c => .ok (g, c)
  | fuel + 1, g, c =>
    match c.peek with
    | none => .ok (g, c)
    | some d =>
      if isSpace d then
        if g.broken && (c.column : Int) < tabColumn && d == '\t' then .error .badIndentation
        else readGap tabColumn fuel (g.addBlank d) c.skip
      else if isBreak d then
        let (text, c) := c.readBreak
        readGap tabColumn fuel (g.addBreak text) c
      else .ok (g, c)

/-! ## Plain scalars -/

/-- A character that separates what stands in brackets. -/
def isFlowSeparator (c : Char) : Bool :=
  c == ',' || c == '[' || c == ']' || c == '{' || c == '}'

/-- The characters of a plain scalar up to a blank or its end, last first. -/
def readPlainRun (inFlow : Bool) : Nat → List Char → Cursor →
    Except Refusal (List Char × Cursor)
  | 0, acc, c => .ok (acc, c)
  | fuel + 1, acc, c =>
    match c.peek with
    | none => .ok (acc, c)
    | some d =>
      if endsWord (some d) then .ok (acc, c)
      else
        let next := c.peekAt 1
        if inFlow && d == ':' && next.any (fun n => isFlowSeparator n || n == '?') then
          .error .badToken
        else if (d == ':' && endsWord next) || (inFlow && isFlowSeparator d) then .ok (acc, c)
        else readPlainRun inFlow fuel (d :: acc) c.skip

/-- A plain scalar with the gap that follows it; `acc` is what has been read, last character first. -/
def readPlain (inFlow : Bool) (indent : Int) : Nat → List Char → Gap → Cursor →
    Except Refusal (List Char × Gap × Cursor)
  | 0, acc, g, c => .ok (acc, g, c)
  | fuel + 1, acc, g, c => do
    if c.atAnyMarker || c.peek == some '#' then return (acc, g, c)
    let (run, c') ← readPlainRun inFlow c.rest.length [] c
    if c'.index = c.index then return (acc, g, c)
    let acc := run ++ (g.folded.reverse ++ acc)
    let (g', c'') ← readGap indent c'.rest.length {} c'
    if c''.index = c'.index then return (acc, {}, c')
    if !inFlow && (c''.column : Int) < indent then return (acc, g', c'')
    readPlain inFlow indent fuel acc g' c''

/-! ## Quoted scalars -/

/-- The character of an escape of one letter. -/
def escapeChar? : Char → Option Char
  | '0' => some '\x00'
  | 'a' => some '\x07'
  | 'b' => some '\x08'
  | 't' | '\t' => some '\t'
  | 'n' => some '\n'
  | 'v' => some '\x0b'
  | 'f' => some '\x0c'
  | 'r' => some '\r'
  | 'e' => some '\x1b'
  | ' ' => some ' '
  | '"' => some '"'
  | '/' => some '/'
  | '\\' => some '\\'
  | 'N' => some '\u0085'
  | '_' => some '\u00a0'
  | 'L' => some '\u2028'
  | 'P' => some '\u2029'
  | _ => none

/-- How many digits follow the letter of an escape by code point. -/
def escapeLength? : Char → Option Nat
  | 'x' => some 2
  | 'u' => some 4
  | 'U' => some 8
  | _ => none

/-- The value of a hexadecimal digit. -/
def hexDigit? (c : Char) : Option Nat :=
  if c.isDigit then some (c.toNat - '0'.toNat)
  else if 'a' ≤ c && c ≤ 'f' then some (c.toNat - 'a'.toNat + 10)
  else if 'A' ≤ c && c ≤ 'F' then some (c.toNat - 'A'.toNat + 10)
  else none

/-- The number of several hexadecimal digits. -/
def hexValue? (ds : List Char) : Option Nat :=
  ds.foldlM (fun acc d => (hexDigit? d).map (acc * 16 + ·)) 0

/-- The character of a code point, if it is one. -/
def codePoint? (n : Nat) : Option Char :=
  if h : n.isValidChar then some (Char.ofNatAux n h) else none

/-- The character of an escape whose letter stands at the cursor. -/
def readEscape (c : Cursor) : Except Refusal (Char × Cursor) :=
  match c.peek with
  | none => .error .badEscape
  | some d =>
    match escapeChar? d, escapeLength? d with
    | some e, _ => .ok (e, c.skip)
    | none, some n =>
      let ds := c.skip.rest.take n
      match if ds.length = n then (hexValue? ds).bind codePoint? else none with
      | some e => .ok (e, c.skipMany (n + 1))
      | none => .error .badEscape
    | none, none => .error .badEscape

/-- The characters of a quoted scalar up to a blank, its end, or an escaped line end; the last result says
whether it was the latter. -/
def readQuotedRun (single : Bool) : Nat → List Char → Cursor →
    Except Refusal (List Char × Cursor × Bool)
  | 0, acc, c => .ok (acc, c, false)
  | fuel + 1, acc, c =>
    match c.peek with
    | none => .ok (acc, c, false)
    | some d =>
      if endsWord (some d) then .ok (acc, c, false)
      else if single && d == '\'' then
        if c.peekAt 1 == some '\'' then readQuotedRun single fuel ('\'' :: acc) (c.skipMany 2)
        else .ok (acc, c, false)
      else if !single && d == '"' then .ok (acc, c, false)
      else if !single && d == '\\' then
        if (c.peekAt 1).any isBreak then .ok (acc, c.skip.readBreak.2, true)
        else
          match readEscape c.skip with
          | .ok (e, c) => readQuotedRun single fuel (e :: acc) c
          | .error e => .error e
      else readQuotedRun single fuel (d :: acc) c.skip

/-- A quoted scalar from the character after its first quote to the one after its last; `acc` is what has
been read, last character first. -/
def readQuoted (single : Bool) : Nat → List Char → Cursor → Except Refusal (List Char × Cursor)
  | 0, _, _ => .error .missingQuote
  | fuel + 1, acc, c => do
    if c.atAnyMarker || c.rest.isEmpty then throw .missingQuote
    let (acc, c, escaped) ← readQuotedRun single c.rest.length acc c
    if !escaped && c.peek == some (if single then '\'' else '"') then return (acc, c.skip)
    let (g, c) ← readGap 0 c.rest.length { broken := escaped } c
    readQuoted single fuel (g.folded.reverse ++ acc) c

/-! ## Block scalars -/

/-- What becomes of the line ends at the end of a block. -/
inductive Chomp where
  | strip
  | clip
  | keep
deriving DecidableEq, Repr

/-- How line ends at the end are treated, for the sign in a header. -/
def chompOf? : Char → Option Chomp
  | '-' => some .strip
  | '+' => some .keep
  | _ => none

/-- The number of columns that a header gives. -/
def increment? (c : Char) : Option Nat :=
  if '1' ≤ c && c ≤ '9' then some (c.toNat - '0'.toNat) else none

/-- The sign and the number of a header, in either order. -/
def readHeader (c : Cursor) : Except Refusal (Chomp × Option Nat × Cursor) :=
  match c.rest with
  | a :: b :: _ =>
    match chompOf? a, increment? a, chompOf? b, increment? b with
    | some k, _, _, some n => .ok (k, some n, c.skipMany 2)
    | some k, _, _, none => if b == '0' then .error .badIndentation else .ok (k, none, c.skip)
    | none, some n, some k, _ => .ok (k, some n, c.skipMany 2)
    | none, some n, none, _ => .ok (.clip, some n, c.skip)
    | none, none, _, _ => if a == '0' then .error .badIndentation else .ok (.clip, none, c)
  | [a] =>
    match chompOf? a, increment? a with
    | some k, _ => .ok (k, none, c.skip)
    | none, some n => .ok (.clip, some n, c.skip)
    | none, none => if a == '0' then .error .badIndentation else .ok (.clip, none, c)
  | [] => .ok (.clip, none, c)

/-- Passes over spaces up to a column. -/
def skipIndent (indent : Nat) : Nat → Cursor → Cursor
  | 0, c => c
  | fuel + 1, c =>
    if (indent = 0 || c.column < indent) && c.peek == some ' ' then skipIndent indent fuel c.skip
    else c

/-- Passes over empty lines; `widest` is the greatest indentation seen. An indentation of 0 is one that is
not known yet. -/
def readEmptyLines (indent : Nat) : Nat → Nat → List Char → Cursor →
    Except Refusal (Nat × List Char × Cursor)
  | 0, widest, breaks, c => .ok (widest, breaks, c)
  | fuel + 1, widest, breaks, c =>
    let c := skipIndent indent c.rest.length c
    let widest := max widest c.column
    if (indent = 0 || c.column < indent) && c.peek == some '\t' then .error .badIndentation
    else if c.peek.any isBreak then
      let (text, c) := c.readBreak
      readEmptyLines indent fuel widest (breaks ++ text) c
    else .ok (widest, breaks, c)

/-- The lines of a block. `lead` is the line end before the current line, `breaks` are those of the empty
lines after it, and `wasBlank` says that the line before began with a blank. -/
def readBlockLines (literal : Bool) (indent : Nat) : Nat → List Char → List Char → List Char → Bool →
    Cursor → Except Refusal (List Char × List Char × List Char × Cursor)
  | 0, acc, lead, breaks, _, c => .ok (acc, lead, breaks, c)
  | fuel + 1, acc, lead, breaks, wasBlank, c =>
    if c.column ≠ indent || c.rest.isEmpty then .ok (acc, lead, breaks, c)
    else
      let isBlank := c.peek.any isSpace
      let joint :=
        if !literal && lead == ['\n'] && !wasBlank && !isBlank then
          if breaks.isEmpty then [' '] else breaks
        else lead ++ breaks
      let (line, c) := c.readWhile (fun d => !isBreak d)
      let (lead, c) := c.readBreak
      match readEmptyLines indent c.rest.length 0 [] c with
      | .error e => .error e
      | .ok (_, breaks, c) =>
        readBlockLines literal indent fuel (acc ++ joint ++ line) lead breaks isBlank c

/-- Passes over blanks and a comment up to the end of the line. -/
def skipToLineEnd (c : Cursor) : Except Refusal Cursor :=
  let (_, c) := c.readWhile isSpace
  let (_, c) := if c.peek == some '#' then c.readWhile (fun d => !isBreak d) else ([], c)
  if endsLine c.peek then .ok c else .error .badToken

/-- A block scalar from the character after its sign; `parent` is the indentation around it. -/
def readBlock (literal : Bool) (parent : Int) (c : Cursor) :
    Except Refusal (List Char × Cursor) := do
  let (chomp, increment, c) ← readHeader c
  let c ← skipToLineEnd c
  let (_, c) := c.readBreak
  let outer := parent.toNat
  let known := increment.map fun n => if 0 ≤ parent then outer + n else n
  let (widest, breaks, c) ← readEmptyLines (known.getD 0) c.rest.length 0 [] c
  let indent := known.getD (max widest (max (parent + 1).toNat 1))
  let (text, lead, breaks, c) ←
    readBlockLines literal indent (c.rest.length + 1) [] [] breaks false c
  let ending := match chomp with
    | .strip => []
    | .clip => lead
    | .keep => lead ++ breaks
  return (text ++ ending, c)

end Transcript.Yaml
