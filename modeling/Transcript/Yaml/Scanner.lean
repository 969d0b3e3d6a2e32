import Transcript.Yaml.Scalar

/-!
# Scanning YAML

Turns a text into tokens. Indentation opens and closes blocks outside brackets. A scalar that may turn
out to be the key of a mapping is remembered; when a colon follows on the same line, the tokens that
open the mapping are put in front of it.
-/

namespace Transcript.Yaml

/-- A token that may be the key of a mapping: its number and its place. It has to be one when a key is all
that can stand there. -/
structure SimpleKey where
  required : Bool
  number : Nat
  index : Nat
  line : Nat
  column : Nat
deriving DecidableEq, Repr

/-- How far a text has been scanned. `indent` is −1 outside all blocks; there is one place for a possible
key for each bracket that is open, and one outside of them. -/
structure Scanner where
  cur : Cursor
  tokens : Array Token := #[]
  indent : Int := -1
  outer : List Int := []
  depth : Nat := 0
  keyAllowed : Bool := true
  keys : List (Option SimpleKey) := [none]
  ended : Bool := false

namespace Scanner

/-- The column as an indentation. -/
def column (s : Scanner) : Int := s.cur.column

/-- Adds a token. -/
def emit (s : Scanner) (t : Token) : Scanner :=
  { s with tokens := s.tokens.push t }

/-- Goes on from another place. -/
def moveTo (s : Scanner) (c : Cursor) : Scanner :=
  { s with cur := c }

/-- Passes over what separates tokens: blanks, comments and line ends. A tab counts only where no block
can begin. -/
def skipSeparators : Nat → Scanner → Scanner
  | 0, s => s
  | fuel + 1, s =>
    match s.cur.peek with
    | some '#' => skipSeparators fuel (s.moveTo (s.cur.readWhile (fun d => !isBreak d)).2)
    | some d =>
      if d == ' ' || (d == '\t' && (0 < s.depth || !s.keyAllowed)) then
        skipSeparators fuel (s.moveTo s.cur.skip)
      else if isBreak d then
        skipSeparators fuel
          { s with cur := s.cur.readBreak.2, keyAllowed := s.keyAllowed || s.depth == 0 }
      else s
    | none => s

/-- A possible key stays one on its own line and for at most 1024 characters. -/
def dropStaleKeys (s : Scanner) : Except Refusal Scanner := do
  let keys ← s.keys.mapM fun k =>
    match k with
    | none => .ok none
    | some key =>
      if key.line < s.cur.line || key.index + 1024 < s.cur.index then
        if key.required then Except.error Refusal.missingColon else .ok none
      else .ok (some key)
  return { s with keys }

/-- Forgets the possible key of this level. -/
def removeKey (s : Scanner) : Except Refusal Scanner :=
  match s.keys with
  | some key :: r => if key.required then .error .missingColon else .ok { s with keys := none :: r }
  | _ => .ok s

/-- Remembers the token that comes next as a possible key. -/
def saveKey (s : Scanner) : Except Refusal Scanner :=
  if s.keyAllowed then
    (s.removeKey).map fun s =>
      let key : SimpleKey := {
        required := s.depth == 0 && s.indent == s.column
        number := s.tokens.size
        index := s.cur.index
        line := s.cur.line
        column := s.cur.column }
      { s with keys := some key :: s.keys.tail }
  else .ok s

/-- Opens a block at a column when it is further in; its token gets the place `number`. -/
def roll (s : Scanner) (column : Int) (number : Nat) (t : Token) : Scanner :=
  if s.depth = 0 && s.indent < column then
    { s with
      outer := s.indent :: s.outer
      indent := column
      tokens := s.tokens.insertIdxIfInBounds number t }
  else s

/-- Closes the blocks that are further in than a column, `fuel` of them at most. -/
def unrollUpTo (column : Int) : Nat → Scanner → Scanner
  | 0, s => s
  | fuel + 1, s =>
    if s.depth = 0 && column < s.indent then
      unrollUpTo column fuel
        { s with indent := s.outer.headD (-1), outer := s.outer.tail, tokens := s.tokens.push .blockEnd }
    else s

/-- Closes the blocks that are further in than a column. -/
def unroll (s : Scanner) (column : Int) : Scanner :=
  unrollUpTo column (s.outer.length + 1) s

/-- The end of the text. -/
def fetchEnd (s : Scanner) : Except Refusal Scanner := do
  let s ← (s.unroll (-1)).removeKey
  return { s.emit .streamEnd with keyAllowed := false, ended := true }

/-- A marker of three characters. -/
def fetchMarker (s : Scanner) (t : Token) : Except Refusal Scanner := do
  let s ← (s.unroll (-1)).removeKey
  return { s.emit t with keyAllowed := false, cur := s.cur.skipMany 3 }

/-- The two numbers of a version. -/
def readVersion (c : Cursor) : Except Refusal (Token × Cursor) :=
  let (_, c) := c.readWhile isSpace
  let (major, c) := c.readWhile Char.isDigit
  let (minor, c') := c.skip.readWhile Char.isDigit
  if major.isEmpty || minor.isEmpty || c.peek != some '.' then .error .badDirective
  else .ok (.version major minor, c')

/-- A tag handle: an exclamation mark, or a name between two of them. -/
def readHandle (c : Cursor) : Except Refusal (List Char × Cursor) :=
  if c.peek != some '!' then .error .badTag
  else
    let (name, c) := c.skip.readWhile isNameChar
    if c.peek == some '!' then .ok ('!' :: (name ++ ['!']), c.skip) else .ok ('!' :: name, c)

/-- A character of a tag; brackets and commas only in a tag between angle brackets. -/
def isTagChar (verbatim : Bool) (c : Char) : Bool :=
  isNameChar c || ";/?:@&=+$.!~*'()".toList.contains c || (verbatim && (c == ',' || c == '[' || c == ']'))

/-- The characters of a tag, some of them as percent signs with two digits. -/
def readTagText (verbatim : Bool) : Nat → List Char → Cursor → Except Refusal (List Char × Cursor)
  | 0, acc, c => .ok (acc.reverse, c)
  | fuel + 1, acc, c =>
    match c.peek with
    | some '%' =>
      match hexValue? (c.skip.rest.take 2) with
      | some n =>
        if c.rest.length < 3 then .error .badTag
        else readTagText verbatim fuel (Char.ofNat n :: acc) (c.skipMany 3)
      | none => .error .badTag
    | some d =>
      if isTagChar verbatim d then readTagText verbatim fuel (d :: acc) c.skip
      else .ok (acc.reverse, c)
    | none => .ok (acc.reverse, c)

/-- A handle and what it stands for. -/
def readTagDirective (c : Cursor) : Except Refusal (Token × Cursor) := do
  let (_, c) := c.readWhile isSpace
  let (handle, c) ← readHandle c
  if handle != ['!'] && handle.getLast? != some '!' then throw .badDirective
  if !c.peek.any isSpace then throw .badDirective
  let (_, c) := c.readWhile isSpace
  let (text, c) ← readTagText true c.rest.length [] c
  if text.isEmpty || !endsWord c.peek then throw .badDirective
  return (.tagDirective handle text, c)

/-- A directive, from its percent sign to the end of its line. -/
def fetchDirective (s : Scanner) : Except Refusal Scanner := do
  let s ← (s.unroll (-1)).removeKey
  let (name, c) := s.cur.skip.readWhile isNameChar
  if name.isEmpty || !endsWord c.peek then throw .badDirective
  let (t, c) ← match String.ofList name with
    | "YAML" => readVersion c
    | "TAG" => readTagDirective c
    | _ => .error .badDirective
  let c ← skipToLineEnd c
  return { s.emit t with keyAllowed := false, cur := c.readBreak.2 }

/-- An opening bracket. -/
def fetchOpen (s : Scanner) (t : Token) : Except Refusal Scanner := do
  let s ← s.saveKey
  return { s.emit t with
    keys := none :: s.keys, depth := s.depth + 1, keyAllowed := true, cur := s.cur.skip }

/-- A closing bracket. -/
def fetchClose (s : Scanner) (t : Token) : Except Refusal Scanner := do
  let s ← s.removeKey
  return { s.emit t with
    keys := if 0 < s.depth then s.keys.tail else s.keys
    depth := s.depth - 1
    keyAllowed := false
    cur := s.cur.skip }

/-- A comma in brackets. -/
def fetchFlowEntry (s : Scanner) : Except Refusal Scanner := do
  let s ← s.removeKey
  return { s.emit .flowEntry with keyAllowed := true, cur := s.cur.skip }

/-- The sign of a member of a block sequence. -/
def fetchBlockEntry (s : Scanner) : Except Refusal Scanner := do
  if s.depth = 0 && !s.keyAllowed then throw .badIndentation
  let s ← (s.roll s.column s.tokens.size .blockSequenceStart).removeKey
  return { s.emit .blockEntry with keyAllowed := true, cur := s.cur.skip }

/-- The sign of a key. -/
def fetchKey (s : Scanner) : Except Refusal Scanner := do
  if s.depth = 0 && !s.keyAllowed then throw .badIndentation
  let s ← (s.roll s.column s.tokens.size .blockMappingStart).removeKey
  return { s.emit .key with keyAllowed := s.depth == 0, cur := s.cur.skip }

/-- The sign of a value, after a key on the same line or on a line of its own. -/
def fetchValue (s : Scanner) : Except Refusal Scanner := do
  match s.keys with
  | some key :: r =>
    let s := { s with tokens := s.tokens.insertIdxIfInBounds key.number .key, keys := none :: r }
    let s := s.roll key.column key.number .blockMappingStart
    return { s.emit .value with keyAllowed := false, cur := s.cur.skip }
  | _ =>
    if s.depth = 0 && !s.keyAllowed then throw .badIndentation
    let s := s.roll s.column s.tokens.size .blockMappingStart
    return { s.emit .value with keyAllowed := s.depth == 0, cur := s.cur.skip }

/-- What may follow the name of an anchor. -/
def endsAnchor : Option Char → Bool
  | none => true
  | some c => endsWord (some c) || "?:,]\x7d%@`".toList.contains c

/-- An anchor or an alias. -/
def fetchAnchor (s : Scanner) (t : List Char → Token) : Except Refusal Scanner := do
  let s ← s.saveKey
  let (name, c) := s.cur.skip.readWhile isNameChar
  if name.isEmpty || !endsAnchor c.peek then throw .badName
  return { s.emit (t name) with keyAllowed := false, cur := c }

/-- The handle of a tag and what follows it. A tag between angle brackets and a lone mark have no handle. -/
def readTag (c : Cursor) : Except Refusal (List Char × List Char × Cursor) := do
  if c.peekAt 1 == some '<' then
    let (text, c) ← readTagText true c.rest.length [] (c.skipMany 2)
    if text.isEmpty || c.peek != some '>' then throw .badTag
    return ([], text, c.skip)
  let (handle, c) ← readHandle c
  let (text, c) ← readTagText false c.rest.length [] c
  if handle.length ≥ 2 && handle.getLast? == some '!' then
    if text.isEmpty then throw .badTag
    return (handle, text, c)
  let suffix := handle.tail ++ text
  return if suffix.isEmpty then ([], ['!'], c) else (['!'], suffix, c)

/-- A tag. -/
def fetchTag (s : Scanner) : Except Refusal Scanner := do
  let s ← s.saveKey
  let (handle, suffix, c) ← readTag s.cur
  if !(endsWord c.peek || (0 < s.depth && c.peek == some ',')) then throw .badTag
  return { s.emit (.tag handle suffix) with keyAllowed := false, cur := c }

/-- A block scalar. -/
def fetchBlock (s : Scanner) (literal : Bool) : Except Refusal Scanner := do
  let s ← s.removeKey
  let (text, c) ← readBlock literal s.indent s.cur.skip
  return { s.emit (.scalar text (if literal then .literal else .folded)) with keyAllowed := true, cur := c }

/-- A quoted scalar. -/
def fetchQuoted (s : Scanner) (single : Bool) : Except Refusal Scanner := do
  let s ← s.saveKey
  let (text, c) ← readQuoted single s.cur.rest.length [] s.cur.skip
  return { s.emit (.scalar text.reverse .quoted) with keyAllowed := false, cur := c }

/-- A plain scalar. When it ends with a line, a key may follow. -/
def fetchPlain (s : Scanner) : Except Refusal Scanner := do
  let s ← s.saveKey
  let (text, g, c) ← readPlain (0 < s.depth) (s.indent + 1) s.cur.rest.length [] {} s.cur
  return { s.emit (.scalar text.reverse .plain) with keyAllowed := g.broken, cur := c }

/-- A plain scalar can begin with this character. -/
def beginsPlain (inFlow : Bool) (c : Char) (next : Option Char) : Bool :=
  if c == '-' then !next.any isSpace
  else if c == '?' || c == ':' then !inFlow && !endsWord next
  else !(endsWord (some c) || ",[]\x7b\x7d#&*!|>'\"%@`".toList.contains c)

/-- Scans one token, with those that have to stand before it. -/
def fetch (s : Scanner) : Except Refusal Scanner := do
  let s ← (skipSeparators (s.cur.rest.length + 1) s).dropStaleKeys
  let s := s.unroll s.column
  match s.cur.peek with
  | none => s.fetchEnd
  | some c =>
    let next := s.cur.peekAt 1
    let inFlow := 0 < s.depth
    if c == '%' && s.cur.column = 0 then s.fetchDirective
    else if s.cur.atMarker '-' then s.fetchMarker .documentStart
    else if s.cur.atMarker '.' then s.fetchMarker .documentEnd
    else match c with
      | '[' => s.fetchOpen .flowSequenceStart
      | '{' => s.fetchOpen .flowMappingStart
      | ']' => s.fetchClose .flowSequenceEnd
      | '}' => s.fetchClose .flowMappingEnd
      | ',' => s.fetchFlowEntry
      | '*' => s.fetchAnchor .alias
      | '&' => s.fetchAnchor .anchor
      | '!' => s.fetchTag
      | '\'' => s.fetchQuoted true
      | '"' => s.fetchQuoted false
      | _ =>
        if c == '-' && endsWord next then s.fetchBlockEntry
        else if c == '?' && (inFlow || endsWord next) then s.fetchKey
        else if c == ':' && (inFlow || endsWord next) then s.fetchValue
        else if c == '|' && !inFlow then s.fetchBlock true
        else if c == '>' && !inFlow then s.fetchBlock false
        else if beginsPlain inFlow c next then s.fetchPlain
        else .error .badToken

/-- Scans tokens to the end of the text; each takes at least one character. -/
def fetchAll : Nat → Scanner → Except Refusal (List Token)
  | 0, s => .ok s.tokens.toList
  | fuel + 1, s =>
    (s.fetch).bind fun s => if s.ended then .ok s.tokens.toList else fetchAll fuel s

end Scanner

/-- A character that a YAML text may have. -/
def isPrintable (c : Char) : Bool :=
  let n := c.toNat
  n == 9 || n == 10 || n == 13 || (0x20 ≤ n && n ≤ 0x7E) || n == 0x85 ||
    (0xA0 ≤ n && n ≤ 0xD7FF) || (0xE000 ≤ n && n ≤ 0xFFFD) || 0x10000 ≤ n

/-- The tokens of a text; a byte order mark at its beginning does not count. -/
def tokens (s : List Char) : Except Refusal (List Token) :=
  if s.all isPrintable then
    let s := match s with
      | '\ufeff' :: r => r
      | r => r
    Scanner.fetchAll (s.length + 1) { cur := { rest := s } }
  else .error .badCharacter

end Transcript.Yaml
