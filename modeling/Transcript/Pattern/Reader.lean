import Transcript.Pattern.Escape

/-!
# Reading patterns

Turns the text of a pattern into the tree that it denotes. The reader keeps the open groups on a stack
and works through the text from left to right; each step reads at least one character. The pattern as a
whole is refused when it nests too deeply.
-/

namespace Transcript.Pattern

open Text (isBlank)

/-- The alternatives of an open group: the finished ones and the parts of the current one, last first. -/
structure Level where
  branches : List Ast := []
  parts : List Ast := []

/-- The alternatives of a group that ends. -/
def Level.alternatives (level : Level) : List Ast :=
  level.branches.reverse ++ [Ast.ofParts level.parts.reverse]

/-- The pattern of a group that ends. -/
def Level.close (level : Level) : Ast :=
  match level.branches with
  | [] => Ast.ofParts level.parts.reverse
  | _ => .alternation level.alternatives

/-- A level with one more part. -/
def Level.push (level : Level) (a : Ast) : Level :=
  { level with parts := a :: level.parts }

/-- A group that is open, with what stood before it. -/
structure OpenGroup where
  before : Level
  kind : GroupKind
  verbose : Bool

/-- How far a pattern has been read. -/
structure State where
  rest : List Char
  verbose : Bool := false
  captures : Nat := 0
  names : List (List Char) := []
  level : Level := {}
  stack : List OpenGroup := []

/-- Looks around at a place without reading, which patterns do not have. -/
def looksAround : List Char → Bool
  | '?' :: '=' :: _ | '?' :: '!' :: _ | '?' :: '<' :: '=' :: _ | '?' :: '<' :: '!' :: _ => true
  | _ => false

/-- A character that a group's name may have. -/
def isNameChar (first : Bool) (c : Char) : Bool :=
  c = '_' ||
    if first then Unicode.alphabetic.contains c
    else c = '.' || c = '[' || c = ']' || Unicode.alphanumeric.contains c

/-- The name of a group, up to its closing bracket. -/
def readName (first : Bool) : List Char → Read (List Char)
  | [] => .error .badGroupName
  | c :: r =>
    if c = '>' then if first then .error .badGroupName else .ok ([], r)
    else if isNameChar first c then (readName false r).map fun (name, rest) => (c :: name, rest)
    else .error .badGroupName

/-- The flag of a letter. -/
def flag? : Char → Option Flag
  | 'i' => some .ignoreCase
  | 'm' => some .multiLine
  | 's' => some .dotMatchesAll
  | 'U' => some .swapGreed
  | 'u' => some .unicode
  | 'R' => some .carriageReturns
  | 'x' => some .verbose
  | _ => none

/-- Flags up to the character that ends them. A letter may stand only once, the sign that turns the
later ones off likewise, and it may not stand last. -/
def readFlags (change : FlagChange) (negated dangling : Bool) : List Char →
    Read (FlagChange × Char)
  | [] => .error .badFlags
  | c :: r =>
    if c = ':' || c = ')' then if dangling then .error .badFlags else .ok ((change, c), r)
    else if c = '-' then if negated then .error .badFlags else readFlags change true true r
    else match flag? c with
      | none => .error .badFlags
      | some f =>
        if change.on.contains f || change.off.contains f then .error .badFlags
        else if negated then readFlags { change with off := change.off ++ [f] } negated false r
        else readFlags { change with on := change.on ++ [f] } negated false r

/-- Opens a group; `verbose` is the state inside it. -/
def State.openGroup (st : State) (kind : GroupKind) (verbose : Bool) (rest : List Char) : State :=
  { st with
    rest := rest
    verbose := verbose
    level := {}
    stack := ⟨st.level, kind, st.verbose⟩ :: st.stack }

/-- Opens a group that captures. -/
def State.openCapture (st : State) (rest : List Char) : State :=
  { st.openGroup (.capture st.captures) st.verbose rest with captures := st.captures + 1 }

/-- Opens a group that captures under a name. -/
def State.openNamed (st : State) (rest : List Char) : Except PatternError State :=
  (readName true rest).bind fun (name, rest) =>
    if st.names.contains name then .error .badGroupName
    else .ok { st.openCapture rest with names := name :: st.names }

/-- Flags after a question mark: those of a group that they open, or of what is left of this one. -/
def State.readFlagGroup (st : State) (r : List Char) : Except PatternError State :=
  (readFlags {} false false r).bind fun ((change, ending), rest) =>
    let verbose := (change.state? .verbose).getD st.verbose
    if ending = ')' then
      if change.on.isEmpty && change.off.isEmpty then .error .nothingToRepeat
      else .ok { st with rest, verbose, level := st.level.push (.flags change) }
    else .ok (st.openGroup (.plain change) verbose rest)

/-- What follows an opening parenthesis. -/
def State.readGroup (st : State) (r : List Char) : Except PatternError State :=
  let r := skipIgnored st.verbose r
  if looksAround r then .error .lookAround
  else match r with
    | '?' :: 'P' :: '<' :: rest => st.openNamed rest
    | '?' :: '<' :: rest => st.openNamed rest
    | '?' :: [] => .error .unclosedGroup
    | '?' :: rest => st.readFlagGroup rest
    | rest => .ok (st.openCapture rest)

/-- Closes the innermost group. -/
def State.closeGroup (st : State) (r : List Char) : Except PatternError State :=
  match st.stack with
  | [] => .error .unopenedGroup
  | g :: stack =>
    .ok { st with
      rest := r
      verbose := g.verbose
      level := g.before.push (.group g.kind st.level.close)
      stack := stack }

/-- Begins the next alternative. -/
def State.nextBranch (st : State) (r : List Char) : State :=
  { st with
    rest := r
    level := ⟨Ast.ofParts st.level.parts.reverse :: st.level.branches, []⟩ }

/-- Whether an operator is greedy, and the text after it: a question mark at once makes it lazy. -/
def readGreed : List Char → Bool × List Char
  | '?' :: rest => (false, rest)
  | rest => (true, rest)

/-- Repeats the part before an operator. -/
def State.repeat (st : State) (min : Nat) (max : Option Nat) (r : List Char) :
    Except PatternError State :=
  match st.level.parts with
  | [] | .empty :: _ | .flags _ :: _ => .error .nothingToRepeat
  | body :: parts =>
    let (greedy, rest) := readGreed r
    .ok { st with rest, level := { st.level with parts := .repetition min max greedy body :: parts } }

/-- The end of a count, and the repetition that it asks for. -/
def State.finishCount (st : State) (min : Nat) (max : Option Nat) (rest : List Char) :
    Except PatternError State :=
  match rest with
  | '}' :: rest =>
    if max.all (min ≤ ·) then st.repeat min max (skipIgnored st.verbose rest) else .error .badCount
  | _ => .error .badCount

/-- The end of a count behind its second number. -/
def State.finishMost (st : State) (min : Nat) : Option Nat × List Char → Except PatternError State
  | (some max, rest) => st.finishCount min (some max) rest
  | (none, _) => .error .badCount

/-- The second number of a count, if there is one. -/
def State.readMost (st : State) (min : Nat) (rest : List Char) : Except PatternError State :=
  match rest with
  | '}' :: _ => st.finishCount min none rest
  | rest => (readDecimal st.verbose rest).bind (st.finishMost min)

/-- A count in braces. -/
def State.readCount (st : State) (r : List Char) : Except PatternError State :=
  match st.level.parts with
  | [] | .empty :: _ | .flags _ :: _ => .error .nothingToRepeat
  | _ =>
    (readDecimal st.verbose (skipIgnored st.verbose r)).bind fun
      | (none, _) => .error .badCount
      | (some min, ',' :: rest) => st.readMost min (skipIgnored st.verbose rest)
      | (some min, rest) => st.finishCount min (some min) rest

/-- The ASCII class of a name. -/
def asciiClass? : String → Option AsciiClass
  | "alnum" => some .alnum
  | "alpha" => some .alpha
  | "ascii" => some .ascii
  | "blank" => some .blank
  | "cntrl" => some .cntrl
  | "digit" => some .digit
  | "graph" => some .graph
  | "lower" => some .lower
  | "print" => some .print
  | "punct" => some .punct
  | "space" => some .space
  | "upper" => some .upper
  | "word" => some .word
  | "xdigit" => some .xdigit
  | _ => none

/-- The name of an ASCII class and its end, after the sign that negates it. -/
def readAsciiName? (negated : Bool) (r : List Char) : Option (SetItem × List Char) :=
  match cutAt ':' r with
  | some (name, ']' :: rest) =>
    (asciiClass? (String.ofList name)).map fun cls => (.ascii negated cls, rest)
  | _ => none

/-- An ASCII class such as `[:alpha:]`, after its first bracket; `none` when the text is none. -/
def readAsciiClass? : List Char → Option (SetItem × List Char)
  | ':' :: '^' :: r => readAsciiName? true r
  | ':' :: r => readAsciiName? false r
  | _ => none

/-- Sets in brackets that are open: the members before each, and the left sides that wait for the
right side of an operation. -/
inductive OpenSet where
  | bracket (before : List SetItem) (negated : Bool)
  | op (kind : SetOp) (lhs : SetExpr)

/-- Hyphens at the start of a set stand for themselves. -/
def readHyphens (verbose : Bool) (items : List SetItem) : Nat → List Char →
    List SetItem × List Char
  | fuel + 1, '-' :: r =>
    readHyphens verbose (.literal ⟨'-', false⟩ :: items) fuel (skipIgnored verbose r)
  | _, s => (items, s)

/-- The members at the start of a set that would be read differently elsewhere. -/
def openItems (verbose negated : Bool) (r : List Char) : Read (Bool × List SetItem) :=
  match readHyphens verbose [] r.length r with
  | (_, []) => .error .unclosedSet
  | ([], ']' :: r) =>
    match skipIgnored verbose r with
    | [] => .error .unclosedSet
    | r => .ok ((negated, [.literal ⟨']', false⟩]), r)
  | (items, r) => .ok ((negated, items), r)

/-- What follows the bracket that opens a set: whether it is negated, and the members that would be
read differently elsewhere. -/
def openSet (verbose : Bool) (r : List Char) : Read (Bool × List SetItem) :=
  match skipIgnored verbose r with
  | '^' :: r => openItems verbose true (skipIgnored verbose r)
  | r => openItems verbose false r

/-- One end of a range, or a member of its own. -/
def readSetAtom (verbose : Bool) : List Char → Read Escaped
  | [] => .error .unclosedSet
  | '\\' :: r => readEscape verbose r
  | c :: r => .ok (.literal ⟨c, false⟩, r)

/-- A member of its own. -/
def Escaped.item : Escaped → Except PatternError SetItem
  | .literal l => .ok (.literal l)
  | .property negated q => .ok (.property negated q)
  | .letter negated cls => .ok (.letter negated cls)
  | .assertion _ => .error .badSetMember

/-- The range from one end on, after a hyphen. Before the end of the set or another hyphen that end is a
member of its own, and the hyphen is left. -/
def readRange (verbose : Bool) (first : Escaped) (r : List Char) : Read SetItem :=
  let next := peekPast verbose r
  if next = some ']' || next = some '-' then first.item.map fun i => (i, '-' :: r)
  else match skipIgnored verbose r with
    | [] => .error .unclosedSet
    | r =>
      (readSetAtom verbose r).bind fun (last, rest) =>
        match first, last with
        | .literal a, .literal b =>
          if a.char ≤ b.char then .ok (.range a b, rest) else .error .badSetMember
        | _, _ => .error .badSetMember

/-- A member or a range. -/
def readSetItem (verbose : Bool) (s : List Char) : Read SetItem :=
  (readSetAtom verbose s).bind fun (first, rest) =>
    match skipIgnored verbose rest with
    | [] => .error .unclosedSet
    | '-' :: r => readRange verbose first r
    | rest => first.item.map fun i => (i, rest)

/-- Gives members to the operation that waits for them, if one does. -/
def closeOp (items : List SetItem) : List OpenSet → SetExpr × List OpenSet
  | .op kind lhs :: stack => (.op kind lhs (.item (.ofList items.reverse)), stack)
  | stack => (.item (.ofList items.reverse), stack)

/-- The rest of a set whose bracket is open, with at most `fuel` steps. -/
def readSet (verbose : Bool) (items : List SetItem) (stack : List OpenSet) : Nat → List Char →
    Read Ast
  | 0, _ => .error .unclosedSet
  | fuel + 1, s =>
    let operation (kind : SetOp) (r : List Char) : Read Ast :=
      let (lhs, stack) := closeOp items stack
      readSet verbose [] (.op kind lhs :: stack) fuel r
    match skipIgnored verbose s with
    | [] => .error .unclosedSet
    | '[' :: r =>
      match readAsciiClass? r with
      | some (item, rest) => readSet verbose (item :: items) stack fuel rest
      | none =>
        (openSet verbose r).bind fun ((negated, first), rest) =>
          readSet verbose first (.bracket items negated :: stack) fuel rest
    | ']' :: r =>
      let (set, stack) := closeOp items stack
      match stack with
      | [.bracket _ negated] => .ok (.bracket negated set, r)
      | .bracket before negated :: stack =>
        readSet verbose (.bracket negated set :: before) stack fuel r
      | _ => .error .unclosedSet
    | '&' :: '&' :: r => operation .intersection r
    | '-' :: '-' :: r => operation .difference r
    | '~' :: '~' :: r => operation .symmetricDifference r
    | s => (readSetItem verbose s).bind fun (item, rest) => readSet verbose (item :: items) stack fuel rest

/-- A set in brackets, after its first one. -/
def readBracket (verbose : Bool) (r : List Char) : Read Ast :=
  (openSet verbose r).bind fun ((negated, items), rest) =>
    readSet verbose items [.bracket [] negated] (rest.length + 1) rest

/-- The pattern of an escape. -/
def Escaped.ast : Escaped → Ast
  | .literal l => .literal l
  | .assertion a => .assertion a
  | .property negated q => .property negated q
  | .letter negated cls => .letter negated cls

/-- Reads the part that begins with `c`. -/
def State.step (st : State) (c : Char) (r : List Char) : Except PatternError State :=
  let part (a : Ast) (rest : List Char) : State := { st with rest, level := st.level.push a }
  match c with
  | '(' => st.readGroup r
  | ')' => st.closeGroup r
  | '|' => .ok (st.nextBranch r)
  | '[' => (readBracket st.verbose r).map fun (a, rest) => part a rest
  | '?' => st.repeat 0 (some 1) r
  | '*' => st.repeat 0 none r
  | '+' => st.repeat 1 none r
  | '{' => st.readCount r
  | '\\' => (readEscape st.verbose r).map fun (e, rest) => part e.ast rest
  | '.' => .ok (part .dot r)
  | '^' => .ok (part (.assertion .startLine) r)
  | '$' => .ok (part (.assertion .endLine) r)
  | c => .ok (part (.literal ⟨c, false⟩) r)

/-- The alternatives of a text that has been read to its end. -/
def State.finish (st : State) : Except PatternError Level :=
  match st.stack with
  | [] => .ok st.level
  | _ => .error .unclosedGroup

/-- Reads to the end of the text, with at most `fuel` steps. -/
def State.run : Nat → State → Except PatternError Level
  | 0, _ => .error .unclosedGroup
  | fuel + 1, st =>
    match skipIgnored st.verbose st.rest with
    | [] => st.finish
    | c :: r => (st.step c r).bind (State.run fuel)

/-- The alternatives that a text denotes. -/
def Level.read (s : List Char) : Except PatternError Level :=
  (State.run (s.length + 1) { rest := s }).bind fun level =>
    if level.close.depth ≤ depthLimit then .ok level else .error .tooDeep

end Transcript.Pattern
