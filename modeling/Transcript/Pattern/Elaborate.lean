import Transcript.Pattern.Dialect
import Transcript.Pattern.Reader
import Transcript.Unicode.CaseFold

/-!
# From written patterns to expressions

Applies the flags of a pattern and resolves the names of its sets. A change of flags holds to the end
of the group that it stands in, also across alternatives. Without the flag `unicode` the classes are
those of ASCII, and what would match a part of a character is refused.
-/

namespace Transcript.Pattern

open Unicode (CharSet)

/-- The flags in force. -/
structure Flags where
  ignoreCase : Bool := false
  multiLine : Bool := false
  dotMatchesAll : Bool := false
  swapGreed : Bool := false
  unicode : Bool := true
  carriageReturns : Bool := false
deriving DecidableEq, Repr

/-- Flags after a change. -/
def Flags.apply (flags : Flags) (change : FlagChange) : Flags where
  ignoreCase := (change.state? .ignoreCase).getD flags.ignoreCase
  multiLine := (change.state? .multiLine).getD flags.multiLine
  dotMatchesAll := (change.state? .dotMatchesAll).getD flags.dotMatchesAll
  swapGreed := (change.state? .swapGreed).getD flags.swapGreed
  unicode := (change.state? .unicode).getD flags.unicode
  carriageReturns := (change.state? .carriageReturns).getD flags.carriageReturns

/-- The characters of an ASCII class. -/
def AsciiClass.set (cls : AsciiClass) : CharSet :=
  let range (a b : Char) : Nat × Nat := (a.toNat, b.toNat)
  .ofIntervals (match cls with
    | .alnum => [range '0' '9', range 'A' 'Z', range 'a' 'z']
    | .alpha => [range 'A' 'Z', range 'a' 'z']
    | .ascii => [(0, 127)]
    | .blank => [(9, 9), (32, 32)]
    | .cntrl => [(0, 31), (127, 127)]
    | .digit => [range '0' '9']
    | .graph => [range '!' '~']
    | .lower => [range 'a' 'z']
    | .print => [range ' ' '~']
    | .punct => [range '!' '/', range ':' '@', (91, 96), (123, 126)]
    | .space => [(9, 13), (32, 32)]
    | .upper => [range 'A' 'Z']
    | .word => [range '0' '9', range 'A' 'Z', range 'a' 'z', range '_' '_']
    | .xdigit => [range '0' '9', range 'A' 'F', range 'a' 'f'])

/-- The ASCII letters that are the same letter in either case. -/
def foldAscii (s : CharSet) : CharSet :=
  (List.range 26).foldl (fun acc k =>
    let upper := 65 + k
    let lower := 97 + k
    if s.containsCode upper || s.containsCode lower then
      (acc.union (.interval upper upper)).union (.interval lower lower)
    else acc) s

/-- A set as the flags in force and a negation change it. -/
def Flags.finish (flags : Flags) (negated : Bool) (s : CharSet) : Except PatternError CharSet :=
  if flags.unicode then
    let s := if flags.ignoreCase then s.foldCase else s
    .ok (if negated then s.compl else s)
  else if negated then .error .notText
  else .ok (if flags.ignoreCase then foldAscii s else s)

/-- A set as the two sides of an operation see it. -/
def Flags.fold (flags : Flags) (s : CharSet) : CharSet :=
  if flags.ignoreCase then if flags.unicode then s.foldCase else foldAscii s else s

/-- A class with an escape of one letter. -/
def Flags.letterClass (flags : Flags) (negated : Bool) (cls : LetterClass) :
    Except PatternError CharSet :=
  if flags.unicode then
    let s := match cls with
      | .digit => Unicode.digits
      | .space => Unicode.spaces
      | .word => Unicode.wordCharacters
    .ok (if negated then s.compl else s)
  else if negated then .error .notText
  else
    .ok (match cls with
      | .digit => AsciiClass.digit.set
      | .space => AsciiClass.space.set
      | .word => AsciiClass.word.set)

/-- The set of a property. -/
def Flags.property [Dialect] (flags : Flags) (negated : Bool) (query : Unicode.PropertyQuery) :
    Except PatternError CharSet :=
  if !flags.unicode then .error .unknownProperty
  else match Dialect.property? query with
    | some s => flags.finish negated s
    | none => .error .unknownProperty

/-- A character in a set; outside `unicode` it has to be ASCII. -/
def Flags.setChar (flags : Flags) (l : Literal) : Except PatternError Nat :=
  if flags.unicode || l.char.toNat < 128 then .ok l.char.toNat else .error .notText

/-- Combines two sets. -/
def SetOp.apply : SetOp → CharSet → CharSet → CharSet
  | .intersection => CharSet.inter
  | .difference => CharSet.diff
  | .symmetricDifference => CharSet.symmDiff

mutual

/-- The characters of a member of a set. -/
def SetItem.set [Dialect] (flags : Flags) : SetItem → Except PatternError CharSet
  | .literal l => (flags.setChar l).map fun n => .interval n n
  | .range a b => (flags.setChar a).bind fun m => (flags.setChar b).map fun n => .interval m n
  | .ascii negated cls => flags.finish negated cls.set
  | .property negated query => flags.property negated query
  | .letter negated cls => flags.letterClass negated cls
  | .bracket negated s => (s.set flags).bind (flags.finish negated)
  | .union items => SetItem.setAll flags items

/-- The characters of several members. -/
def SetItem.setAll [Dialect] (flags : Flags) : List SetItem → Except PatternError CharSet
  | [] => .ok .empty
  | i :: is => (i.set flags).bind fun s => (SetItem.setAll flags is).map s.union

/-- The characters of what stands in brackets. -/
def SetExpr.set [Dialect] (flags : Flags) : SetExpr → Except PatternError CharSet
  | .item i => i.set flags
  | .op kind lhs rhs =>
    (lhs.set flags).bind fun a => (rhs.set flags).map fun b => kind.apply (flags.fold a) (flags.fold b)

end

/-- The place of an assertion. -/
def Flags.look (flags : Flags) : Assertion → Look
  | .startLine =>
    if flags.multiLine then if flags.carriageReturns then .startLineReturn else .startLine else .start
  | .endLine =>
    if flags.multiLine then if flags.carriageReturns then .endLineReturn else .endLine else .stop
  | .startText => .start
  | .endText => .stop
  | .wordBoundary => .word flags.unicode false
  | .notWordBoundary => .word flags.unicode true
  | .wordStart => .wordStart flags.unicode
  | .wordEnd => .wordEnd flags.unicode
  | .wordStartHalf => .wordStartHalf flags.unicode
  | .wordEndHalf => .wordEndHalf flags.unicode

/-- The set of a dot. -/
def Flags.dot (flags : Flags) : Except PatternError CharSet :=
  if !flags.unicode then .error .notText
  else if flags.dotMatchesAll then .ok .univ
  else if flags.carriageReturns then .ok (CharSet.compl (.ofIntervals [(10, 10), (13, 13)]))
  else .ok (CharSet.compl (.interval 10 10))

/-- A character outside sets. -/
def Flags.char (flags : Flags) (l : Literal) : Except PatternError Expr :=
  let c := l.char
  if !flags.unicode && l.byte && c.toNat ≥ 128 then .error .notText
  else if !flags.ignoreCase then .ok (.literal [c])
  else if flags.unicode then
    match Unicode.caseVariants? c with
    | some s => .ok (.ofSet s)
    | none => .ok (.literal [c])
  else if c.isAlpha then .ok (.ofSet (foldAscii (.single c)))
  else .ok (.literal [c])

mutual

/-- The expression of a pattern, and the flags that hold after it. -/
def Ast.elaborate [Dialect] (flags : Flags) : Ast → Except PatternError (Expr × Flags)
  | .empty => .ok (.empty, flags)
  | .flags change => .ok (.empty, flags.apply change)
  | .literal l => (flags.char l).map (·, flags)
  | .dot => flags.dot.map fun s => (.ofSet s, flags)
  | .assertion a => .ok (.look (flags.look a), flags)
  | .property negated query => (flags.property negated query).map fun s => (.ofSet s, flags)
  | .letter negated cls => (flags.letterClass negated cls).map fun s => (.ofSet s, flags)
  | .bracket negated set =>
    ((set.set flags).bind (flags.finish negated)).map fun s => (.ofSet s, flags)
  | .repetition min max greedy body =>
    (body.elaborate flags).map fun (e, after) =>
      (.times min max (greedy != after.swapGreed) e, after)
  | .group (.capture index) body =>
    (body.elaborate flags).map fun (e, _) => (.group index e, flags)
  | .group (.plain change) body => (body.elaborate (flags.apply change)).map fun (e, _) => (e, flags)
  | .alternation branches =>
    (Ast.elaborateAll flags branches).map fun (es, after) => (.oneOf es, after)
  | .concat parts => (Ast.elaborateAll flags parts).map fun (es, after) => (.row es, after)

/-- The expressions of several patterns, with the flags passed on from each to the next. -/
def Ast.elaborateAll [Dialect] (flags : Flags) : List Ast → Except PatternError (List Expr × Flags)
  | [] => .ok ([], flags)
  | a :: as =>
    (a.elaborate flags).bind fun (e, next) =>
      (Ast.elaborateAll next as).map fun (es, after) => (e :: es, after)

end

/-- The expression of a pattern's text. -/
def Expr.read [Dialect] (s : List Char) : Except PatternError Expr :=
  (Level.read s).bind fun level => (level.close.elaborate {}).map Prod.fst

end Transcript.Pattern
