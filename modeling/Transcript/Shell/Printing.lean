import Transcript.Duration
import Transcript.Number.Numeral
import Transcript.Number.Power
import Transcript.Shell.World

/-!
# Programs that print

`echo` in its two kinds, `printf` and `seq`. Of the two kinds of `echo` the one inside the shell
understands backslashes and the program does not unless it is told to.
-/

namespace Transcript.Shell.Printing

open Text (Bytes)

/-- The value of an octal digit. -/
def octal? (c : Char) : Option Nat :=
  if '0' ≤ c && c ≤ '7' then some (c.toNat - 48) else none

/-- The value of a hexadecimal digit. -/
def hex? (c : Char) : Option Nat :=
  if c.isDigit then some (c.toNat - 48)
  else if 'a' ≤ c.toLower && c.toLower ≤ 'f' then some (c.toLower.toNat - 87) else none

/-- The number of up to `n` digits, and what follows them. -/
def digitsUpTo (value? : Char → Option Nat) (base : Nat) : Nat → Nat → List Char → Nat × List Char
  | 0, acc, r => (acc, r)
  | n + 1, acc, c :: r =>
    match value? c with
    | some v => digitsUpTo value? base n (acc * base + v) r
    | none => (acc, c :: r)
  | _ + 1, acc, [] => (acc, [])

/-- The bytes of a text. -/
def bytesOf (s : List Char) : Bytes :=
  Text.encode (String.ofList s)

/-- The byte of an escape of one letter. -/
def letter? : Char → Option UInt8
  | 'a' => some 7
  | 'b' => some 8
  | 'e' => some 27
  | 't' => some 9
  | 'n' => some 10
  | 'v' => some 11
  | 'f' => some 12
  | 'r' => some 13
  | '\\' => some 92
  | _ => none

/-- What is written for a text with escapes, and whether writing goes on after it. Octal numbers need a
zero in front where `zero` says so. -/
def unescape (zero : Bool) : Nat → List Char → Bytes × Bool
  | 0, _ => ([], true)
  | _ + 1, [] => ([], true)
  | fuel + 1, '\\' :: c :: r =>
    let goOn (bs : Bytes) (r : List Char) : Bytes × Bool :=
      let (rest, more) := unescape zero fuel r
      (bs ++ rest, more)
    match letter? c with
    | some b => goOn [b] r
    | none =>
      if c == 'c' then ([], false)
      else if c == 'x' && (r.head?.bind hex?).isSome then
        let (n, r) := digitsUpTo hex? 16 2 0 r
        goOn [n.toUInt8] r
      else if c == '0' && zero then
        let (n, r) := digitsUpTo octal? 8 3 0 r
        goOn [n.toUInt8] r
      else if !zero && (octal? c).isSome then
        let (n, r) := digitsUpTo octal? 8 3 0 (c :: r)
        goOn [n.toUInt8] r
      else if !zero && c == '"' then goOn [34] r
      else goOn (bytesOf ['\\', c]) r
  | fuel + 1, c :: r =>
    let (rest, more) := unescape zero fuel r
    (bytesOf [c] ++ rest, more)

/-- Writes bytes. -/
def put (bytes : Bytes) : Act Nat := do
  let _ ← writeBytes 1 bytes
  return 0

/-- The `echo` inside the shell. -/
def echoBuiltin (args : List (List Char)) : Act Nat := do
  let (newLine, args) := match args with
    | ['-', 'n'] :: r => (false, r)
    | r => (true, r)
  let text := List.intercalate [' '] args
  let (bytes, more) := unescape true (text.length + 1) text
  if ← writeBytes 1 (bytes ++ if newLine && more then [10] else []) then return 0
  grumble "echo: echo: I/O error"
  return 1

/-- An argument that only sets how `echo` writes. -/
def isEchoOption : List Char → Bool
  | '-' :: c :: r => (c :: r).all fun d => d == 'n' || d == 'e' || d == 'E'
  | _ => false

/-- The program `echo`. -/
def echoProgram (args : List (List Char)) : Act Nat := do
  let opts := (args.takeWhile isEchoOption).flatMap List.tail
  let text := List.intercalate [' '] (args.dropWhile isEchoOption)
  let newLine := !opts.contains 'n'
  let escapes := ((opts.filter (· ≠ 'n')).getLast?) == some 'e'
  let (bytes, more) := if escapes then unescape true (text.length + 1) text
    else (bytesOf text, true)
  put (bytes ++ if newLine && more then [10] else [])

/-! ## Formats -/

/-- How a value is written into a format. -/
structure Directive where
  left : Bool := false
  zeros : Bool := false
  plus : Bool := false
  blank : Bool := false
  alternate : Bool := false
  width : Nat := 0
  precision : Option Nat := none
  kind : Char
deriving Repr

/-- Bytes with others beside them up to a width. -/
def pad (d : Directive) (fill : UInt8) (bytes : Bytes) : Bytes :=
  let missing := List.replicate (d.width - bytes.length) fill
  if d.left then bytes ++ List.replicate (d.width - bytes.length) 32 else missing ++ bytes

/-- The number that an argument denotes: decimal, octal, hexadecimal, or the code of a character. -/
def integerOf (s : List Char) : Int × Bool :=
  let (negative, r) := Number.readSign (s.dropWhile Char.isWhitespace)
  let signed (n : Nat) : Int := if negative then -(n : Int) else n
  match s with
  | '\'' :: c :: _ | '"' :: c :: _ => (c.toNat, true)
  | _ =>
    match r with
    | '0' :: x :: ds =>
      if (x == 'x' || x == 'X') && !ds.isEmpty then
        let (n, rest) := digitsUpTo hex? 16 ds.length 0 ds
        (signed n, rest.isEmpty)
      else
        let (n, rest) := digitsUpTo octal? 8 r.length 0 r
        (signed n, rest.isEmpty)
    | ds =>
      let (n, rest) := digitsUpTo (fun c => if c.isDigit then some (c.toNat - 48) else none) 10
        ds.length 0 ds
      (signed n, rest.isEmpty && !s.isEmpty)

/-- A number with its sign and at least the digits that a directive asks for. -/
def formatInteger (d : Directive) (n : Int) : Bytes :=
  let magnitude := if n < 0 && d.kind != 'd' && d.kind != 'i' then (n + Number.twoTo 64).toNat else n.natAbs
  let digits := match d.kind with
    | 'x' => Nat.toDigits 16 magnitude
    | 'X' => (Nat.toDigits 16 magnitude).map Char.toUpper
    | 'o' => Nat.toDigits 8 magnitude
    | _ => Nat.toDigits 10 magnitude
  let digits := List.replicate (d.precision.getD 1 - digits.length) '0' ++ digits
  let lead := if d.kind == 'd' || d.kind == 'i' then
      if n < 0 then ['-'] else if d.plus then ['+'] else if d.blank then [' '] else []
    else if d.alternate && magnitude ≠ 0 then
      match d.kind with
      | 'x' => ['0', 'x']
      | 'X' => ['0', 'X']
      | 'o' => ['0']
      | _ => []
    else []
  if d.zeros && !d.left && d.precision.isNone then
    bytesOf (lead ++ List.replicate (d.width - lead.length - digits.length) '0' ++ digits)
  else pad d 32 (bytesOf (lead ++ digits))

/-- A number with a fixed count of places after the point. -/
def formatFixed (d : Directive) (x : Number.Binary64) : Bytes :=
  match x with
  | .finite negative units =>
    let places := d.precision.getD 6
    let n := Number.divNearest (units * Number.tenTo places) Number.Binary64.oneUnits
    let digits := Number.writePositional n (-(places : Int))
    let digits := if places = 0 then Nat.toDigits 10 n else digits
    let lead := if negative then ['-'] else if d.plus then ['+'] else []
    if d.zeros && !d.left then
      bytesOf (lead ++ List.replicate (d.width - lead.length - digits.length) '0' ++ digits)
    else pad d 32 (bytesOf (lead ++ digits))
  | .infinite negative => pad d 32 (bytesOf (if negative then "-inf".toList else "inf".toList))
  | .nan => pad d 32 (bytesOf "nan".toList)

/-- The flags of a directive. -/
def readFlags (d : Directive) : List Char → Directive × List Char
  | '-' :: r => readFlags { d with left := true } r
  | '0' :: r => readFlags { d with zeros := true } r
  | '+' :: r => readFlags { d with plus := true } r
  | ' ' :: r => readFlags { d with blank := true } r
  | '#' :: r => readFlags { d with alternate := true } r
  | r => (d, r)

/-- How far a format has been worked through. -/
structure Progress where
  output : Bytes := []
  args : List (List Char)
  used : Bool := false
  bad : List (List Char) := []
  stopped : Bool := false

/-- A width or a precision: digits, or a star for the next argument. -/
def readCount (p : Progress) : List Char → Option Nat × Progress × List Char
  | '*' :: r =>
    (some (integerOf (p.args.headD [])).1.toNat, { p with args := p.args.tail, used := true }, r)
  | r =>
    let (ds, r) := r.span Char.isDigit
    (if ds.isEmpty then none else some (Number.digitsValue ds), p, r)

/-- Writes the next argument as a directive says. -/
def writeDirective (d : Directive) (p : Progress) : Progress :=
  let arg := p.args.headD []
  let p := { p with args := p.args.tail, used := true }
  let push (bs : Bytes) (ok : Bool) : Progress :=
    { p with output := p.output ++ bs, bad := if ok then p.bad else p.bad ++ [arg] }
  match d.kind with
  | 's' =>
    let bytes := bytesOf arg
    push (pad d 32 (match d.precision with | some n => bytes.take n | none => bytes)) true
  | 'b' =>
    let (bytes, more) := unescape true (arg.length + 1) arg
    { push (pad d 32 bytes) true with stopped := !more }
  | 'c' => push (pad d 32 ((bytesOf arg).take 1)) true
  | 'f' | 'F' | 'e' | 'g' | 'E' | 'G' =>
    match Number.readNumber? arg with
    | some x => push (formatFixed d x) true
    | none => push (formatFixed d (.finite false 0)) arg.isEmpty
  | _ =>
    let (n, ok) := integerOf arg
    push (formatInteger d n) (ok || arg.isEmpty)

/-- Works through a format once. -/
def runFormat : Nat → Progress → List Char → Progress
  | 0, p, _ => p
  | fuel + 1, p, s =>
    if p.stopped then p
    else match s with
      | [] => p
      | '%' :: '%' :: r => runFormat fuel { p with output := p.output ++ [37] } r
      | '%' :: r =>
        let (d, r) := readFlags { kind := 's' } r
        let (width, p, r) := readCount p r
        let (precision, p, r) := match r with
          | '.' :: r =>
            let (n, p, r) := readCount p r
            (some (n.getD 0), p, r)
          | r => (none, p, r)
        match r with
        | k :: r =>
          if "sbcdiouxXfFeEgG".toList.contains k then
            runFormat fuel (writeDirective { d with width := width.getD 0, precision, kind := k } p) r
          else { p with bad := p.bad ++ [['%', k]], stopped := true }
        | [] => { p with bad := p.bad ++ [['%']], stopped := true }
      | '\\' :: c :: r =>
        let taken := if (octal? c).isSome then
            1 + (((c :: r).take 3).takeWhile fun d => (octal? d).isSome).length
          else if c == 'x' then 2 + ((r.take 2).takeWhile fun d => (hex? d).isSome).length
          else 2
        let piece := ('\\' :: c :: r).take taken
        let (bytes, more) := unescape false (taken + 1) piece
        runFormat fuel { p with output := p.output ++ bytes, stopped := !more }
          (('\\' :: c :: r).drop taken)
      | c :: r => runFormat fuel { p with output := p.output ++ bytesOf [c] } r

/-- Works through a format as long as there are arguments. -/
def repeatFormat (format : List Char) : Nat → Progress → Progress
  | 0, p => p
  | fuel + 1, p =>
    let q := runFormat (format.length + 1) { p with used := false } format
    if q.args.isEmpty || !q.used || q.stopped then q else repeatFormat format fuel q

/-- `printf`; `tell` complains about an argument, and `noFormat` is the status where there is none. -/
def printfWith (tell : String → Act Unit) (noFormat : Nat) (args : List (List Char)) : Act Nat := do
  let args := match args with
    | ['-', '-'] :: r => r
    | r => r
  match args with
  | [] =>
    tell "usage: printf format [arg ...]"
    return noFormat
  | format :: args =>
    let p := repeatFormat format (args.length + 1) { args := args }
    let _ ← p.bad.mapM fun a => tell (String.ofList a ++ ": expected numeric value")
    let _ ← writeBytes 1 p.output
    return if p.bad.isEmpty then 0 else 1

/-- The `printf` inside the shell. -/
def printfBuiltin : List (List Char) → Act Nat :=
  printfWith (fun s => grumble ("printf: " ++ s)) 2

/-- The program `printf`. -/
def printfProgram : List (List Char) → Act Nat :=
  printfWith (fun s => complain ("printf: " ++ s)) 1

/-! ## Sequences -/

/-- A whole number. -/
def wholeNumber? (s : List Char) : Option Int :=
  let (negative, r) := Number.readSign s
  if r.isEmpty || !r.all Char.isDigit then none
  else some (if negative then -(Number.digitsValue r : Int) else Number.digitsValue r)

/-- The numbers from one to another, with a step. -/
def sequence (first step last : Int) : List Int :=
  if step = 0 then []
  else
    let count := if 0 < step then (last - first) / step + 1 else (first - last) / (-step) + 1
    (List.range count.toNat).map fun (k : Nat) => first + step * (k : Int)

/-- `seq`. -/
def seq (args : List (List Char)) : Act Nat := do
  let (separator, args) := match args with
    | ['-', 's'] :: s :: r => (s, r)
    | ('-' :: 's' :: s) :: r => (s, r)
    | r => (['\n'], r)
  match args.mapM wholeNumber? with
  | some [last] => run separator 1 1 last
  | some [first, last] => run separator first 1 last
  | some [first, step, last] => run separator first step last
  | _ =>
    complain "seq: invalid operand"
    return 1
where
  /-- Writes a sequence. -/
  run (separator : List Char) (first step last : Int) : Act Nat := do
    let ns := (sequence first step last).map fun n => (toString n).toList
    if !ns.isEmpty then sayLine (List.intercalate separator ns)
    return 0

end Transcript.Shell.Printing
