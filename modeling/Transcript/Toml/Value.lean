import Transcript.Number.Numeral
import Transcript.Number.Power

/-!
# Values of TOML

Reads strings, numbers and booleans of TOML. Digits may be grouped by single underscores, a decimal
number does not begin with a zero, whole numbers have 64 bits, and a float is finite unless it is
written as infinity. Arrays, tables and dates are refused.
-/

namespace Transcript.Toml

open Number (Binary64)

/-- Why a text is no TOML that can be used. -/
inductive Refusal where
  | badKey
  | missingEquals
  | badString
  | badEscape
  | badNumber
  | badValue
  | badLine
  | duplicateKey
deriving DecidableEq, Repr

/-- A value that is no collection. -/
inductive Value where
  | string (s : List Char)
  | whole (n : Int)
  | float (x : Binary64)
  | bool (b : Bool)
deriving DecidableEq, Repr

/-- A reader takes something from the front of a text and gives the rest back. -/
abbrev Read (α : Type) := Except Refusal (α × List Char)

/-- A space or a tab. -/
def isSpace (c : Char) : Bool :=
  c == ' ' || c == '\t'

/-- A text without the blanks it begins with. -/
def skipSpaces (s : List Char) : List Char :=
  s.dropWhile isSpace

/-- A text after the end of a line, if that is where it begins. -/
def newLine? : List Char → Option (List Char)
  | '\n' :: r => some r
  | '\r' :: '\n' :: r => some r
  | _ => none

/-- A character that may stand in comments and strings. -/
def isPlain (c : Char) : Bool :=
  c == '\t' || (0x20 ≤ c.toNat && c.toNat ≠ 0x7F)

/-! ## Strings -/

/-- The value of a hexadecimal digit. -/
def hexDigit? (c : Char) : Option Nat :=
  if c.isDigit then some (c.toNat - '0'.toNat)
  else if 'a' ≤ c && c ≤ 'f' then some (c.toNat - 'a'.toNat + 10)
  else if 'A' ≤ c && c ≤ 'F' then some (c.toNat - 'A'.toNat + 10)
  else none

/-- The character whose code point is written with `n` digits. -/
def readCodePoint (n : Nat) (s : List Char) : Read Char :=
  let ds := s.take n
  match if ds.length = n then ds.foldlM (fun acc d => (hexDigit? d).map (acc * 16 + ·)) 0 else none with
  | some v => if h : v.isValidChar then .ok (Char.ofNatAux v h, s.drop n) else .error .badEscape
  | none => .error .badEscape

/-- The character of an escape, from the letter after the backslash on. -/
def readEscape : List Char → Read Char
  | 'b' :: r => .ok ('\x08', r)
  | 't' :: r => .ok ('\t', r)
  | 'n' :: r => .ok ('\n', r)
  | 'f' :: r => .ok ('\x0c', r)
  | 'r' :: r => .ok ('\r', r)
  | '"' :: r => .ok ('"', r)
  | '\\' :: r => .ok ('\\', r)
  | 'u' :: r => readCodePoint 4 r
  | 'U' :: r => readCodePoint 8 r
  | _ => .error .badEscape

/-- A string of one line up to its second quote; escapes count between double quotes only. -/
def readLine (quote : Char) : Nat → List Char → List Char → Read (List Char)
  | 0, _, _ => .error .badString
  | fuel + 1, acc, s =>
    match s with
    | [] => .error .badString
    | c :: r =>
      if c == quote then .ok (acc.reverse, r)
      else if c == '\\' && quote == '"' then
        (readEscape r).bind fun (e, r) => readLine quote fuel (e :: acc) r
      else if isPlain c then readLine quote fuel (c :: acc) r
      else .error .badString

/-- A text after blanks and line ends. -/
def skipBlankLines : Nat → List Char → List Char
  | 0, s => s
  | fuel + 1, s =>
    let s := skipSpaces s
    match newLine? s with
    | some r => skipBlankLines fuel r
    | none => s

/-- A text after a backslash at the end of a line, with the blanks that this joins. -/
def joinedLine? (s : List Char) : Option (List Char) :=
  (newLine? (skipSpaces s)).map fun r => skipBlankLines (r.length + 1) r

/-- A string of several lines up to its last three quotes; two more quotes in front of those count as
content. -/
def readLines (quote : Char) : Nat → List Char → List Char → Read (List Char)
  | 0, _, _ => .error .badString
  | fuel + 1, acc, s =>
    match s with
    | [] => .error .badString
    | c :: r =>
      if c == quote then
        let quotes := (s.takeWhile (· == quote)).length
        if quotes < 3 then readLines quote fuel (c :: acc) r
        else if quotes ≤ 5 then
          .ok (acc.reverse ++ List.replicate (quotes - 3) quote, s.drop quotes)
        else .ok (acc.reverse ++ [quote, quote], s.drop 5)
      else if c == '\\' && quote == '"' then
        match joinedLine? r with
        | some r => readLines quote fuel acc r
        | none => (readEscape r).bind fun (e, r) => readLines quote fuel (e :: acc) r
      else match newLine? s with
        | some r => readLines quote fuel ('\n' :: acc) r
        | none => if isPlain c then readLines quote fuel (c :: acc) r else .error .badString

/-- A string from its first quote on; a line end right after three quotes does not count. -/
def readString (quote : Char) (s : List Char) : Read (List Char) :=
  if s.take 3 == [quote, quote, quote] then
    let r := s.drop 3
    let r := (newLine? r).getD r
    readLines quote (r.length + 1) [] r
  else readLine quote (s.length + 1) [] (s.drop 1)

/-! ## Numbers -/

/-- Digits without the underscores between them; an underscore has a digit on either side. -/
def ungroup? (isDigit : Char → Bool) : List Char → Option (List Char)
  | [] => none
  | [c] => if isDigit c then some [c] else none
  | c :: '_' :: d :: r =>
    if isDigit c then (ungroup? isDigit (d :: r)).map (c :: ·) else none
  | c :: r => if isDigit c then (ungroup? isDigit r).map (c :: ·) else none

/-- A whole number that 64 bits hold. -/
def wholeOf (negative : Bool) (n : Nat) : Except Refusal Value :=
  if negative then if n ≤ Number.twoTo 63 then .ok (.whole (-(n : Int))) else .error .badNumber
  else if n < Number.twoTo 63 then .ok (.whole n) else .error .badNumber

/-- The value of digits in a base. -/
def valueIn (base : Nat) (ds : List Char) : Nat :=
  ds.foldl (fun acc d => acc * base + (hexDigit? d).getD 0) 0

/-- A whole number in another base, after its two letters. -/
def readBased (base : Nat) (ds : List Char) : Except Refusal Value :=
  match ungroup? (fun d => (hexDigit? d).any (· < base)) ds with
  | some ds => wholeOf false (valueIn base ds)
  | none => .error .badNumber

/-- The digits of a number before its point: no zero stands in front of others. -/
def wholeDigits? (ds : List Char) : Option (List Char) :=
  (ungroup? Char.isDigit ds).filter fun ds => ds.length = 1 || ds.head? != some '0'

/-- A float of a whole part, a fraction and an exponent. -/
def floatOf (negative : Bool) (whole fraction exponent : List Char) : Except Refusal Value :=
  let written := whole ++ '.' :: fraction ++ 'e' :: exponent
  match Number.readMagnitude? negative written with
  | some (.finite n u) => .ok (.float (.finite n u))
  | _ => .error .badNumber

/-- The exponent of a float after its letter, with a sign if it has one. -/
def exponentDigits? : List Char → Option (List Char)
  | '-' :: r => (ungroup? Char.isDigit r).map ('-' :: ·)
  | '+' :: r => ungroup? Char.isDigit r
  | r => ungroup? Char.isDigit r

/-- A decimal number without its sign. -/
def readDecimal (negative : Bool) (s : List Char) : Except Refusal Value :=
  let isMark (c : Char) : Bool := c == 'e' || c == 'E'
  let (mantissa, e) := s.span (fun c => !isMark c)
  let (whole, f) := mantissa.span (· ≠ '.')
  match wholeDigits? whole, f, e with
  | none, _, _ => .error .badNumber
  | some ds, [], [] => wholeOf negative (Number.digitsValue ds)
  | some ds, [], _ :: e =>
    match exponentDigits? e with
    | some e => floatOf negative ds ['0'] e
    | none => .error .badNumber
  | some ds, _ :: f, [] =>
    match ungroup? Char.isDigit f with
    | some f => floatOf negative ds f ['0']
    | none => .error .badNumber
  | some ds, _ :: f, _ :: e =>
    match ungroup? Char.isDigit f, exponentDigits? e with
    | some f, some e => floatOf negative ds f e
    | _, _ => .error .badNumber

/-- A number from its sign on. -/
def readNumber (s : List Char) : Except Refusal Value :=
  let (negative, r) := Number.readSign s
  match r with
  | ['i', 'n', 'f'] => .ok (.float (.infinite negative))
  | ['n', 'a', 'n'] => .ok (.float .nan)
  | '0' :: 'x' :: ds => if r = s then readBased 16 ds else .error .badNumber
  | '0' :: 'o' :: ds => if r = s then readBased 8 ds else .error .badNumber
  | '0' :: 'b' :: ds => if r = s then readBased 2 ds else .error .badNumber
  | r => readDecimal negative r

/-- A value that is written as one word. -/
def readWord (w : List Char) : Except Refusal Value :=
  match String.ofList w with
  | "true" => .ok (.bool true)
  | "false" => .ok (.bool false)
  | _ => readNumber w

/-- A character that ends a word. -/
def endsWord (c : Char) : Bool :=
  isSpace c || c == '\n' || c == '\r' || c == '#'

/-- A value and the text after it. -/
def readValue (s : List Char) : Read Value :=
  match s with
  | '"' :: _ => (readString '"' s).map fun (v, r) => (.string v, r)
  | '\'' :: _ => (readString '\'' s).map fun (v, r) => (.string v, r)
  | s =>
    let (w, r) := s.span (fun c => !endsWord c)
    (readWord w).map (·, r)

end Transcript.Toml
