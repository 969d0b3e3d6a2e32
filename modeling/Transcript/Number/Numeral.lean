import Transcript.Number.Binary64
import Transcript.Number.Power

/-!
# Numerals

The decimal text of a number, both ways. A numeral has an optional sign, digits with an optional point
before, between or after them, and an optional exponent; `inf`, `infinity` and `nan` may be written in
capital letters. A number is written with the fewest digits that read back, always positionally.
-/

namespace Transcript.Number

/-- The value of a row of digits. -/
def digitsValue (ds : List Char) : Nat :=
  ds.foldl (fun acc d => acc * 10 + (d.toNat - '0'.toNat)) 0

/-- A sign, if there is one, and what follows. -/
def readSign : List Char → Bool × List Char
  | '-' :: r => (true, r)
  | '+' :: r => (false, r)
  | r => (false, r)

/-- The exponent at the end of a numeral. -/
def readExponent? : List Char → Option Int
  | [] => some 0
  | c :: r =>
    if c = 'e' || c = 'E' then
      let (negative, ds) := readSign r
      if ds.isEmpty || !ds.all Char.isDigit then none
      else some (if negative then -(digitsValue ds : Int) else digitsValue ds)
    else none

/-- The number nearest to `digits` times a power of ten. Powers far outside the format need not be
computed. -/
def Binary64.ofDecimal (negative : Bool) (digits : Nat) (exponent : Int) : Binary64 :=
  if digits = 0 then .finite negative 0
  else if 400 < exponent then .infinite negative
  else if exponent + (Nat.toDigits 10 digits).length < -400 then .finite negative 0
  else if 0 ≤ exponent then ofRatio negative (digits * tenTo exponent.toNat) 1
  else ofRatio negative digits (tenTo (-exponent).toNat)

/-- The number of a text without a sign. -/
def readMagnitude? (negative : Bool) (s : List Char) : Option Binary64 :=
  match String.ofList (s.map Char.toLower) with
  | "inf" | "infinity" => some (.infinite negative)
  | "nan" => some .nan
  | _ =>
    let (whole, r) := s.span Char.isDigit
    let (fraction, r) := match r with
      | '.' :: r => r.span Char.isDigit
      | r => ([], r)
    if whole.isEmpty && fraction.isEmpty then none
    else (readExponent? r).map fun e =>
      .ofDecimal negative (digitsValue (whole ++ fraction)) (e - fraction.length)

/-- The number that a text denotes. -/
def readNumber? (s : List Char) : Option Binary64 :=
  let (negative, r) := readSign s
  readMagnitude? negative r

/-! ## Writing -/

/-- The power of ten that fits between two, as a numerator and a denominator. -/
def powerOfTen (e : Int) : Nat × Nat :=
  if 0 ≤ e then (tenTo e.toNat, 1) else (1, tenTo (-e).toNat)

/-- The number `digits` times a power of ten reads back as `units`: it lies between the midpoints to the
neighbours, which count when the significand is even. -/
def readsBack (units digits : Nat) (e : Int) : Bool :=
  let step := Binary64.stepAt units
  let stepBelow := if units = step * twoTo 52 && 1 < step then step / 2 else step
  let (num, den) := powerOfTen e
  let here := 4 * digits * num * 1
  let low := (4 * units - 2 * stepBelow) * den
  let high := (4 * units + 2 * step) * den
  let here := here * Binary64.oneUnits
  if units / step % 2 = 0 then low ≤ here && here ≤ high else low < here && here < high

/-- The exponent of the leading digit of a positive number of units. -/
def leadingExponent (units : Nat) : Int :=
  if Binary64.oneUnits ≤ units then ((Nat.toDigits 10 (units / Binary64.oneUnits)).length : Int) - 1
  else
    let scaled := units * tenTo 400 / Binary64.oneUnits
    ((Nat.toDigits 10 scaled).length : Int) - 401

/-- Of the numbers with `n` digits the one that reads back as `units`, if there is one. -/
def shortestWith? (units : Nat) (lead : Int) (n : Nat) : Option (Nat × Int) :=
  let e := lead - (n : Int) + 1
  let (num, den) := powerOfTen e
  let below := units * den / (num * Binary64.oneUnits)
  let rest := units * den % (num * Binary64.oneUnits)
  let near := if 2 * rest ≤ num * Binary64.oneUnits then [below, below + 1] else [below + 1, below]
  (near.find? fun d => readsBack units d e).map (·, e)

/-- The fewest digits that read back as a number of units, and the exponent of the last one. -/
def shortest (units : Nat) : Nat × Int :=
  if units = 0 then (0, 0)
  else
    let lead := leadingExponent units
    ((List.range 17).findSome? fun n => shortestWith? units lead (n + 1)).getD (0, 0)

/-- Digits with a power of ten, written positionally. -/
def writePositional (digits : Nat) (e : Int) : List Char :=
  let ds := Nat.toDigits 10 digits
  if 0 ≤ e then if digits = 0 then ['0'] else ds ++ List.replicate e.toNat '0'
  else
    let places := (-e).toNat
    let padded := List.replicate (places + 1 - ds.length) '0' ++ ds
    padded.take (padded.length - places) ++ '.' :: padded.drop (padded.length - places)

/-- A number without a last zero, with the exponent that belongs to it. -/
def dropZeros : Nat → Nat × Int → Nat × Int
  | 0, d => d
  | fuel + 1, (d, e) => if e < 0 && d % 10 = 0 then dropZeros fuel (d / 10, e + 1) else (d, e)

/-- The text of a number. -/
def writeNumber : Binary64 → List Char
  | .nan => "NaN".toList
  | .infinite negative => (if negative then ['-'] else []) ++ "inf".toList
  | .finite negative units =>
    let (d, e) := dropZeros 17 (shortest units)
    (if negative then ['-'] else []) ++ writePositional d e

end Transcript.Number
