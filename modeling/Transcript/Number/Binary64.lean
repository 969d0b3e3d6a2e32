import Transcript.Number.Power

/-!
# Binary floating-point numbers

Numbers of the format with 53 bits of precision. A finite magnitude is a whole number of units, the
unit being the least positive number of the format, two to the power −1074; so sums and quotients are
exact until they are rounded. Rounding goes to the nearest number of the format and a tie to the one
with an even significand.
-/

namespace Transcript.Number

/-- A number of the format. -/
inductive Binary64 where
  | finite (negative : Bool) (units : Nat)
  | infinite (negative : Bool)
  | nan
deriving DecidableEq, Repr, Inhabited

/-- The nearest whole number to a quotient; a tie goes to the even one. -/
def divNearest (num den : Nat) : Nat :=
  let q := num / den
  let r := num % den
  if 2 * r < den then q
  else if den < 2 * r then q + 1
  else q + q % 2

namespace Binary64

/-- One, in units. -/
def oneUnits : Nat := twoTo 1074

/-- The distance, in units, between neighbouring numbers of the format from `units` upwards. -/
def stepAt (units : Nat) : Nat :=
  if units < twoTo 53 then 1 else twoTo (units.log2 - 52)

/-- The greatest finite magnitude, in units. -/
def maxUnits : Nat := (twoTo 53 - 1) * twoTo 2045

/-- The number nearest to a quotient of units. -/
def ofUnits (negative : Bool) (num den : Nat) : Binary64 :=
  let step := stepAt (num / den)
  let units := step * divNearest num (den * step)
  if maxUnits < units then .infinite negative else .finite negative units

/-- The number nearest to a quotient. -/
def ofRatio (negative : Bool) (num den : Nat) : Binary64 :=
  ofUnits negative (num * oneUnits) den

/-- The sum of two numbers that are not negative. -/
def addMagnitudes : Binary64 → Binary64 → Binary64
  | .finite _ a, .finite _ b => ofUnits false (a + b) 1
  | .nan, _ | _, .nan => .nan
  | _, _ => .infinite false

/-- A whole number, rounded. -/
def ofNat (n : Nat) : Binary64 := ofRatio false n 1

/-- The sign bit of a negative number. -/
def signBits (negative : Bool) : Nat :=
  if negative then twoTo 63 else 0

/-- The number as a word of 64 bits: sign, exponent and fraction. -/
def toBits : Binary64 → Nat
  | .finite negative units =>
    if units < twoTo 52 then signBits negative + units
    else
      let shift := units.log2 - 52
      signBits negative + (shift + 1) * twoTo 52 + (units / twoTo shift - twoTo 52)
  | .infinite negative => signBits negative + 2047 * twoTo 52
  | .nan => 2047 * twoTo 52 + twoTo 51

/-- The number of a word of 64 bits. -/
def ofBits (bits : Nat) : Binary64 :=
  let negative := twoTo 63 ≤ bits
  let exponent := bits / twoTo 52 % twoTo 11
  let fraction := bits % twoTo 52
  if exponent = 2047 then if fraction = 0 then .infinite negative else .nan
  else if exponent = 0 then .finite negative fraction
  else .finite negative ((twoTo 52 + fraction) * twoTo (exponent - 1))

/-- A finite number that is not less than zero; a negative zero is not. -/
def isTime : Binary64 → Bool
  | .finite negative units => !negative || units == 0
  | _ => false

end Binary64

end Transcript.Number
