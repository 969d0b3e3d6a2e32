import Transcript.Unicode.CharSet

/-!
# Packed tables

The tables of character properties are written as numbers in base twenty-six: capital letters are the
leading digits of a number and a small letter is its last. A set of characters is the distance from
the end of one interval to the start of the next and the length of the interval, in turn.
-/

namespace Transcript.Unicode

/-- A set of characters under the names of a property value, in small letters and without separators. -/
structure Packed where
  names : List String
  packed : List String

/-- The numbers of a packed table; `acc` is the value of the leading digits read so far. -/
def unpackNumbers (acc : Nat) : List Char → List Nat
  | [] => []
  | c :: r =>
    if c.isLower then (acc * 26 + (c.toNat - 'a'.toNat)) :: unpackNumbers 0 r
    else unpackNumbers (acc * 26 + (c.toNat - 'A'.toNat)) r

/-- The intervals that follow the code point `start`. -/
def unpackIntervals (start : Nat) : List Nat → List (Nat × Nat)
  | gap :: len :: r => (start + gap, start + gap + len) :: unpackIntervals (start + gap + len + 1) r
  | _ => []

/-- The set of characters of a packed table. -/
def Packed.set (p : Packed) : CharSet :=
  ⟨unpackIntervals 0 (unpackNumbers 0 (p.packed.flatMap String.toList))⟩

/-- The set that a table holds under a name. -/
def findPacked? (table : List Packed) (name : String) : Option CharSet :=
  (table.find? fun p => p.names.contains name).map Packed.set

end Transcript.Unicode
