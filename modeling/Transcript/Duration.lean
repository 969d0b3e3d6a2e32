import Transcript.Number.Binary64
import Transcript.Number.Power

/-!
# Durations

Lengths of time in nanoseconds. A number of seconds becomes the nearest duration, a tie going to the
even number of nanoseconds; what is negative, too long or no number becomes the longest duration.
-/

namespace Transcript

open Number (Binary64 divNearest)

/-- A length of time. -/
structure Duration where
  nanos : Nat
deriving DecidableEq, Repr, Inhabited

namespace Duration

/-- The nanoseconds of a second. -/
def perSecond : Nat := 1000000000

/-- The longest duration: whole seconds are counted in 64 bits. -/
def longest : Duration := ⟨Number.twoTo 64 * perSecond - 1⟩

/-- The duration of whole seconds and nanoseconds. -/
def of (secs nanos : Nat) : Duration := ⟨secs * perSecond + nanos⟩

/-- The whole seconds. -/
def secs (d : Duration) : Nat := d.nanos / perSecond

/-- The nanoseconds beyond the whole seconds. -/
def subsecond (d : Duration) : Nat := d.nanos % perSecond

/-- The duration of a number of seconds. -/
def ofSeconds : Binary64 → Duration
  | .finite negative units =>
    if negative && units ≠ 0 then longest
    else
      let n := divNearest (units * perSecond) Binary64.oneUnits
      if longest.nanos < n then longest else ⟨n⟩
  | _ => longest

/-- The duration as a number of seconds: its two parts are rounded, and then their sum. -/
def toSeconds (d : Duration) : Binary64 :=
  (Binary64.ofNat d.secs).addMagnitudes (.ofRatio false d.subsecond perSecond)

end Duration

end Transcript
