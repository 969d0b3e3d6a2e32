/-!
# UTF-8

Bytes of a text and back. `decode?` accepts well-formed UTF-8 only; `decodeLossy` reads any bytes and
puts a replacement character for each maximal part that begins a character but does not complete it,
and for each byte that begins none.
-/

namespace Transcript.Text

/-- A file's or a program's content. -/
abbrev Bytes := List UInt8

/-- The bytes of a text. -/
def encode (s : String) : Bytes :=
  s.toUTF8.toList

/-- The bounds of the second byte that a first byte of a longer character allows, and how many bytes
follow the first. -/
def leadBounds? (b : UInt8) : Option (UInt8 × UInt8 × Nat) :=
  if 0xC2 ≤ b && b ≤ 0xDF then some (0x80, 0xBF, 1)
  else if b = 0xE0 then some (0xA0, 0xBF, 2)
  else if b = 0xED then some (0x80, 0x9F, 2)
  else if 0xE1 ≤ b && b ≤ 0xEF then some (0x80, 0xBF, 2)
  else if b = 0xF0 then some (0x90, 0xBF, 3)
  else if b = 0xF4 then some (0x80, 0x8F, 3)
  else if 0xF1 ≤ b && b ≤ 0xF3 then some (0x80, 0xBF, 3)
  else none

/-- What bytes begin with. -/
inductive Lead where
  | char (c : Char)
  | malformed
deriving DecidableEq, Repr

/-- Reads `need` further bytes of a character whose bits so far are `acc`; the first of them lies
between `lo` and `hi`, later ones between 0x80 and 0xBF. -/
def decodeRest (acc : Nat) (lo hi : UInt8) : Nat → Bytes → Lead × Bytes
  | 0, r => (.char (Char.ofNat acc), r)
  | _ + 1, [] => (.malformed, [])
  | need + 1, b :: r =>
    if lo ≤ b && b ≤ hi then decodeRest (acc * 64 + (b.toNat - 0x80)) 0x80 0xBF need r
    else (.malformed, b :: r)

/-- The first character of bytes that begin with `b`, or the part of one, and the bytes after it. -/
def decodeFirst (b : UInt8) (r : Bytes) : Lead × Bytes :=
  if b < 0x80 then (.char (Char.ofNat b.toNat), r)
  else match leadBounds? b with
    | none => (.malformed, r)
    | some (lo, hi, need) =>
      let mask := if need = 1 then 0x1F else if need = 2 then 0x0F else 0x07
      decodeRest (b.toNat % (mask + 1)) lo hi need r

/-- The characters of bytes, at most `fuel` of them. -/
def decodeLeads : Nat → Bytes → List Lead
  | fuel + 1, b :: r =>
    let (lead, rest) := decodeFirst b r
    lead :: decodeLeads fuel rest
  | _, _ => []

/-- A character that was read. -/
def Lead.char? : Lead → Option Char
  | .char c => some c
  | .malformed => none

/-- The text of well-formed bytes. -/
def decode? (bs : Bytes) : Option String :=
  ((decodeLeads bs.length bs).mapM Lead.char?).map String.ofList

/-- The text of any bytes, with replacement characters for what is malformed. -/
def decodeLossy (bs : Bytes) : String :=
  String.ofList ((decodeLeads bs.length bs).map fun lead => lead.char?.getD '\uFFFD')

end Transcript.Text
