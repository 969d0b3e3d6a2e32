import Transcript.Number.Numeral
import Transcript.Path
import Transcript.Text.Quoted

/-!
# JSON

Values of JSON and their text: members in the order of their names, two spaces for each level, and no
character escaped that need not be. A number has the fewest digits that read back.
-/

namespace Transcript

open Number (Binary64)

/-- A value of JSON. -/
inductive Json where
  | null
  | bool (b : Bool)
  | whole (n : Nat)
  | number (x : Binary64)
  | string (s : List Char)
  | array (items : List Json)
  | object (members : List (List Char × Json))
deriving Inhabited

namespace Json

/-- A value that may be lacking. -/
def ofOption {α : Type} (f : α → Json) : Option α → Json
  | some a => f a
  | none => .null

/-- The written form of a character in a string. -/
def escape (c : Char) : List Char :=
  match c with
  | '"' => ['\\', '"']
  | '\\' => ['\\', '\\']
  | '\n' => ['\\', 'n']
  | '\r' => ['\\', 'r']
  | '\t' => ['\\', 't']
  | '\x08' => ['\\', 'b']
  | '\x0c' => ['\\', 'f']
  | c =>
    if c.toNat < 32 then
      let ds := Text.hexDigits c.toNat
      "\\u".toList ++ List.replicate (4 - ds.length) '0' ++ ds
    else [c]

/-- A string in quotes. -/
def quote (s : List Char) : List Char :=
  '"' :: (s.flatMap escape ++ ['"'])

/-- Digits and a power of ten: positional with a point while the number is neither very large nor very
small, and with an exponent otherwise. -/
def writeDigits (digits : Nat) (e : Int) : List Char :=
  let ds := Nat.toDigits 10 digits
  let point : Int := ds.length + e
  if 0 ≤ e && point ≤ 16 then Number.writePositional digits e ++ ['.', '0']
  else if -5 < point && point ≤ 16 then Number.writePositional digits e
  else
    let mantissa := match ds with
      | [d] => [d]
      | d :: r => d :: '.' :: r
      | [] => []
    mantissa ++ 'e' :: (toString (point - 1)).toList

/-- A number; JSON has none that is not finite. -/
def writeNumber : Binary64 → List Char
  | .finite negative units =>
    let (d, e) := Number.dropZeros 17 (Number.shortest units)
    (if negative then ['-'] else []) ++ writeDigits d e
  | _ => "null".toList

/-- A new line at a level. -/
def newLine (level : Nat) : List Char :=
  '\n' :: List.replicate (2 * level) ' '

/-- Members in the order of their names. -/
def sorted (members : List (List Char × Json)) : List (List Char × Json) :=
  members.mergeSort fun a b => Path.nameLe a.1 b.1

mutual

/-- A value with its members ordered by name. -/
def normal : Json → Json
  | .array items => .array (normalAll items)
  | .object members => .object (sorted (normalMembers members))
  | v => v

/-- Values with their members ordered by name. -/
def normalAll : List Json → List Json
  | [] => []
  | v :: vs => v.normal :: normalAll vs

/-- Members with values whose members are ordered by name. -/
def normalMembers : List (List Char × Json) → List (List Char × Json)
  | [] => []
  | (k, v) :: ms => (k, v.normal) :: normalMembers ms

end

mutual

/-- The text of a value that stands at a level, its members as they come. -/
def writeAt (level : Nat) : Json → List Char
  | .null => "null".toList
  | .bool b => (if b then "true" else "false").toList
  | .whole n => Nat.toDigits 10 n
  | .number x => writeNumber x
  | .string s => quote s
  | .array [] => ['[', ']']
  | .array items => '[' :: (writeItems (level + 1) true items ++ newLine level ++ [']'])
  | .object [] => ['{', '}']
  | .object members => '{' :: (writeMembers (level + 1) true members ++ newLine level ++ ['}'])

/-- The text of values in a row. -/
def writeItems (level : Nat) (first : Bool) : List Json → List Char
  | [] => []
  | v :: vs =>
    (if first then [] else [',']) ++ newLine level ++ v.writeAt level ++ writeItems level false vs

/-- The text of members in a row. -/
def writeMembers (level : Nat) (first : Bool) : List (List Char × Json) → List Char
  | [] => []
  | (k, v) :: ms =>
    (if first then [] else [',']) ++ newLine level ++ quote k ++ [':', ' '] ++ v.writeAt level ++
      writeMembers level false ms

end

/-- The text of a value. -/
def write (v : Json) : List Char :=
  v.normal.writeAt 0

end Json

end Transcript
