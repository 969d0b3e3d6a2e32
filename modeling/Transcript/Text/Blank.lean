/-!
# Blank characters

The characters of the Unicode property `White_Space`, and the two ends of a text that trimming takes
off. Texts are lists of characters here; a trimmed text begins and ends with a character that is not
blank, or is empty.
-/

namespace Transcript.Text

/-- The twenty-five characters of the property `White_Space`. -/
def isBlank (c : Char) : Bool :=
  let n := c.toNat
  (9 ≤ n && n ≤ 13) || n == 0x20 || n == 0x85 || n == 0xA0 || n == 0x1680 ||
    (0x2000 ≤ n && n ≤ 0x200A) || n == 0x2028 || n == 0x2029 || n == 0x202F || n == 0x205F ||
    n == 0x3000

/-- A text without the blank characters it begins with. -/
def trimStart (s : List Char) : List Char :=
  s.dropWhile isBlank

/-- A text without the characters at its end that satisfy `p`. -/
def trimEndWhile (p : Char → Bool) : List Char → List Char
  | [] => []
  | c :: r =>
    match trimEndWhile p r with
    | [] => if p c then [] else [c]
    | d :: q => c :: d :: q

/-- A text without the blank characters it ends with. -/
def trimEnd (s : List Char) : List Char :=
  trimEndWhile isBlank s

/-- A text without blank characters at either end. -/
def trim (s : List Char) : List Char :=
  trimEnd (trimStart s)

/-- A text of blank characters only. -/
def isAllBlank (s : List Char) : Bool :=
  s.all isBlank

/-- The leading run of characters that are not blank, and what follows it. -/
def spanWord (s : List Char) : List Char × List Char :=
  s.span (fun c => !isBlank c)

end Transcript.Text
