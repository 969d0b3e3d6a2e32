import Transcript.Unicode.Age
import Transcript.Unicode.Category
import Transcript.Unicode.Script
import Transcript.Unicode.Segmentation
import Transcript.Unicode.Binary

/-!
# Character properties by name

Looks a set of characters up by the name of a property. Names are compared loosely: case, spaces,
hyphens, underscores and a leading `is` do not count. `\pL` and the like name a general category with
one letter, a bare name is tried as a binary property, as a general category and as a script, and a
name with a value names the property it belongs to. The tables are those of Unicode 17.
-/

namespace Transcript.Unicode

/-- A name as it is compared: ASCII only, in small letters, without separators and leading `is`. -/
def looseName (name : List Char) : String :=
  let body := match name with
    | i :: s :: r => if i.toLower = 'i' && s.toLower = 's' then r else name
    | _ => name
  let kept := body.filter fun c => c ≠ ' ' && c ≠ '_' && c ≠ '-' && c.toNat < 128
  if kept.length = 1 && kept.length + 2 ≤ name.length && kept.map Char.toLower = ['c']
    && body.length ≠ name.length then "isc"
  else String.ofList (kept.map Char.toLower)

/-- The union of the tables under several names. -/
def unionOf (table : List Packed) (names : List String) : CharSet :=
  names.foldl (fun acc n => acc.union ((findPacked? table n).getD .empty)) .empty

/-- The characters of no assigned category. -/
def unassigned : CharSet :=
  (unionOf categories (categories.filterMap fun p => p.names.head?)).compl

/-- The categories that each general category of one letter groups, under its names. -/
def categoryGroups : List (List String × List String) :=
  [(["l", "letter"], ["lu", "ll", "lt", "lm", "lo"]),
   (["lc", "casedletter"], ["lu", "ll", "lt"]),
   (["m", "mark", "combiningmark"], ["mn", "mc", "me"]),
   (["n", "number"], ["nd", "nl", "no"]),
   (["p", "punctuation", "punct"], ["pc", "pd", "ps", "pe", "pi", "pf", "po"]),
   (["s", "symbol"], ["sm", "sc", "sk", "so"]),
   (["z", "separator"], ["zs", "zl", "zp"])]

/-- The set of a general category. -/
def category? (name : String) : Option CharSet :=
  match findPacked? categories name with
  | some s => some s
  | none =>
    match categoryGroups.find? fun g => g.1.contains name with
    | some g => some (unionOf categories g.2)
    | none =>
      match name with
      | "any" => some .univ
      | "ascii" => some (.interval 0 127)
      | "assigned" => some unassigned.compl
      | "cn" | "unassigned" => some unassigned
      | "c" | "other" => some (unassigned.union (unionOf categories ["cc", "cf", "co"]))
      | _ => none

/-- The set of a script. -/
def script? (name : String) : Option CharSet :=
  findPacked? scripts name

/-- The set of the script extensions of a script. -/
def scriptExtension? (name : String) : Option CharSet :=
  (findPacked? scriptExtensions name).or (script? name)

/-- The set of a binary property. -/
def binary? (name : String) : Option CharSet :=
  findPacked? binaryProperties name

/-- The set of what was assigned in an edition of Unicode. -/
def age? (name : String) : Option CharSet :=
  let earlier := ages.takeWhile fun p => !p.names.contains name
  (findPacked? ages name).map fun s => earlier.foldl (fun acc p => acc.union p.set) s

/-- A way to name a set of characters. -/
inductive PropertyQuery where
  | oneLetter (c : Char)
  | named (name : List Char)
  | valued (name value : List Char)
deriving DecidableEq, Repr

/-- The set that a query names, if there is one. -/
def PropertyQuery.set? : PropertyQuery → Option CharSet
  | .oneLetter c => category? (looseName [c])
  | .named name =>
    let n := looseName name
    let asBinary := if n = "cf" || n = "sc" || n = "lc" then none else binary? n
    (asBinary.or (category? n)).or (script? n)
  | .valued name value =>
    let v := looseName value
    match looseName name with
    | "gc" | "generalcategory" => category? v
    | "sc" | "script" => script? v
    | "scx" | "scriptextensions" => scriptExtension? v
    | "age" => age? v
    | "gcb" | "graphemeclusterbreak" => findPacked? graphemeBreaks v
    | "wb" | "wordbreak" => findPacked? wordBreaks v
    | "sb" | "sentencebreak" => findPacked? sentenceBreaks v
    | _ => none

/-- The decimal digits. -/
def digits : CharSet := unionOf categories ["nd"]

/-- The white space. -/
def spaces : CharSet := unionOf binaryProperties ["whitespace"]

/-- The characters of words: letters, marks, digits, connectors and joiners. -/
def wordCharacters : CharSet :=
  (unionOf binaryProperties ["alphabetic", "joincontrol"]).union
    (unionOf categories ["mn", "mc", "me", "nd", "pc"])

/-- The letters that may begin a name. -/
def alphabetic : CharSet := unionOf binaryProperties ["alphabetic"]

/-- The letters and numbers. -/
def alphanumeric : CharSet := alphabetic.union (unionOf categories ["nd", "nl", "no"])

/-- The characters that have no visible form of their own: controls, formats, separators other than the
space, private and unassigned ones. -/
def unprintable : CharSet :=
  (unassigned.union (unionOf categories ["cc", "cf", "co", "zl", "zp", "zs"])).diff (.single ' ')

/-- The characters that extend the one before. -/
def graphemeExtenders : CharSet := unionOf binaryProperties ["graphemeextend"]

end Transcript.Unicode
