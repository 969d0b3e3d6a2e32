import Transcript.Number.Power
import Transcript.Pattern.Search
import Transcript.Shell.FileTools
import Transcript.Shell.Printing

/-!
# Programs for text

`head`, `tail`, `wc`, `sort`, `uniq`, `cut`, `tr`, `grep`, `tee`, `rev`, `tac`, `cksum`, `basename` and
`dirname`. Those that read take their input from files or, where none is named, from what is handed to
them.
-/

namespace Transcript.Shell.Filters

open FileTools (options contentOf forEach shown)
open Text (Bytes)

/-- The bytes of all files, with the number of files that could not be read. -/
def inputOf (program : String) (files : List (List Char)) : Act (Bytes × Nat) := do
  let parts ← (if files.isEmpty then [['-']] else files).mapM (contentOf program)
  return ((parts.filterMap id).flatten, parts.countP Option.isNone)

/-- The lines of bytes, with whether the last one is ended. -/
def linesOf (bytes : Bytes) : List Bytes :=
  let pieces := bytes.splitBy fun a _ => a ≠ 10
  pieces.map fun p => if p.getLast? == some 10 then p.dropLast else p

/-- Lines with their ends. -/
def unlines (ls : List Bytes) : Bytes :=
  ls.flatMap (· ++ [10])

/-- The text of a line. -/
def textOf (line : Bytes) : List Char :=
  (Text.decodeLossy line).toList

/-- The value of an option of one letter, in the same argument or in the next, and the other arguments. -/
def valueOption (letter : Char) : List (List Char) → Option (List Char) × List (List Char)
  | ('-' :: c :: v) :: r =>
    if c == letter then
      match v, r with
      | [], v :: r => (some v, r)
      | v, r => (some v, r)
    else
      let (found, rest) := valueOption letter r
      (found, ('-' :: c :: v) :: rest)
  | a :: r =>
    let (found, rest) := valueOption letter r
    (found, a :: rest)
  | [] => (none, [])

/-- A count given as `-n 3`, `-n3` or `-3`. -/
def countOption (args : List (List Char)) : List Char × List (List Char) :=
  match valueOption 'n' args with
  | (some v, r) => (v, r)
  | (none, r) =>
    match r with
    | ('-' :: c :: ds) :: r => if c.isDigit then (c :: ds, r) else ("10".toList, ('-' :: c :: ds) :: r)
    | r => ("10".toList, r)

/-- Writes a part of each file, under its name where there are several. -/
def writeParts (program : String) (files : List (List Char)) (part : Bytes → Bytes) : Act Nat := do
  let files := if files.isEmpty then [['-']] else files
  let oks ← files.zipIdx.mapM fun (f, k) => do
    match ← contentOf program f with
    | none => return false
    | some bytes =>
      if 1 < files.length then
        if 0 < k then sayLine []
        sayLine ("==> ".toList ++ f ++ " <==".toList)
      let _ ← writeBytes 1 (part bytes)
      return true
  return if oks.all id then 0 else 1

/-- The lines of bytes with their ends. -/
def endedLines (bytes : Bytes) : List Bytes :=
  bytes.splitBy fun a _ => a ≠ 10

/-- `head`. -/
def head (args : List (List Char)) : Act Nat := do
  match valueOption 'c' args with
  | (some v, files) => writeParts "head" files fun bytes => bytes.take (Number.digitsValue v)
  | (none, args) =>
    let (count, files) := countOption args
    writeParts "head" files fun bytes =>
      let ls := endedLines bytes
      (ls.take (match count with
        | '-' :: ds => ls.length - Number.digitsValue ds
        | ds => Number.digitsValue ds)).flatten

/-- `tail`. -/
def tail (args : List (List Char)) : Act Nat := do
  match valueOption 'c' args with
  | (some v, files) =>
    writeParts "tail" files fun bytes => bytes.drop (bytes.length - Number.digitsValue v)
  | (none, args) =>
    let (count, files) := countOption args
    writeParts "tail" files fun bytes =>
      let ls := endedLines bytes
      (match count with
        | '+' :: ds => ls.drop (Number.digitsValue ds - 1)
        | ds => ls.drop (ls.length - Number.digitsValue (ds.filter Char.isDigit))).flatten

/-- The words of bytes. -/
def wordCount (bytes : Bytes) : Nat :=
  let isGap (b : UInt8) : Bool := b == 32 || (9 ≤ b && b ≤ 13)
  (bytes.foldl (fun (acc : Nat × Bool) b =>
    if isGap b then (acc.1, false) else (if acc.2 then acc.1 else acc.1 + 1, true)) (0, false)).1

/-- The counts that options ask for, in their fixed order. -/
def counts (opts : List Char) (bytes : Bytes) : List Nat :=
  let all := opts.isEmpty
  (if all || opts.contains 'l' then [bytes.count 10] else []) ++
    (if all || opts.contains 'w' then [wordCount bytes] else []) ++
    (if opts.contains 'm' then [(textOf bytes).length] else []) ++
    (if all || opts.contains 'c' then [bytes.length] else [])

/-- Numbers in columns. -/
def columns (width : Nat) (ns : List Nat) : List Char :=
  List.intercalate [' '] (ns.map fun n =>
    let ds := Nat.toDigits 10 n
    List.replicate (width - ds.length) ' ' ++ ds)

/-- The input comes from a file. -/
def readsFile : Act Bool := do
  match ← descriptor 0 with
  | some (_, .file ..) => return true
  | _ => return false

/-- `wc`. -/
def wc (args : List (List Char)) : Act Nat := do
  let (opts, files) := options args
  let single := opts.length = 1
  if files.isEmpty then
    let fromFile ← readsFile
    let bytes ← readRest 0
    let width := if single then 1
      else if fromFile then (Nat.toDigits 10 bytes.length).length else 7
    sayLine (columns width (counts opts bytes))
    return 0
  let contents ← files.mapM fun f => return (f, ← contentOf "wc" f)
  let found := contents.filterMap fun (f, c) => c.map fun bytes => (f, bytes)
  let total := found.flatMap Prod.snd
  let width := if single && files.length = 1 then 1 else (Nat.toDigits 10 total.length).length
  let _ ← found.mapM fun (f, bytes) => sayLine (columns width (counts opts bytes) ++ ' ' :: f)
  if 1 < files.length then
    let sums := (found.map fun (_, bytes) => counts opts bytes).foldl
      (fun acc ns => if acc.isEmpty then ns else List.zipWith (· + ·) acc ns) []
    sayLine (columns width sums ++ " total".toList)
  return if found.length = files.length then 0 else 1

/-- The order of bytes. -/
def bytesLe : Bytes → Bytes → Bool
  | [], _ => true
  | _ :: _, [] => false
  | a :: as, b :: bs => if a = b then bytesLe as bs else a < b

/-- The number that a line begins with. -/
def leadingNumber (line : Bytes) : Int :=
  let s := (textOf line).dropWhile Char.isWhitespace
  let (negative, r) := Number.readSign s
  let n := Number.digitsValue (r.takeWhile Char.isDigit)
  if negative then -(n : Int) else n

/-- Lines without those that are the same as the one before. -/
def dropRepeated (same : Bytes → Bytes → Bool) : List Bytes → List Bytes
  | a :: b :: r =>
    if same a b then dropRepeated same (a :: r) else a :: dropRepeated same (b :: r)
  | r => r

/-- Fields that are separated by blanks, which belong to the field after them. -/
def blankFields (line : Bytes) : List Bytes :=
  let isGap (b : UInt8) : Bool := b == 32 || b == 9
  line.splitBy fun a b => isGap a || !isGap b

/-- Fields that are separated by a byte. -/
def separatedFields (separator : UInt8) (line : Bytes) : List Bytes :=
  match line with
  | [] => [[]]
  | b :: r =>
    if b == separator then [] :: separatedFields separator r
    else match separatedFields separator r with
      | f :: fs => (b :: f) :: fs
      | [] => [[b]]

/-- The part of a line that a key such as `2` or `2,3` selects. -/
def keyOf (separator : Option UInt8) (key : List Char) (line : Bytes) : Bytes :=
  let number (s : List Char) : Nat := Number.digitsValue (s.takeWhile Char.isDigit)
  let fields := match separator with
    | some b => separatedFields b line
    | none => blankFields line
  let chosen := match Text.splitAt ',' key with
    | [first, last] => (fields.take (number last)).drop (number first - 1)
    | _ => fields.drop (number key - 1)
  match separator with
  | some b => List.intercalate [b] chosen
  | none => chosen.flatten

/-- `sort`. -/
def sort (args : List (List Char)) : Act Nat := do
  let (separator, args) := valueOption 't' args
  let (key, args) := valueOption 'k' args
  let (opts, files) := options args
  let (bytes, failed) ← inputOf "sort" files
  let opts := opts ++ (key.getD []).filter Char.isAlpha
  let part (line : Bytes) : Bytes :=
    match key with
    | some k => keyOf ((separator.bind List.head?).map fun c => c.toNat.toUInt8) k line
    | none => line
  let before (a b : Bytes) : Bool :=
    if opts.contains 'n' then leadingNumber (part a) < leadingNumber (part b)
    else !bytesLe (part b) (part a)
  let le (a b : Bytes) : Bool :=
    if before a b then true
    else if before b a then false
    else opts.contains 'u' || bytesLe a b
  let ls := (linesOf bytes).mergeSort le
  let ls := if opts.contains 'r' then ls.reverse else ls
  let ls := if opts.contains 'u' then dropRepeated (fun a b => !before a b && !before b a) ls else ls
  if failed ≠ 0 then return 2
  let _ ← writeBytes 1 (unlines ls)
  return 0

/-- Runs of equal lines with their lengths. -/
def runs (ls : List Bytes) : List (Bytes × Nat) :=
  (ls.splitBy (· == ·)).filterMap fun g => g.head?.map fun l => (l, g.length)

/-- `uniq`. -/
def uniq (args : List (List Char)) : Act Nat := do
  let (opts, files) := options args
  let (bytes, failed) ← inputOf "uniq" files
  let groups := (runs (linesOf bytes)).filter fun g =>
    (!opts.contains 'd' || 1 < g.2) && (!opts.contains 'u' || g.2 = 1)
  let _ ← writeBytes 1 (unlines (groups.map fun (l, n) =>
    if opts.contains 'c' then Printing.bytesOf (columns 7 [n] ++ [' ']) ++ l else l))
  return min failed 1

/-- The numbers that a list such as `1,3-5,7-` has. -/
def inRanges (spec : List Char) (n : Nat) : Bool :=
  (Text.splitAt ',' spec).any fun item =>
    match Text.splitAt '-' item with
    | [a] => n = Number.digitsValue a
    | [a, b] =>
      (a.isEmpty || Number.digitsValue a ≤ n) && (b.isEmpty || n ≤ Number.digitsValue b)
    | _ => false

/-- The members of a list whose places, from one on, are in ranges. -/
def selectPlaces {α : Type} (spec : List Char) (xs : List α) : List α :=
  xs.zipIdx.filterMap fun (x, k) => if inRanges spec (k + 1) then some x else none

/-- `cut`. -/
def cut (args : List (List Char)) : Act Nat := do
  let (delimiter, args) := valueOption 'd' args
  let (fields, args) := valueOption 'f' args
  let (chars, args) := valueOption 'c' args
  let (bytePlaces, args) := valueOption 'b' args
  let (opts, files) := options args
  let (bytes, failed) ← inputOf "cut" files
  let d := (delimiter.bind List.head?).getD '\t'
  let cutLine (line : List Char) : Option (List Char) :=
    match fields, chars.or bytePlaces with
    | some spec, _ =>
      let pieces := Text.splitAt d line
      if pieces.length = 1 then if opts.contains 's' then none else some line
      else some (List.intercalate [d] (selectPlaces spec pieces))
    | none, some spec => some (selectPlaces spec line)
    | none, none => some line
  say ((linesOf bytes).filterMap fun l => (cutLine (textOf l)).map (· ++ ['\n'])).flatten
  return min failed 1

/-- The characters of a set of `tr`: ranges, classes and escapes. -/
def trSet : Nat → List Char → List Char
  | 0, _ => []
  | fuel + 1, s =>
    match s with
    | [] => []
    | '[' :: ':' :: r =>
      let (name, after) := r.span (· ≠ ':')
      ((List.range 128).map Char.ofNat).filter (Glob.inClass (String.ofList name)) ++
        trSet fuel (after.drop 2)
    | '\\' :: c :: r =>
      if (Printing.octal? c).isSome then
        let (n, r) := Printing.digitsUpTo Printing.octal? 8 3 0 (c :: r)
        Char.ofNat n :: trSet fuel r
      else
        (match Printing.letter? c with
          | some b => Char.ofNat b.toNat
          | none => c) :: trSet fuel r
    | a :: '-' :: b :: r =>
      (List.range (b.toNat + 1 - a.toNat)).map (fun k => Char.ofNat (a.toNat + k)) ++ trSet fuel r
    | a :: r => a :: trSet fuel r

/-- A text without repetitions of members of a set. -/
def squeeze (set : List Char) : List Char → List Char
  | a :: b :: r =>
    if a = b && set.contains a then squeeze set (b :: r) else a :: squeeze set (b :: r)
  | r => r

/-- `tr`. -/
def tr (args : List (List Char)) : Act Nat := do
  let (opts, sets) := options args
  let text := textOf (← readRest 0)
  let first := trSet ((sets.headD []).length + 1) (sets.headD [])
  let second := trSet ((sets.tail.headD []).length + 1) (sets.tail.headD [])
  let isIn (c : Char) : Bool := first.contains c != (opts.contains 'c' || opts.contains 'C')
  let replaced (c : Char) : Char :=
    if !isIn c then c
    else if opts.contains 'c' then second.getLastD c
    else match first.idxOf? c with
      | some k => second.getD k (second.getLastD c)
      | none => c
  let text :=
    if opts.contains 'd' then text.filter fun c => !isIn c
    else if sets.length < 2 then text
    else text.map replaced
  let text :=
    if opts.contains 's' then squeeze (if sets.length < 2 then first else second) text else text
  if !text.isEmpty then say text
  return 0

/-- A basic pattern in the form of an extended one: groups, repetitions and alternatives change places
with their escaped forms. -/
def extendedForm : List Char → List Char
  | '\\' :: c :: r =>
    if "()\x7b\x7d|+?".toList.contains c then c :: extendedForm r else '\\' :: c :: extendedForm r
  | c :: r => if "()\x7b\x7d|+?".toList.contains c then '\\' :: c :: extendedForm r else c :: extendedForm r
  | [] => []

/-- The sign of a pattern stands for itself. -/
def escapeAll (s : List Char) : List Char :=
  s.flatMap fun c => if c.isAlphanum || 128 ≤ c.toNat then [c] else ['\\', c]

/-- Where the first match of a pattern begins and ends. -/
def spanOf? (e : Pattern.Expr) (s : List Char) : Option (Nat × Nat) :=
  (e.program.search s.toArray).bind fun saved =>
    match saved.lookup 0, saved.lookup 1 with
    | some start, some stop => some (start, stop)
    | _, _ => none

/-- The matches of a pattern in a text, one after the other, without empty ones. -/
def matchesIn (e : Pattern.Expr) : Nat → List Char → List (List Char)
  | 0, _ => []
  | fuel + 1, s =>
    match spanOf? e s with
    | none => []
    | some (start, stop) =>
      let found := (s.take stop).drop start
      if found.isEmpty then matchesIn e fuel (s.drop (stop + 1))
      else found :: matchesIn e fuel (s.drop stop)

/-- `grep`. -/
def grep (args : List (List Char)) : Act Nat := do
  let (given, args) := valueOption 'e' args
  let (opts, operands) := options args
  let (pattern, files) := match given, operands with
    | some p, files => (p, files)
    | none, p :: files => (p, files)
    | none, [] => ([], [])
  let body := if opts.contains 'F' then escapeAll pattern
    else if opts.contains 'E' then pattern else extendedForm pattern
  let body := if opts.contains 'w' then "\\b(?:".toList ++ body ++ ")\\b".toList else body
  let body := if opts.contains 'x' then "^(?:".toList ++ body ++ ")$".toList else body
  let body := if opts.contains 'i' then "(?i)".toList ++ body else body
  match Pattern.compile body with
  | .error _ =>
    complain "grep: invalid pattern"
    return 2
  | .ok e =>
    let titled := 1 < files.length && !opts.contains 'h'
    let found ← (if files.isEmpty then [['-']] else files).mapM fun f => do
      match ← contentOf "grep" f with
      | none => return (0, true)
      | some bytes =>
        let hits := (linesOf bytes).zipIdx.filter fun (l, _) =>
          (e.find? (textOf l)).isSome != opts.contains 'v'
        let title := if titled then f ++ [':'] else []
        if opts.contains 'q' then pure ()
        else if opts.contains 'c' then sayLine (title ++ Nat.toDigits 10 hits.length)
        else if opts.contains 'l' then if !hits.isEmpty then sayLine f
        else
          let _ ← hits.mapM fun (l, k) => do
            let number := if opts.contains 'n' then Nat.toDigits 10 (k + 1) ++ [':'] else []
            if opts.contains 'o' then
              let text := textOf l
              let _ ← (matchesIn e (text.length + 1) text).mapM fun g => sayLine (title ++ number ++ g)
              pure ()
            else
              let _ ← writeBytes 1 (Printing.bytesOf (title ++ number) ++ l ++ [10])
          pure ()
        return (hits.length, false)
    return if found.any Prod.snd then 2 else if found.any fun r => 0 < r.1 then 0 else 1

/-- `tee`. -/
def tee (args : List (List Char)) : Act Nat := do
  let (opts, files) := options args
  let bytes ← readRest 0
  let _ ← writeBytes 1 bytes
  forEach files fun f => do
    let path ← pathOf f
    FileTools.change ("tee: " ++ String.ofList f) fun t =>
      let old := if opts.contains 'a' then (t.read path).toOption.getD [] else []
      t.write path (old ++ bytes)

/-- A program that changes what it reads line by line. -/
def perLine (program : String) (f : List Bytes → List Bytes) (args : List (List Char)) : Act Nat := do
  let (_, files) := options args
  let (bytes, failed) ← inputOf program files
  let _ ← writeBytes 1 (unlines (f (linesOf bytes)))
  return min failed 1

/-- `rev`. -/
def rev : List (List Char) → Act Nat :=
  perLine "rev" fun ls => ls.map fun l => Printing.bytesOf (textOf l).reverse

/-- `tac`. -/
def tac : List (List Char) → Act Nat :=
  perLine "tac" List.reverse

/-- `nl` numbers the lines that are not empty. -/
def nl : List (List Char) → Act Nat :=
  perLine "nl" fun ls =>
    (ls.foldl (fun (acc : List Bytes × Nat) l =>
      if l.isEmpty then (Printing.bytesOf (List.replicate 7 ' ') :: acc.1, acc.2)
      else ((Printing.bytesOf (columns 6 [acc.2] ++ ['\t']) ++ l) :: acc.1, acc.2 + 1))
      ([], 1)).1.reverse

/-! ## Checksums -/

/-- The remainder after one more byte, in the arithmetic of polynomials over two elements. -/
def checkByte (sum : Nat) (byte : Nat) : Nat :=
  let start := (sum >>> 24) ^^^ byte
  let entry := (List.range 8).foldl (fun acc _ =>
    if acc.testBit 31 then ((acc <<< 1) ^^^ 0x04C11DB7) % Number.twoTo 32 else acc <<< 1) (start <<< 24)
  ((sum <<< 8) % Number.twoTo 32) ^^^ entry

/-- The bytes of a number, least first. -/
def lengthBytes : Nat → Nat → List Nat
  | 0, _ => []
  | fuel + 1, n => if n = 0 then [] else n % 256 :: lengthBytes fuel (n / 256)

/-- The checksum of bytes, which counts their number too. -/
def checksum (bytes : Bytes) : Nat :=
  let sum := (bytes.map UInt8.toNat ++ lengthBytes 8 bytes.length).foldl checkByte 0
  sum ^^^ (Number.twoTo 32 - 1)

/-- `cksum`. -/
def cksum (args : List (List Char)) : Act Nat := do
  let (_, files) := options args
  let line (bytes : Bytes) : List Char :=
    Nat.toDigits 10 (checksum bytes) ++ ' ' :: Nat.toDigits 10 bytes.length
  if files.isEmpty then
    sayLine (line (← readRest 0))
    return 0
  forEach files fun f => do
    match ← contentOf "cksum" f with
    | some bytes =>
      sayLine (line bytes ++ ' ' :: f)
      return true
    | none => return false

/-! ## Names -/

/-- A path without the slashes at its end. -/
def dropSlashes (s : List Char) : List Char :=
  match Text.trimEndWhile (· == '/') s with
  | [] => if s.isEmpty then [] else ['/']
  | t => t

/-- `basename`. -/
def basename (args : List (List Char)) : Act Nat := do
  let s := dropSlashes (args.headD [])
  let n := if s = ['/'] then s else (Text.splitAt '/' s).getLastD []
  let suffix := args.tail.headD []
  let n := if suffix.isSuffixOf n && suffix ≠ n then n.take (n.length - suffix.length) else n
  sayLine n
  return 0

/-- `dirname`. -/
def dirname (args : List (List Char)) : Act Nat := do
  let s := dropSlashes (args.headD [])
  let n := ((Text.splitAt '/' s).getLastD []).length
  let dir := s.take (s.length - n)
  sayLine (if s = ['/'] then s else if dir.isEmpty then ['.'] else dropSlashes dir)
  return 0

end Transcript.Shell.Filters
