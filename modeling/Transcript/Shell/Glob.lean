import Transcript.FileTree.Files

/-!
# Patterns of names

Stars, question marks and brackets in words. A character that was quoted stands for itself. A name that
begins with a point is found only by a pattern that does.
-/

namespace Transcript.Shell

/-- A character of a word that was expanded, and whether it was quoted. -/
structure Marked where
  char : Char
  quoted : Bool
deriving DecidableEq, Repr

/-- The characters of a text, all quoted or all not. -/
def mark (quoted : Bool) (s : List Char) : List Marked :=
  s.map fun c => ⟨c, quoted⟩

/-- The text of marked characters. -/
def unmark (s : List Marked) : List Char :=
  s.map Marked.char

namespace Glob

/-- A member of a bracket. -/
inductive Member where
  | range (first last : Char)
  | named (name : String)
deriving DecidableEq, Repr

/-- A step of a pattern. -/
inductive Step where
  | one (c : Char)
  | any
  | many
  | oneOf (negated : Bool) (members : List Member)
deriving DecidableEq, Repr

/-- The name of a class in a bracket, and what follows it. -/
def readClass : List Marked → Option (List Char × List Marked)
  | ⟨':', _⟩ :: ⟨']', _⟩ :: r => some ([], r)
  | ⟨c, _⟩ :: r => if c.isAlpha then (readClass r).map fun (s, r) => (c :: s, r) else none
  | [] => none

/-- The members of a bracket up to its end; the bracket that ends it may stand first. -/
def readMembers : Nat → Bool → List Marked → Option (List Member × List Marked)
  | 0, _, _ => none
  | fuel + 1, first, s =>
    let add (m : Member) (r : List Marked) := (readMembers fuel false r).map fun (ms, r) => (m :: ms, r)
    match s with
    | [] => none
    | ⟨']', false⟩ :: r => if first then add (.range ']' ']') r else some ([], r)
    | ⟨'[', false⟩ :: ⟨':', false⟩ :: r =>
      match readClass r with
      | some (name, r) => add (.named (String.ofList name)) r
      | none => add (.range '[' '[') (⟨':', false⟩ :: r)
    | a :: ⟨'-', false⟩ :: b :: r =>
      if b.char == ']' && !b.quoted then add (.range a.char a.char) (⟨'-', false⟩ :: b :: r)
      else add (.range a.char b.char) r
    | a :: r => add (.range a.char a.char) r

/-- The steps of a pattern, `fuel` of them at most. -/
def readSteps : Nat → List Marked → List Step
  | 0, _ => []
  | fuel + 1, s =>
    match s with
    | [] => []
    | ⟨'*', false⟩ :: r => .many :: readSteps fuel r
    | ⟨'?', false⟩ :: r => .any :: readSteps fuel r
    | ⟨'[', false⟩ :: r =>
      let (negated, body) := match r with
        | ⟨'!', false⟩ :: t => (true, t)
        | t => (false, t)
      match readMembers (body.length + 1) true body with
      | some (ms, r) => .oneOf negated ms :: readSteps fuel r
      | none => .one '[' :: readSteps fuel r
    | c :: r => .one c.char :: readSteps fuel r

/-- The steps of a pattern. -/
def steps (s : List Marked) : List Step := readSteps s.length s

/-- A character belongs to a named class. -/
def inClass (name : String) (c : Char) : Bool :=
  match name with
  | "alpha" => c.isAlpha
  | "digit" => c.isDigit
  | "alnum" => c.isAlphanum
  | "upper" => c.isUpper
  | "lower" => c.isLower
  | "space" => c.isWhitespace
  | "blank" => c == ' ' || c == '\t'
  | "punct" => 0x21 ≤ c.toNat && c.toNat < 0x7F && !c.isAlphanum
  | "xdigit" => c.isDigit || ('a' ≤ c.toLower && c.toLower ≤ 'f')
  | _ => false

/-- A character is a member. -/
def Member.has (c : Char) : Member → Bool
  | .range a b => a ≤ c && c ≤ b
  | .named name => inClass name c

/-- Steps match a text as a whole. -/
def matchSteps : List Step → List Char → Bool
  | [], s => s.isEmpty
  | .many :: ps, s => matchTails ps s
  | .one d :: ps, c :: s => c == d && matchSteps ps s
  | .any :: ps, _ :: s => matchSteps ps s
  | .oneOf negated ms :: ps, c :: s => (ms.any (Member.has c) != negated) && matchSteps ps s
  | _ :: _, [] => false
where
  /-- Steps match some end of a text. -/
  matchTails (ps : List Step) : List Char → Bool
    | [] => matchSteps ps []
    | c :: s => matchSteps ps (c :: s) || matchTails ps s

/-- A pattern matches a text as a whole. -/
def isMatch (p : List Marked) (s : List Char) : Bool :=
  matchSteps (steps p) s

/-- A word is a pattern. -/
def isPattern (s : List Marked) : Bool :=
  s.any fun m => !m.quoted && (m.char == '*' || m.char == '?' || m.char == '[')

/-- The paths that match the rest of a pattern, `fuel` steps of it at most; `dir` is the path so far. -/
def expandFrom (t : FileTree) (cwd : List Char) : Nat → List Char → List Marked → List (List Char)
  | 0, _, _ => []
  | fuel + 1, dir, s =>
    let slashes := s.takeWhile fun m => m.char == '/'
    let dir := dir ++ unmark slashes
    let (piece, rest) := (s.drop slashes.length).span fun m => m.char != '/'
    if piece.isEmpty then [dir]
    else
      let names :=
        if isPattern piece then
          let place := FileTree.absolute cwd (if dir.isEmpty then ['.'] else dir)
          ((t.list place).toOption.getD []).filter fun n =>
            isMatch piece n && (n.head? != some '.' || (piece.head?.any (·.char == '.')))
        else
          let n := unmark piece
          if t.pathExists (FileTree.absolute cwd (dir ++ n)) then [n] else []
      if rest.isEmpty then names.map (dir ++ ·)
      else names.flatMap fun n => expandFrom t cwd fuel (dir ++ n) rest

/-- The paths that match a pattern, in their order. -/
def expand (t : FileTree) (cwd : List Char) (s : List Marked) : List (List Char) :=
  (expandFrom t cwd (s.length + 1) [] s).mergeSort Path.nameLe

end Glob

end Transcript.Shell
