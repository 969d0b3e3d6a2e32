import Transcript.Number.Power
import Transcript.Shell.World

/-!
# Arithmetic

Whole numbers of 64 bits in expansions: the usual operators with their precedence, variables by name,
and assignments.
-/

namespace Transcript.Shell.Arithmetic

/-- An expression. -/
inductive Expr where
  | num (n : Int)
  | name (s : List Char)
  | minus (e : Expr)
  | not (e : Expr)
  | flip (e : Expr)
  | binary (op : String) (a b : Expr)
  | select (c a b : Expr)
  | assign (s : List Char) (op : String) (e : Expr)
deriving Repr

/-- A token of an expression. -/
inductive Token where
  | num (n : Int)
  | name (s : List Char)
  | op (s : String)
deriving DecidableEq, Repr

/-- The operators, longer ones first. -/
def operators : List String :=
  ["<<=", ">>=", "<=", ">=", "==", "!=", "&&", "||", "<<", ">>", "+=", "-=", "*=", "/=", "%=", "&=",
    "|=", "^=", "+", "-", "*", "/", "%", "<", ">", "=", "!", "~", "&", "|", "^", "?", ":", "(", ")"]

/-- The value of a number: with `0x` in base sixteen, with another leading zero in base eight. -/
def number? (s : List Char) : Option Int :=
  let digit? (c : Char) : Option Nat :=
    if c.isDigit then some (c.toNat - 48)
    else if 'a' ≤ c.toLower && c.toLower ≤ 'f' then some (c.toLower.toNat - 87) else none
  let read (base : Nat) (ds : List Char) : Option Int :=
    (ds.foldlM (fun acc d => (digit? d).bind fun v =>
      if v < base then some (acc * base + v) else none) 0).map Int.ofNat
  match s with
  | '0' :: 'x' :: ds => read 16 ds
  | '0' :: 'X' :: ds => read 16 ds
  | '0' :: d :: ds => read 8 (d :: ds)
  | ds => read 10 ds

/-- The tokens of an expression. -/
def tokens : Nat → List Char → Option (List Token)
  | 0, _ => none
  | _ + 1, [] => some []
  | fuel + 1, c :: r =>
    if c.isWhitespace then tokens fuel r
    else if c.isDigit then
      let (w, r) := (c :: r).span Char.isAlphanum
      (number? w).bind fun n => (tokens fuel r).map (.num n :: ·)
    else if c.isAlpha || c == '_' then
      let (w, r) := (c :: r).span fun d => d.isAlphanum || d == '_'
      (tokens fuel r).map (.name w :: ·)
    else
      (operators.find? fun o => o.toList.isPrefixOf (c :: r)).bind fun o =>
        (tokens fuel ((c :: r).drop o.length)).map (.op o :: ·)

/-- How strongly an operator binds. -/
def level? : String → Option Nat
  | "||" => some 1
  | "&&" => some 2
  | "|" => some 3
  | "^" => some 4
  | "&" => some 5
  | "==" | "!=" => some 6
  | "<" | ">" | "<=" | ">=" => some 7
  | "<<" | ">>" => some 8
  | "+" | "-" => some 9
  | "*" | "/" | "%" => some 10
  | _ => none

/-- The operator of an assignment that computes. -/
def assignment? (s : String) : Option String :=
  if s = "=" then some ""
  else if ["+=", "-=", "*=", "/=", "%=", "&=", "|=", "^=", "<<=", ">>="].contains s then
    some (String.ofList s.toList.dropLast)
  else none

mutual

/-- An expression as a whole, with assignments. -/
def readExpr : Nat → List Token → Option (Expr × List Token)
  | 0, _ => none
  | fuel + 1, ts =>
    match ts with
    | .name s :: .op o :: r =>
      match assignment? o with
      | some op => (readExpr fuel r).map fun (e, r) => (.assign s op e, r)
      | none => readSelect fuel ts
    | ts => readSelect fuel ts

/-- A choice between two values. -/
def readSelect : Nat → List Token → Option (Expr × List Token)
  | 0, _ => none
  | fuel + 1, ts => do
    let (c, r) ← readUnary fuel ts
    let (c, r) ← readBinary fuel 1 c r
    match r with
    | .op "?" :: r =>
      let (a, r) ← readExpr fuel r
      match r with
      | .op ":" :: r =>
        let (b, r) ← readSelect fuel r
        return (.select c a b, r)
      | _ => none
    | r => return (c, r)

/-- Goes on after an operand, as long as operators bind at least as strongly as `level`. -/
def readBinary : Nat → Nat → Expr → List Token → Option (Expr × List Token)
  | 0, _, _, _ => none
  | fuel + 1, level, a, ts =>
    match ts with
    | .op o :: r =>
      match level? o with
      | none => some (a, ts)
      | some l =>
        if l < level then some (a, ts)
        else do
          let (b, r) ← readUnary fuel r
          let (b, r) ← readBinary fuel (l + 1) b r
          readBinary fuel level (.binary o a b) r
    | ts => some (a, ts)

/-- An operand with its signs. -/
def readUnary : Nat → List Token → Option (Expr × List Token)
  | 0, _ => none
  | fuel + 1, ts =>
    match ts with
    | .op "-" :: r => (readUnary fuel r).map fun (e, r) => (.minus e, r)
    | .op "+" :: r => readUnary fuel r
    | .op "!" :: r => (readUnary fuel r).map fun (e, r) => (.not e, r)
    | .op "~" :: r => (readUnary fuel r).map fun (e, r) => (.flip e, r)
    | .op "(" :: r =>
      match readExpr fuel r with
      | some (e, .op ")" :: r) => some (e, r)
      | _ => none
    | .num n :: r => some (.num n, r)
    | .name s :: r => some (.name s, r)
    | _ => none

end

/-- The expression of a text; an empty one is zero. -/
def parse? (s : List Char) : Option Expr :=
  match tokens (s.length + 1) s with
  | none => none
  | some [] => some (.num 0)
  | some ts =>
    match readExpr (4 * ts.length + 8) ts with
    | some (e, []) => some e
    | _ => none

/-- Numbers as 64 bits hold them. -/
def wrap (n : Int) : Int :=
  Int.bmod n (Number.twoTo 64)

/-- A condition as a number. -/
def ofBool (b : Bool) : Int := if b then 1 else 0

/-- Two numbers combined; there is none for a division by zero. -/
def compute? (op : String) (a b : Int) : Option Int :=
  let bits (f : Nat → Nat → Nat) : Int :=
    wrap (f (a % Number.twoTo 64).toNat (b % Number.twoTo 64).toNat)
  match op with
  | "+" => some (wrap (a + b))
  | "-" => some (wrap (a - b))
  | "*" => some (wrap (a * b))
  | "/" => if b = 0 then none else some (wrap (a.tdiv b))
  | "%" => if b = 0 then none else some (a.tmod b)
  | "<" => some (ofBool (a < b))
  | ">" => some (ofBool (b < a))
  | "<=" => some (ofBool (a ≤ b))
  | ">=" => some (ofBool (b ≤ a))
  | "==" => some (ofBool (a == b))
  | "!=" => some (ofBool (a != b))
  | "&&" => some (ofBool (a != 0 && b != 0))
  | "||" => some (ofBool (a != 0 || b != 0))
  | "&" => some (bits (· &&& ·))
  | "|" => some (bits (· ||| ·))
  | "^" => some (bits (· ^^^ ·))
  | "<<" => some (wrap (a * Number.twoTo (b % 64).toNat))
  | ">>" => some (a.fdiv (Number.twoTo (b % 64).toNat))
  | "" => some b
  | _ => none

/-- A mistake in an expression ends the shell. -/
def fail {α : Type} (message : String) : Act α := do
  grumble ("arithmetic expression: " ++ message)
  throw (.exit 2)

/-- The number that a variable holds. -/
def valueOf (name : List Char) : Act Int := do
  let s := ((← get).proc.value? name).getD []
  let (negative, ds) := match s with
    | '-' :: r => (true, r)
    | r => (false, r)
  if ds.isEmpty then return 0
  match number? ds with
  | some n => return if negative then -n else n
  | none => fail ("expecting primary: \"" ++ String.ofList s ++ "\"")

/-- The value of an expression. -/
def eval : Expr → Act Int
  | .num n => return n
  | .name s => valueOf s
  | .minus e => do return wrap (-(← eval e))
  | .not e => do return ofBool ((← eval e) == 0)
  | .flip e => do return wrap (-(← eval e) - 1)
  | .binary op a b => do
    let x ← eval a
    if op = "&&" && x == 0 then return 0
    if op = "||" && x != 0 then return 1
    let y ← eval b
    match compute? op x y with
    | some n => return n
    | none => fail "division by zero"
  | .select c a b => do if (← eval c) != 0 then eval a else eval b
  | .assign s op e => do
    let old ← if op.isEmpty then pure 0 else valueOf s
    let y ← eval e
    match compute? op old y with
    | some n =>
      setValue s (toString n).toList
      return n
    | none => fail "division by zero"

/-- The value of a text. -/
def evalText (s : List Char) : Act Int := do
  match parse? s with
  | some e => eval e
  | none => fail ("expecting primary: \"" ++ String.ofList s ++ "\"")

end Transcript.Shell.Arithmetic
