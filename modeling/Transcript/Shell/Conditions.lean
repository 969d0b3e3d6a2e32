import Transcript.Shell.Printing
import Transcript.Text.Blank

/-!
# Conditions

`test`, also written with brackets, and `expr`.
-/

namespace Transcript.Shell.Conditions

/-- A path leads to something with a property. -/
def pathIs (path : List Char) (p : Node → Bool) : Act Bool := do
  match (← get).tree.find (← pathOf path) with
  | .ok (_, node) => return p node
  | .error _ => return false

/-- A path is a link. -/
def isLink (path : List Char) : Act Bool := do
  match (← get).tree.locate false (← pathOf path) with
  | .ok (.taken _ (.link _)) => return true
  | _ => return false

/-- A condition on one operand. -/
def unary? (op : String) (a : List Char) : Option (Act Bool) :=
  match op with
  | "-n" => some (return !a.isEmpty)
  | "-z" => some (return a.isEmpty)
  | "-e" => some (pathIs a fun _ => true)
  | "-r" | "-w" => some (pathIs a fun _ => true)
  | "-f" => some (pathIs a fun n => match n with | .file .. | .program _ => true | _ => false)
  | "-d" => some (pathIs a fun n => match n with | .directory => true | _ => false)
  | "-s" => some (pathIs a fun n => match n with
      | .file content _ => !content.isEmpty
      | .directory | .program _ => true
      | _ => false)
  | "-x" => some (pathIs a fun n => match n with
      | .file _ x => x
      | .directory | .program _ => true
      | _ => false)
  | "-c" => some (pathIs a fun n => match n with | .nothing => true | _ => false)
  | "-b" | "-p" | "-S" | "-g" | "-u" | "-k" => some (return false)
  | "-L" | "-h" => some (isLink a)
  | "-t" => some (return false)
  | _ => none

/-- A condition on two numbers; what is no number ends the whole test. -/
def numbers (a b : List Char) (p : Int → Int → Bool) : Act Bool := do
  let read (s : List Char) : Act Int := do
    match Printing.wholeNumber? (Text.trim s) with
    | some n => return n
    | none =>
      grumble ("test: Illegal number: " ++ String.ofList s)
      throw (.ret 2)
  return p (← read a) (← read b)

/-- A condition on two operands. -/
def binary? (op : String) (a b : List Char) : Option (Act Bool) :=
  match op with
  | "=" | "==" => some (return a == b)
  | "!=" => some (return a != b)
  | "<" => some (return Path.nameLe a b && a != b)
  | ">" => some (return Path.nameLe b a && a != b)
  | "-eq" => some (numbers a b (· == ·))
  | "-ne" => some (numbers a b (· != ·))
  | "-lt" => some (numbers a b (· < ·))
  | "-le" => some (numbers a b (· ≤ ·))
  | "-gt" => some (numbers a b (· > ·))
  | "-ge" => some (numbers a b (· ≥ ·))
  | _ => none

mutual

/-- Conditions of which one has to hold. -/
def readOr : Nat → List (List Char) → Act (Option (Bool × List (List Char)))
  | 0, _ => return none
  | fuel + 1, args => do
    match ← readAnd fuel args with
    | some (a, ['-', 'o'] :: r) =>
      match ← readOr fuel r with
      | some (b, r) => return some (a || b, r)
      | none => return none
    | result => return result

/-- Conditions that all have to hold. -/
def readAnd : Nat → List (List Char) → Act (Option (Bool × List (List Char)))
  | 0, _ => return none
  | fuel + 1, args => do
    match ← readNot fuel args with
    | some (a, ['-', 'a'] :: r) =>
      match ← readAnd fuel r with
      | some (b, r) => return some (a && b, r)
      | none => return none
    | result => return result

/-- A condition, perhaps with a negation in front. -/
def readNot : Nat → List (List Char) → Act (Option (Bool × List (List Char)))
  | 0, _ => return none
  | fuel + 1, args => do
    match args with
    | ['!'] :: a :: r =>
      match ← readNot fuel (a :: r) with
      | some (b, r) => return some (!b, r)
      | none => return none
    | args => readOne fuel args

/-- One condition. -/
def readOne : Nat → List (List Char) → Act (Option (Bool × List (List Char)))
  | 0, _ => return none
  | fuel + 1, args => do
    match args with
    | a :: op :: b :: r =>
      match binary? (String.ofList op) a b with
      | some act => return some (← act, r)
      | none => readShort fuel (a :: op :: b :: r)
    | args => readShort fuel args

/-- A condition on at most one operand. -/
def readShort : Nat → List (List Char) → Act (Option (Bool × List (List Char)))
  | 0, _ => return none
  | fuel + 1, args => do
    match args with
    | ['('] :: a :: r =>
      match ← readOr fuel (a :: r) with
      | some (b, [')'] :: r) => return some (b, r)
      | _ => return none
    | op :: a :: r =>
      match unary? (String.ofList op) a with
      | some act => return some (← act, r)
      | none => return some (!op.isEmpty, a :: r)
    | [a] => return some (!a.isEmpty, [])
    | [] => return some (false, [])

end

/-- `test`. -/
def test (args : List (List Char)) : Act Nat := do
  try
    match ← readOr (5 * args.length + 10) args with
    | some (b, []) => return if b then 0 else 1
    | _ =>
      grumble "test: unexpected operator"
      return 2
  catch flow =>
    match flow with
    | .ret status => return status
    | flow => throw flow

/-- `test` between brackets. -/
def bracket (args : List (List Char)) : Act Nat := do
  if args.getLast? != some [']'] then
    grumble "[: missing ]"
    return 2
  test args.dropLast

/-- `expr` for one operation. -/
def expr (args : List (List Char)) : Act Nat := do
  let answer (s : List Char) : Act Nat := do
    sayLine s
    return if s.isEmpty || s = ['0'] then 1 else 0
  match args with
  | [a] => answer a
  | [a, op, b] =>
    match Printing.wholeNumber? a, Printing.wholeNumber? b with
    | some x, some y =>
      let number (n : Int) : Act Nat := answer (toString n).toList
      let truth (b : Bool) : Act Nat := answer (if b then ['1'] else ['0'])
      match String.ofList op with
      | "+" => number (x + y)
      | "-" => number (x - y)
      | "*" => number (x * y)
      | "/" | "%" =>
        if y = 0 then
          complain "expr: division by zero"
          return 2
        else number (if op = ['/'] then x.tdiv y else x.tmod y)
      | "=" => truth (x == y)
      | "!=" => truth (x != y)
      | "<" => truth (x < y)
      | "<=" => truth (x ≤ y)
      | ">" => truth (x > y)
      | ">=" => truth (x ≥ y)
      | _ => return 2
    | _, _ =>
      match String.ofList op with
      | "=" => answer (if a = b then ['1'] else ['0'])
      | "!=" => answer (if a ≠ b then ['1'] else ['0'])
      | _ =>
        complain "expr: non-integer argument"
        return 2
  | _ =>
    complain "expr: syntax error"
    return 2

end Transcript.Shell.Conditions
