import Transcript.Pattern.Expr

/-!
# Pattern programs

An expression as a graph of instructions. A program is built from its end: to put an expression in
front of a program, its instructions are added and lead to the entry of what follows. Of the two ways
of a fork the first is preferred. A loop whose body can match the empty text is entered through a
choice of its own, so that the preferences of its body are kept.
-/

namespace Transcript.Pattern

open Unicode (CharSet)

/-- One instruction; numbers are the places of the instructions that may come next. -/
inductive Instr where
  | accept
  | fail
  | char (c : Char) (next : Nat)
  | set (s : CharSet) (next : Nat)
  | look (l : Look) (next : Nat)
  | save (slot : Nat) (next : Nat)
  | fork (first second : Nat)
deriving Repr, Inhabited

/-- Instructions and the place where to begin. -/
structure Program where
  code : Array Instr
  entry : Nat
deriving Repr

namespace Program

/-- The program that accepts at once. -/
def done : Program := ⟨#[.accept], 0⟩

/-- A program with an instruction in front of it. -/
def before (p : Program) (i : Nat → Instr) : Program :=
  ⟨p.code.push (i p.entry), p.code.size⟩

/-- The same instructions, entered at another place. -/
def enter (p : Program) (entry : Nat) : Program :=
  ⟨p.code, entry⟩

/-- A fork that prefers to stay when it is greedy. -/
def forkOf (greedy : Bool) (stay leave : Nat) : Instr :=
  if greedy then .fork stay leave else .fork leave stay

/-- A fork in front of a program that may leave to another place. -/
def orLeave (p : Program) (greedy : Bool) (leave : Nat) : Program :=
  p.before (forkOf greedy · leave)

/-- A body in front of a fork that leads back to it or on to the program. The result is entered at the
body; the fork has the first place that was free. -/
def loop (p : Program) (greedy : Bool) (body : Program → Program) : Program :=
  let fork := p.code.size
  let inner := body (p.before fun _ => .fail)
  ⟨inner.code.set! fork (forkOf greedy inner.entry p.entry), inner.entry⟩

/-- A body any number of times. Where it always reads, the fork of the loop is the entry. -/
def star (p : Program) (greedy reads : Bool) (body : Program → Program) : Program :=
  let inner := p.loop greedy body
  if reads then inner.enter p.code.size else inner.orLeave greedy p.entry

/-- A body `n` times. -/
def times (body : Program → Program) : Nat → Program → Program
  | 0, p => p
  | n + 1, p => times body n (body p)

/-- A body at most `n` times; where it is not run again, the way leads to the place `leave`. -/
def atMost (greedy : Bool) (body : Program → Program) (leave : Nat) : Nat → Program → Program
  | 0, p => p
  | n + 1, p => atMost greedy body leave n ((body p).orLeave greedy leave)

/-- A body at least `min` times and at most `max` times. -/
def repeated (p : Program) (min : Nat) (max : Option Nat) (greedy reads : Bool)
    (body : Program → Program) : Program :=
  match max, min with
  | none, 0 => p.star greedy reads body
  | none, n + 1 => times body n (p.loop greedy body)
  | some max, _ => times body min (atMost greedy body p.entry (max - min) p)

end Program

mutual

/-- An expression in front of a program. -/
def Expr.prepend : Expr → Program → Program
  | .empty, p => p
  | .literal cs, p => cs.foldr (fun c q => q.before (.char c)) p
  | .set s, p => if s.isEmpty then p.before fun _ => .fail else p.before (.set s)
  | .look l, p => p.before (.look l)
  | .repeat min max greedy body, p =>
    p.repeated min max greedy (body.minLength.any (0 < ·)) fun q => body.prepend q
  | .group index body, p =>
    (body.prepend (p.before (.save (2 * index + 3)))).before (.save (2 * index + 2))
  | .concat parts, p => Expr.prependAll parts p
  | .choice branches, p => Expr.prependEach branches p

/-- Expressions one after the other in front of a program. -/
def Expr.prependAll : List Expr → Program → Program
  | [], p => p
  | e :: es, p => e.prepend (Expr.prependAll es p)

/-- A choice between expressions in front of a program. -/
def Expr.prependEach : List Expr → Program → Program
  | [], p => p.before fun _ => .fail
  | [e], p => e.prepend p
  | e :: es, p =>
    let others := Expr.prependEach es p
    (e.prepend (others.enter p.entry)).orLeave true others.entry

end

mutual

/-- The number of groups of an expression, with the whole match as the first of them. -/
def Expr.groupCount : Expr → Nat
  | .repeat _ _ _ body => body.groupCount
  | .group index body => max (index + 2) body.groupCount
  | .concat parts => Expr.groupCountAll parts
  | .choice branches => Expr.groupCountAll branches
  | _ => 1

/-- The number of groups of several expressions, with the whole match as the first of them. -/
def Expr.groupCountAll : List Expr → Nat
  | [] => 1
  | e :: es => max e.groupCount (Expr.groupCountAll es)

end

/-- The program of an expression, which saves where the whole match begins and where it ends. -/
def Expr.program (e : Expr) : Program :=
  (e.prepend (Program.done.before (.save 1))).before (.save 0)

end Transcript.Pattern
