import Mathlib.Data.List.TakeDrop
import Mathlib.Tactic.Common
import Transcript.Proofs.Pattern.Builders
import Transcript.Proofs.Pattern.Runs
import Transcript.Proofs.Script.Grammar
import Transcript.Script.Reader

/-!
# Lines by patterns

The forms of lines, said by one pattern for each kind of line (`Kind.pattern`): the patterns are tried one
after the other, and the groups of the first that matches are the fields of the line (`firstForm`). Each
pattern is an expression over a few sets of characters (`Kind.groupsOf?_pattern`).
-/

namespace Transcript.Script

open Pattern (Expr Look Spot groupText)
open Text (isBlank isAllBlank trim trimStart trimEnd)
open Unicode (CharSet)

/-! ## Patterns of lines -/

/-- The kinds of lines that a pattern stands for. -/
inductive Kind where
  | setTimeout | copyFile | deleteFile | command | checkContent | checkAbsent | checkExists | define
deriving DecidableEq, Repr

/-- The pattern of the lines of a kind. -/
def Kind.pattern : Kind → List Char
  | .setTimeout => "^T\\s*(\\S+)".toList
  | .copyFile => "^\\+\\s*(\\S+)\\s+(\\S+)".toList
  | .deleteFile => "^-\\s*(\\S+)".toList
  | .command => "^>\\s*(.*)".toList
  | .checkContent => "^=\\s*(\\S+)\\s+(\\S+)".toList
  | .checkAbsent => "^\\*\\s*(\\S+)".toList
  | .checkExists => "^E\\s*(\\S+)".toList
  | .define => "^D\\s*([a-zA-Z_][a-zA-Z_0-9]*)\\s*\"(.*)\"\\s*$".toList

/-- The pattern of comments. -/
def commentPattern : List Char := "^\\s*#".toList

/-- The pattern of blank lines. -/
def blankPattern : List Char := "^\\s*$".toList

/-- The groups of the first match of a pattern in a text. -/
def groupsOf? (pattern s : List Char) : Option (List (List Char)) :=
  match Pattern.compile pattern with
  | .ok e => e.find? s
  | .error _ => none

/-- The form that the fields of a line of a kind make. -/
def Kind.form (fields : List (List Char)) : Kind → Except Fault Form
  | .setTimeout => timeLimit (fields.getD 0 [])
  | .copyFile => .ok (.whole (.copyFile (fields.getD 0 []) (fields.getD 1 [])))
  | .deleteFile => .ok (.whole (.deleteFile (fields.getD 0 [])))
  | .command => .ok (.command (trimEnd (fields.getD 0 [])))
  | .checkContent => .ok (.whole (.checkContent (fields.getD 0 []) (fields.getD 1 [])))
  | .checkAbsent => .ok (.whole (.checkAbsent (fields.getD 0 [])))
  | .checkExists => .ok (.whole (.checkExists (fields.getD 0 [])))
  | .define => .ok (.whole (.define (fields.getD 0 []) (fields.getD 1 [])))

/-- The form of a line by the first of several kinds whose pattern matches: the fields are the groups of
the match behind the whole one. -/
def firstForm (line : Nat) (s : List Char) : List Kind → Except Fault Form
  | [] => .error (.malformed line)
  | k :: ks =>
    match groupsOf? k.pattern s with
    | some groups => k.form groups.tail
    | none => firstForm line s ks

/-- The form of a line by patterns that are tried in an order. -/
def formBy (order : List Kind) (line : Nat) (s : List Char) : Except Fault Form :=
  if (groupsOf? blankPattern s).isSome then .ok (.whole .comment) else firstForm line s order

/-- Reads the next instruction as the patterns say, in an order. -/
def Reader.nextBy {σ : Type} (order : List Kind) (r : Reader) (expand : Expander σ) (state : σ) :
    Reading σ (Option Instruction) :=
  match r.rest with
  | [] => ⟨.ok none, r, state⟩
  | raw :: rest =>
    let reader : Reader := ⟨rest, r.line + 1⟩
    if (groupsOf? commentPattern raw).isSome then ⟨.ok (some .comment), reader, state⟩
    else
      match expand raw state with
      | (.error fault, state) => ⟨.error fault, reader, state⟩
      | (.ok s, state) =>
        match formBy order reader.line s with
        | .error fault => ⟨.error fault, reader, state⟩
        | .ok (.whole i) => ⟨.ok (some i), reader, state⟩
        | .ok (.command text) =>
          let block := readBlock expand text [] state reader.line rest
          ⟨block.result.map some, block.reader, block.state⟩

/-! ## Their expressions -/

/-- The blank characters as a set. -/
def blankSet : CharSet :=
  ⟨[(9, 13), (32, 32), (133, 133), (160, 160), (5760, 5760), (8192, 8202), (8232, 8233), (8239, 8239),
    (8287, 8287), (12288, 12288)]⟩

/-- The characters of words as a set. -/
def wordSet : CharSet :=
  ⟨[(0, 8), (14, 31), (33, 132), (134, 159), (161, 5759), (5761, 8191), (8203, 8231), (8234, 8238),
    (8240, 8286), (8288, 12287), (12289, 55295), (57344, 1114111)]⟩

/-- The characters of a line as a set. -/
def lineSet : CharSet := ⟨[(0, 9), (11, 55295), (57344, 1114111)]⟩

/-- The characters that a name may begin with as a set. -/
def nameStartSet : CharSet := ⟨[(65, 90), (95, 95), (97, 122)]⟩

/-- The characters of a name as a set. -/
def nameSet : CharSet := ⟨[(48, 57), (65, 90), (95, 95), (97, 122)]⟩

/-- Any number of blank characters. -/
def skipExpr : Expr := .repeat 0 none true (.set blankSet)

/-- A word as a group. -/
def wordExpr (index : Nat) : Expr := .group index (.repeat 1 none true (.set wordSet))

/-- A name as a group. -/
def nameExpr : Expr := .group 0 (.concat [.set nameStartSet, .repeat 0 none true (.set nameSet)])

/-- Characters of one line as a group. -/
def lineExpr (index : Nat) : Expr := .group index (.repeat 0 none true (.set lineSet))

/-- A letter and a word. -/
def oneWordExpr (letter : Char) : Expr :=
  .concat [.look .start, .literal [letter], skipExpr, wordExpr 0]

/-- A letter and two words. -/
def twoWordsExpr (letter : Char) : Expr :=
  .concat [.look .start, .literal [letter], skipExpr, wordExpr 0, .repeat 1 none true (.set blankSet),
    wordExpr 1]

/-- The sign of a command and what stands behind it in its line. -/
def commandExpr : Expr :=
  .concat [.look .start, .literal ['>'], skipExpr, lineExpr 0]

/-- The letter of a definition, a name and a value in quotes. -/
def defineExpr : Expr :=
  .concat [.look .start, .literal ['D'], skipExpr, nameExpr, skipExpr, .literal ['"'], lineExpr 1,
    .literal ['"'], skipExpr, .look .stop]

/-- A sign behind blank characters. -/
def commentExpr : Expr := .concat [.look .start, skipExpr, .literal ['#']]

/-- Blank characters from the beginning to the end. -/
def blankExpr : Expr := .concat [.look .start, skipExpr, .look .stop]

/-- The expression of the pattern of a kind. -/
def Kind.expr : Kind → Expr
  | .setTimeout => oneWordExpr 'T'
  | .copyFile => twoWordsExpr '+'
  | .deleteFile => oneWordExpr '-'
  | .command => commandExpr
  | .checkContent => twoWordsExpr '='
  | .checkAbsent => oneWordExpr '*'
  | .checkExists => oneWordExpr 'E'
  | .define => defineExpr

section Compiled

variable {c : Char}

/-- A pattern that compiles to an expression finds what the expression does. -/
lemma groupsOf?_eq {pattern : List Char} {e : Expr}
    (compiled : (match Pattern.compile pattern with
      | .ok f => f.same e
      | .error _ => false) = true) (s) : groupsOf? pattern s = e.find? s := by
  unfold groupsOf?
  split at compiled
  · rw [Expr.eq_of_same compiled]
  · cases compiled

/-- The pattern of a kind is its expression. -/
lemma Kind.groupsOf?_pattern (k : Kind) (s) : groupsOf? k.pattern s = k.expr.find? s := by
  apply groupsOf?_eq
  cases k <;> decide +kernel

/-- The pattern of comments is its expression. -/
lemma groupsOf?_comment (s) : groupsOf? commentPattern s = commentExpr.find? s :=
  groupsOf?_eq (by decide +kernel) s

/-- The pattern of blank lines is its expression. -/
lemma groupsOf?_blank (s) : groupsOf? blankPattern s = blankExpr.find? s :=
  groupsOf?_eq (by decide +kernel) s

/-- The code of a character is no surrogate. -/
lemma toNat_range (c : Char) : c.toNat < 55296 ∨ 57343 < c.toNat ∧ c.toNat < 1114112 := c.valid

/-- The set of blank characters has the blank characters. -/
lemma contains_blankSet : blankSet.contains c = isBlank c := by
  rw [Bool.eq_iff_iff]
  simp only [blankSet, CharSet.contains, CharSet.containsCode, isBlank, List.any_cons, List.any_nil,
    Bool.or_eq_true, Bool.and_eq_true, decide_eq_true_eq, beq_iff_eq, Bool.or_false]
  omega

/-- The set of the characters of words has the others. -/
lemma contains_wordSet : wordSet.contains c = !isBlank c := by
  have range := toNat_range c
  rw [Bool.eq_iff_iff]
  simp only [wordSet, CharSet.contains, CharSet.containsCode, isBlank, List.any_cons, List.any_nil,
    Bool.or_eq_true, Bool.and_eq_true, decide_eq_true_eq, Bool.or_false, Bool.not_eq_true',
    Bool.or_eq_false_iff, Bool.and_eq_false_iff, decide_eq_false_iff_not, beq_eq_false_iff_ne]
  omega

/-- The set of the characters of a line has all but the line feed. -/
lemma contains_lineSet : lineSet.contains c = true ↔ c ≠ '\n' := by
  have range := toNat_range c
  have feed : c = '\n' ↔ c.toNat = 10 := char_eq_iff
  rw [Ne, feed]
  simp only [lineSet, CharSet.contains, CharSet.containsCode, List.any_cons, List.any_nil,
    Bool.or_eq_true, Bool.and_eq_true, decide_eq_true_eq, Bool.or_false]
  omega

/-- The set of the characters that a name may begin with has these. -/
lemma contains_nameStartSet : nameStartSet.contains c = isNameStart c := by
  rw [Bool.eq_iff_iff, isNameStart_iff]
  simp only [nameStartSet, CharSet.contains, CharSet.containsCode, List.any_cons, List.any_nil,
    Bool.or_eq_true, Bool.and_eq_true, decide_eq_true_eq, Bool.or_false]
  omega

/-- The set of the characters of a name has these. -/
lemma contains_nameSet : nameSet.contains c = isNameChar c := by
  rw [Bool.eq_iff_iff, isNameChar_iff]
  simp only [nameSet, CharSet.contains, CharSet.containsCode, List.any_cons, List.any_nil,
    Bool.or_eq_true, Bool.and_eq_true, decide_eq_true_eq, Bool.or_false]
  omega

end Compiled

end Transcript.Script
