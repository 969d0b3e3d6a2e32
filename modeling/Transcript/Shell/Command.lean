/-!
# Commands

The commands of the shell: words with their expansions, redirections, and what combines commands.
-/

namespace Transcript.Shell

/-- What happens to the value of a parameter. The flag says that an empty value counts as none. -/
inductive Modifier where
  | plain
  | length
  | orElse (orEmpty : Bool)
  | orAssign (orEmpty : Bool)
  | orFail (orEmpty : Bool)
  | ifSet (orEmpty : Bool)
  | dropEnd (longest : Bool)
  | dropStart (longest : Bool)
deriving DecidableEq, Repr

/-- A part of a word. What is quoted is neither split nor taken as a pattern. -/
inductive Part where
  | text (s : List Char) (quoted : Bool)
  | parameter (name : List Char) (how : Modifier) (operand : List Part) (quoted : Bool)
  | command (source : List Char) (quoted : Bool)
  | arithmetic (source : List Part) (quoted : Bool)
deriving Repr, Inhabited

/-- A word is its parts. -/
abbrev Word := List Part

/-- What a redirection does. -/
inductive RedirectKind where
  | read
  | write
  | append
  | readWrite
  | duplicate
  | content
deriving DecidableEq, Repr

/-- A redirection of a descriptor. For `content` the word is the text itself. -/
structure Redirect where
  fd : Nat
  kind : RedirectKind
  word : Word
deriving Repr

/-- A command. -/
inductive Command where
  | simple (line : Nat) (assigns : List (List Char × Word)) (words : List Word)
      (redirects : List Redirect)
  | pipeline (stages : List Command)
  | negated (body : Command)
  | both (first second : Command)
  | either (first second : Command)
  | sequence (first second : Command)
  | background (body : Command)
  | subshell (body : Command)
  | redirected (body : Command) (redirects : List Redirect)
  | conditional (test body : Command) (otherwise : Option Command)
  | loop (untilTrue : Bool) (test body : Command)
  | forEach (name : List Char) (words : Option (List Word)) (body : Command)
  | choice (word : Word) (branches : List (List Word × Command))
  | function (name : List Char) (body : Command)
deriving Repr, Inhabited

/-- A token of a source. -/
inductive Token where
  | word (w : Word)
  | descriptor (n : Nat)
  | operator (s : String)
  | newLine
deriving Repr

/-- A token with the line that it stands on. -/
structure Placed where
  line : Nat
  token : Token
deriving Repr

end Transcript.Shell
