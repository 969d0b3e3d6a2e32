import Transcript.Shell.Lexer

/-!
# Reading commands

Puts tokens together to commands. A source is read line by line, so that the commands before a mistake
can run: the result holds the complete lines and says whether a mistake follows.
-/

namespace Transcript.Shell

/-- What is left to be read: tokens, and the texts of redirections. -/
structure Input where
  tokens : List Placed
  documents : List Word

/-- A reader of commands; it has no result where the source is mistaken. -/
abbrev Parse (α : Type) := Input → Option (α × Input)

namespace Input

/-- The next token. -/
def peek (i : Input) : Option Token := i.tokens.head?.map Placed.token

/-- The line of the next token. -/
def line (i : Input) : Nat := (i.tokens.head?.map Placed.line).getD 1

/-- Passes over a token. -/
def skip (i : Input) : Input := { i with tokens := i.tokens.tail }

/-- The next token is an operator. -/
def at? (i : Input) (s : String) : Bool :=
  match i.peek with
  | some (.operator o) => o == s
  | _ => false

/-- The next token is the end of a line. -/
def atNewLine (i : Input) : Bool :=
  match i.peek with
  | some .newLine => true
  | _ => false

/-- The text of the next word when nothing in it is quoted or expanded. -/
def bareWord? (i : Input) : Option String :=
  match i.peek with
  | some (.word [.text s false]) => some (String.ofList s)
  | _ => none

/-- Passes over line ends. -/
def skipLines (i : Input) : Input :=
  { i with tokens := i.tokens.dropWhile fun p => match p.token with | .newLine => true | _ => false }

end Input

/-- The words that cannot begin a simple command. -/
def endsList (i : Input) : Bool :=
  match i.peek with
  | none => true
  | some (.operator o) => o == ")" || o == ";;"
  | _ => i.bareWord?.any fun w => ["then", "else", "elif", "fi", "do", "done", "esac", "\x7d"].contains w

/-- Passes over a word that has to stand here. -/
def expectWord (w : String) (i : Input) : Option Input :=
  if i.bareWord? == some w then some i.skip else none

/-- Passes over an operator that has to stand here. -/
def expectOperator (o : String) (i : Input) : Option Input :=
  if i.at? o then some i.skip else none

/-- The kind of redirection of an operator, and the descriptor that it means. -/
def redirectOf? : String → Option (RedirectKind × Nat)
  | "<" => some (.read, 0)
  | ">" => some (.write, 1)
  | ">|" => some (.write, 1)
  | ">>" => some (.append, 1)
  | "<>" => some (.readWrite, 0)
  | "<&" => some (.duplicate, 0)
  | ">&" => some (.duplicate, 1)
  | "<<" => some (.content, 0)
  | "<<-" => some (.content, 0)
  | _ => none

/-- A redirection, if one stands here. -/
def readRedirect (i : Input) : Option (Option Redirect × Input) :=
  let (fd?, j) := match i.peek with
    | some (.descriptor n) => (some n, i.skip)
    | _ => (none, i)
  match j.peek with
  | some (.operator o) =>
    match redirectOf? o with
    | none => if fd?.isSome then none else some (none, i)
    | some (kind, fd) =>
      match j.skip.peek with
      | some (.word w) =>
        let after := j.skip.skip
        if kind = .content then
          some (some ⟨fd?.getD fd, kind, after.documents.headD []⟩,
            { after with documents := after.documents.tail })
        else some (some ⟨fd?.getD fd, kind, w⟩, after)
      | _ => none
  | _ => if fd?.isSome then none else some (none, i)

/-- All redirections that stand here. -/
def readRedirects : Nat → Parse (List Redirect)
  | 0, i => some ([], i)
  | fuel + 1, i => do
    let (r, i) ← readRedirect i
    match r with
    | none => some ([], i)
    | some r =>
      let (rs, i) ← readRedirects fuel i
      return (r :: rs, i)

/-- The assignment that a word is. -/
def assignment? (w : Word) : Option (List Char × Word) :=
  match w with
  | .text s false :: r =>
    let (name, v) := s.span (· ≠ '=')
    match name, v with
    | c :: cs, _ :: v =>
      if isNameStart c && cs.all isNameChar then
        some (c :: cs, if v.isEmpty then r else .text v false :: r)
      else none
    | _, _ => none
  | _ => none

/-- The assignments, words and redirections of a simple command. -/
def readSimple : Nat → List (List Char × Word) → List Word → List Redirect →
    Parse (List (List Char × Word) × List Word × List Redirect)
  | 0, as, ws, rs, i => some ((as.reverse, ws.reverse, rs.reverse), i)
  | fuel + 1, as, ws, rs, i => do
    let (r, i) ← readRedirect i
    match r with
    | some r => readSimple fuel as ws (r :: rs) i
    | none =>
      match i.peek with
      | some (.word w) =>
        match if ws.isEmpty then assignment? w else none with
        | some a => readSimple fuel (a :: as) ws rs i.skip
        | none => readSimple fuel as (w :: ws) rs i.skip
      | _ => some ((as.reverse, ws.reverse, rs.reverse), i)

/-- Words up to the end of a line or a separator. -/
def readWords : Nat → List Word → Parse (List Word)
  | 0, ws, i => some (ws.reverse, i)
  | fuel + 1, ws, i =>
    match i.peek with
    | some (.word w) => readWords fuel (w :: ws) i.skip
    | _ => some (ws.reverse, i)

/-- The patterns of a branch, up to the parenthesis that ends them. -/
def readPatterns : Nat → List Word → Parse (List Word)
  | 0, _, _ => none
  | fuel + 1, ws, i =>
    match i.peek with
    | some (.word w) =>
      let j := i.skip
      if j.at? "|" then readPatterns fuel (w :: ws) j.skip
      else (expectOperator ")" j).map fun j => ((w :: ws).reverse, j)
    | _ => none

/-- A command that does nothing. -/
def nothing : Command := .simple 1 [] [] []

mutual

/-- Commands up to a word or an operator that ends them. -/
def readList : Nat → Parse Command
  | 0, _ => none
  | fuel + 1, i =>
    let i := i.skipLines
    if endsList i then none
    else do
      let (c, i) ← readAndOr fuel i
      let (c, separated, i) :=
        if i.at? "&" then (Command.background c, true, i.skip)
        else if i.at? ";" then (c, true, i.skip)
        else if i.atNewLine then (c, true, i)
        else (c, false, i)
      let i := i.skipLines
      if !separated || endsList i then return (c, i)
      let (rest, i) ← readList fuel i
      return (.sequence c rest, i)

/-- Pipelines that depend on the outcome of those before. -/
def readAndOr : Nat → Parse Command
  | 0, _ => none
  | fuel + 1, i => do
    let (c, i) ← readPipeline fuel i
    readAndOrRest fuel c i

/-- What follows a pipeline that others depend on. -/
def readAndOrRest : Nat → Command → Parse Command
  | 0, c, i => some (c, i)
  | fuel + 1, c, i =>
    if i.at? "&&" then do
      let (d, i) ← readPipeline fuel i.skip.skipLines
      readAndOrRest fuel (.both c d) i
    else if i.at? "||" then do
      let (d, i) ← readPipeline fuel i.skip.skipLines
      readAndOrRest fuel (.either c d) i
    else some (c, i)

/-- Commands of which each reads what the one before writes. -/
def readPipeline : Nat → Parse Command
  | 0, _ => none
  | fuel + 1, i =>
    if i.bareWord? == some "!" then
      (readPipeline fuel i.skip).map fun (c, i) => (.negated c, i)
    else do
      let (c, i) ← readCommand fuel i
      if i.at? "|" then
        let (cs, i) ← readStages fuel [c] i
        return (.pipeline cs, i)
      else return (c, i)

/-- The further stages of a pipeline. -/
def readStages : Nat → List Command → Parse (List Command)
  | 0, _, _ => none
  | fuel + 1, cs, i =>
    if i.at? "|" then do
      let (c, i) ← readCommand fuel i.skip.skipLines
      readStages fuel (c :: cs) i
    else some (cs.reverse, i)

/-- A command with the redirections after it. -/
def readCommand : Nat → Parse Command
  | 0, _ => none
  | fuel + 1, i =>
    let compound (p : Parse Command) (i : Input) : Option (Command × Input) := do
      let (c, i) ← p i
      let (rs, i) ← readRedirects i.tokens.length i
      return (if rs.isEmpty then c else .redirected c rs, i)
    if i.at? "(" then
      compound (fun i => do
        let (c, i) ← readList fuel i.skip
        let i ← expectOperator ")" i
        return (.subshell c, i)) i
    else match i.bareWord? with
      | some "\x7b" =>
        compound (fun i => do
          let (c, i) ← readList fuel i.skip
          let i ← expectWord "\x7d" i
          return (c, i)) i
      | some "if" => compound (fun i => readIf fuel i.skip) i
      | some "while" => compound (fun i => readLoop fuel false i.skip) i
      | some "until" => compound (fun i => readLoop fuel true i.skip) i
      | some "for" => compound (fun i => readFor fuel i.skip) i
      | some "case" => compound (fun i => readCase fuel i.skip) i
      | w =>
        if endsList i then none
        else
          let next := i.skip
          match w with
          | some name =>
            if next.at? "(" && next.skip.at? ")" then do
              let (body, i) ← readCommand fuel next.skip.skip.skipLines
              return (.function name.toList body, i)
            else readPlain i
          | none => readPlain i

/-- A simple command, which has to have something. -/
def readPlain (i : Input) : Option (Command × Input) := do
  let ((as, ws, rs), j) ← readSimple (i.tokens.length + 1) [] [] [] i
  if as.isEmpty && ws.isEmpty && rs.isEmpty then none
  else return (.simple i.line as ws rs, j)

/-- A condition with what depends on it, after its first word. -/
def readIf : Nat → Parse Command
  | 0, _ => none
  | fuel + 1, i => do
    let (test, i) ← readList fuel i
    let i ← expectWord "then" i
    let (body, i) ← readList fuel i
    match i.bareWord? with
    | some "elif" =>
      let (rest, i) ← readIf fuel i.skip
      return (.conditional test body (some rest), i)
    | some "else" =>
      let (rest, i) ← readList fuel i.skip
      let i ← expectWord "fi" i
      return (.conditional test body (some rest), i)
    | some "fi" => return (.conditional test body none, i.skip)
    | _ => none

/-- A loop after its first word. -/
def readLoop : Nat → Bool → Parse Command
  | 0, _, _ => none
  | fuel + 1, untilTrue, i => do
    let (test, i) ← readList fuel i
    let i ← expectWord "do" i
    let (body, i) ← readList fuel i
    let i ← expectWord "done" i
    return (.loop untilTrue test body, i)

/-- A loop over words after its first word. -/
def readFor : Nat → Parse Command
  | 0, _ => none
  | fuel + 1, i => do
    let name ← i.bareWord?
    let i := i.skip
    let j := i.skipLines
    let (words, i) ← if j.bareWord? == some "in" then do
        let (ws, k) ← readWords j.tokens.length [] j.skip
        some (some ws, k)
      else some (none, i)
    let i := if i.at? ";" then i.skip else i
    let i ← expectWord "do" i.skipLines
    let (body, i) ← readList fuel i
    let i ← expectWord "done" i
    return (.forEach name.toList words body, i)

/-- A choice by patterns after its first word. -/
def readCase : Nat → Parse Command
  | 0, _ => none
  | fuel + 1, i =>
    match i.peek with
    | some (.word w) => do
      let i ← expectWord "in" i.skip.skipLines
      let (branches, i) ← readBranches fuel [] i.skipLines
      return (.choice w branches, i)
    | _ => none

/-- The branches of a choice. -/
def readBranches : Nat → List (List Word × Command) → Parse (List (List Word × Command))
  | 0, _, _ => none
  | fuel + 1, acc, i =>
    let i := i.skipLines
    if i.bareWord? == some "esac" then some (acc.reverse, i.skip)
    else do
      let i := if i.at? "(" then i.skip else i
      let (patterns, i) ← readPatterns (i.tokens.length + 1) [] i
      let i := i.skipLines
      let (body, i) ← if i.at? ";;" || i.bareWord? == some "esac" then some (nothing, i)
        else readList fuel i
      let i := i.skipLines
      if i.at? ";;" then readBranches fuel ((patterns, body) :: acc) i.skip
      else readBranches fuel ((patterns, body) :: acc) i

end

/-- Commands of one line: up to the end of the line that the last of them ends on. -/
def readLine : Nat → Parse Command
  | 0, _ => none
  | fuel + 1, i => do
    let (c, i) ← readAndOr fuel i
    let (c, more, i) :=
      if i.at? "&" then (Command.background c, true, i.skip)
      else if i.at? ";" then (c, true, i.skip)
      else (c, false, i)
    if i.tokens.isEmpty || i.atNewLine then return (c, i)
    if !more then none
    let (rest, i) ← readLine fuel i
    return (.sequence c rest, i)

/-- What a source says: the commands of its lines, and whether it is without a mistake. -/
structure Source where
  lines : List Command := []
  wellFormed : Bool := true

/-- Reads line by line. -/
def readLines : Nat → Bool → Input → Source
  | 0, complete, _ => { wellFormed := complete }
  | fuel + 1, complete, i =>
    let i := i.skipLines
    if i.tokens.isEmpty then { wellFormed := complete }
    else
      match readLine (4 * i.tokens.length + 16) i with
      | none => { wellFormed := false }
      | some (c, rest) =>
        if rest.tokens.isEmpty && !complete then { wellFormed := false }
        else
          let more := readLines fuel complete rest
          { more with lines := c :: more.lines }

/-- Reads a source. -/
def parse (s : List Char) : Source :=
  let t := lex s
  readLines (t.tokens.length + 1) t.complete ⟨t.tokens, t.documents⟩

end Transcript.Shell
