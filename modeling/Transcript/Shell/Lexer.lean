import Transcript.Shell.Command

/-!
# Reading words

Cuts a source into tokens. Quotes, backslashes and expansions are resolved into the parts of words here;
the source of a command substitution is kept as it is and read when it runs. The text of a redirection
that stands on the lines below is read at the end of the line.
-/

namespace Transcript.Shell

/-- A source that ends too early. -/
inductive LexError where
  | unterminated
deriving DecidableEq, Repr

/-- A character that ends a word. -/
def isMeta (c : Char) : Bool :=
  " \t\n;&|<>()".toList.contains c

/-- A character that a name begins with. -/
def isNameStart (c : Char) : Bool :=
  c.isAlpha || c == '_'

/-- A character of a name. -/
def isNameChar (c : Char) : Bool :=
  c.isAlphanum || c == '_'

/-- A parameter with a name of one character that is no letter. -/
def isSpecial (c : Char) : Bool :=
  "@*#?-$!".toList.contains c

/-- Adds a part in front of others; texts of one kind are joined. -/
def consPart : Part → List Part → List Part
  | .text s q, .text t q' :: r => if q = q' then .text (s ++ t) q :: r else .text s q :: .text t q' :: r
  | p, r => p :: r

/-- What is left of a source. -/
abbrev Rest := List Char

/-- The text up to a quote. -/
def untilQuote (quote : Char) : List Char → Except LexError (List Char × Rest)
  | [] => .error .unterminated
  | c :: r => if c == quote then .ok ([], r) else (untilQuote quote r).map fun (s, r) => (c :: s, r)

/-- Where the source of a command substitution ends: `depth` parentheses are open, and `quote` is the quote
that the place is in. -/
def untilParen (depth : Nat) (quote : Option Char) : List Char → Except LexError (List Char × Rest)
  | [] => .error .unterminated
  | '\\' :: c :: r =>
    if quote == some '\'' then (untilParen depth quote (c :: r)).map fun (s, r) => ('\\' :: s, r)
    else (untilParen depth quote r).map fun (s, r) => ('\\' :: c :: s, r)
  | c :: r =>
    let go (depth : Nat) (quote : Option Char) := (untilParen depth quote r).map fun (s, r) => (c :: s, r)
    match quote with
    | some q => if c == q then go depth none else go depth quote
    | none =>
      if c == '\'' || c == '"' then go depth (some c)
      else if c == '(' then go (depth + 1) none
      else if c == ')' then match depth with
        | 0 => .ok ([], r)
        | d + 1 => go d none
      else go depth none

/-- The source of a command substitution between backquotes. -/
def untilBackquote : List Char → Except LexError (List Char × Rest)
  | [] => .error .unterminated
  | '\\' :: c :: r =>
    (untilBackquote r).map fun (s, r) =>
      (if c == '`' || c == '\\' || c == '$' then (c :: s, r) else ('\\' :: c :: s, r))
  | '`' :: r => .ok ([], r)
  | c :: r => (untilBackquote r).map fun (s, r) => (c :: s, r)

/-- What comes after the name of a parameter in braces, with the text after it. -/
def readModifier : List Char → Option (Modifier × Rest)
  | ':' :: '-' :: r => some (.orElse true, r)
  | ':' :: '=' :: r => some (.orAssign true, r)
  | ':' :: '?' :: r => some (.orFail true, r)
  | ':' :: '+' :: r => some (.ifSet true, r)
  | '-' :: r => some (.orElse false, r)
  | '=' :: r => some (.orAssign false, r)
  | '?' :: r => some (.orFail false, r)
  | '+' :: r => some (.ifSet false, r)
  | '%' :: '%' :: r => some (.dropEnd true, r)
  | '%' :: r => some (.dropEnd false, r)
  | '#' :: '#' :: r => some (.dropStart true, r)
  | '#' :: r => some (.dropStart false, r)
  | _ => none

/-- The name of a parameter: letters and digits, digits, or one special character. -/
def readName : List Char → List Char × Rest
  | [] => ([], [])
  | c :: r =>
    if isNameStart c then (c :: r).span isNameChar
    else if c.isDigit then (c :: r).span Char.isDigit
    else if isSpecial c then ([c], r)
    else ([], c :: r)

/-- The place that parts are read in. -/
inductive Place where
  | word
  | quotes
  | braces (quoted : Bool)
  | document
deriving DecidableEq, Repr

/-- Text in this place is quoted. -/
def Place.quoted : Place → Bool
  | .word => false
  | .quotes => true
  | .braces quoted => quoted
  | .document => true

/-- A backslash in this place takes the character away from its meaning. -/
def Place.escapes (place : Place) (c : Char) : Bool :=
  match place with
  | .word => true
  | .braces false => true
  | .braces true => "$`\"\\\x7d".toList.contains c
  | .quotes => "$`\"\\".toList.contains c
  | .document => "$`\\".toList.contains c

mutual

/-- The parts up to the end of a place, which is passed over unless it is the end of a word. -/
def readParts : Nat → Place → List Char → Except LexError (List Part × Rest)
  | 0, _, _ => .error .unterminated
  | fuel + 1, place, s =>
    let goOn (p : Part) (r : List Char) : Except LexError (List Part × Rest) :=
      (readParts fuel place r).map fun (ps, r) => (consPart p ps, r)
    match s with
    | [] => if place = .word || place = .document then .ok ([], []) else .error .unterminated
    | '\\' :: '\n' :: r => readParts fuel place r
    | '\\' :: c :: r =>
      if place.escapes c then goOn (.text [c] true) r else goOn (.text ['\\'] place.quoted) (c :: r)
    | '$' :: r => do
      let (p, r) ← readDollar fuel place.quoted r
      goOn p r
    | '`' :: r => do
      let (source, r) ← untilBackquote r
      goOn (.command source place.quoted) r
    | c :: r =>
      match place with
      | .word =>
        if isMeta c then .ok ([], c :: r)
        else if c == '\'' then do
          let (t, r) ← untilQuote '\'' r
          goOn (.text t true) r
        else if c == '"' then do
          let (ps, r) ← readParts fuel .quotes r
          let (qs, r) ← readParts fuel place r
          return (consPart (.text [] true) (ps.foldr consPart qs), r)
        else goOn (.text [c] false) r
      | .quotes => if c == '"' then .ok ([], r) else goOn (.text [c] true) r
      | .braces quoted =>
        if c == '}' then .ok ([], r)
        else if c == '\'' && !quoted then do
          let (t, r) ← untilQuote '\'' r
          goOn (.text t true) r
        else if c == '"' then do
          let (ps, r) ← readParts fuel .quotes r
          let (qs, r) ← readParts fuel place r
          return (consPart (.text [] true) (ps.foldr consPart qs), r)
        else goOn (.text [c] quoted) r
      | .document => goOn (.text [c] true) r

/-- The expansion after a dollar sign; where there is none, the sign stands for itself. -/
def readDollar : Nat → Bool → List Char → Except LexError (Part × Rest)
  | 0, quoted, r => .ok (.text ['$'] quoted, r)
  | fuel + 1, quoted, s =>
    match s with
    | '(' :: '(' :: r => do
      let (source, after) ← untilParen 1 none r
      match source.reverse with
      | ')' :: inner =>
        let (ps, _) ← readParts fuel .document inner.reverse
        return (.arithmetic ps quoted, after)
      | _ =>
        let (source, r) ← untilParen 0 none ('(' :: r)
        return (.command source quoted, r)
    | '(' :: r => do
      let (source, r) ← untilParen 0 none r
      return (.command source quoted, r)
    | '{' :: '#' :: r =>
      match readName r with
      | ([], _) => readBraces fuel quoted ('#' :: r)
      | (name, '}' :: after) => .ok (.parameter name .length [] quoted, after)
      | _ => readBraces fuel quoted ('#' :: r)
    | '{' :: r => readBraces fuel quoted r
    | c :: r =>
      if isNameStart c then
        let (name, r) := (c :: r).span isNameChar
        .ok (.parameter name .plain [] quoted, r)
      else if c.isDigit || isSpecial c then .ok (.parameter [c] .plain [] quoted, r)
      else .ok (.text ['$'] quoted, c :: r)
    | [] => .ok (.text ['$'] quoted, [])

/-- A parameter in braces, from its name on. -/
def readBraces : Nat → Bool → List Char → Except LexError (Part × Rest)
  | 0, quoted, r => .ok (.text ['$'] quoted, r)
  | fuel + 1, quoted, s =>
    let (name, r) := readName s
    match r with
    | '}' :: r => .ok (.parameter name .plain [] quoted, r)
    | r =>
      match readModifier r with
      | some (how, r) => do
        let place : Place := match how with
          | .dropEnd _ | .dropStart _ => .braces false
          | _ => .braces quoted
        let (ps, r) ← readParts fuel place r
        return (.parameter name how ps quoted, r)
      | none => do
        let (_, r) ← readParts fuel (.braces quoted) r
        return (.parameter [] .plain [] quoted, r)

end

/-- The operators, longer ones first. -/
def operators : List String :=
  ["<<-", "&&", "||", ";;", ">>", "<<", "<&", ">&", "<>", ">|", ";", "&", "|", "<", ">", "(", ")"]

/-- The operator that a text begins with. -/
def readOperator? (s : List Char) : Option (String × Rest) :=
  (operators.find? fun o => o.toList.isPrefixOf s).map fun o => (o, s.drop o.length)

/-- A text below a line: it ends at a line that reads like `delimiter`. -/
def readDocument (delimiter : List Char) (stripTabs : Bool) : Nat → List Char → List Char × Rest
  | 0, s => ([], s)
  | fuel + 1, s =>
    if s.isEmpty then ([], [])
    else
      let (line, r) := s.span (· ≠ '\n')
      let line := if stripTabs then line.dropWhile (· == '\t') else line
      let r := r.drop 1
      if line = delimiter then ([], r)
      else
        let (text, rest) := readDocument delimiter stripTabs fuel r
        (line ++ '\n' :: text, rest)

/-- The text of a word without its quotes. -/
def Word.bare (w : Word) : List Char :=
  w.flatMap fun p =>
    match p with
    | .text s _ => s
    | _ => []

/-- A part of a word is quoted. -/
def Word.hasQuotes (w : Word) : Bool :=
  w.any fun p =>
    match p with
    | .text _ q => q
    | _ => false

/-- A text that is to be read at the end of the line. -/
structure Pending where
  delimiter : List Char
  stripTabs : Bool
  literal : Bool

/-- The texts below a line, in the order of their redirections. -/
def readDocuments : List Pending → List Char → Except LexError (List Word × Rest)
  | [], r => .ok ([], r)
  | d :: ds, s => do
    let (text, r) := readDocument d.delimiter d.stripTabs (s.length + 1) s
    let w ← if d.literal then pure [Part.text text true]
      else (readParts (text.length + 1) .document text).map Prod.fst
    let (ws, r) ← readDocuments ds r
    return (w :: ws, r)

/-- The tokens of a source, and the texts of its redirections. -/
structure Tokens where
  tokens : List Placed := []
  documents : List Word := []
  complete : Bool := true

/-- How many lines a text ends. -/
def countLines (s : List Char) : Nat :=
  s.count '\n'

/-- The word that a token is, when it follows the operator of a text below the line. -/
def pendingOf (op : Option String) (w : Word) : List Pending :=
  match op with
  | some "<<" => [⟨w.bare, false, w.hasQuotes⟩]
  | some "<<-" => [⟨w.bare, true, w.hasQuotes⟩]
  | _ => []

/-- Reads tokens. `last` is the operator before, and `pending` are the texts to be read at the end of the
line. A source that ends too early gives the tokens before that place. -/
def lexFrom : Nat → Nat → Option String → List Pending → List Char → Tokens
  | 0, _, _, _, _ => {}
  | fuel + 1, line, last, pending, s =>
    let push (t : Token) (rest : Tokens) : Tokens :=
      { rest with tokens := ⟨line, t⟩ :: rest.tokens }
    match s with
    | [] => {}
    | '\n' :: r =>
      match readDocuments pending r with
      | .error _ => { complete := false }
      | .ok (ws, r') =>
        let passed := countLines (r.take (r.length - r'.length))
        let rest := lexFrom fuel (line + 1 + passed) none [] r'
        { push .newLine rest with documents := ws ++ rest.documents }
    | '\\' :: '\n' :: r => lexFrom fuel (line + 1) last pending r
    | c :: r =>
      if c == ' ' || c == '\t' then lexFrom fuel line last pending r
      else if c == '#' then lexFrom fuel line last pending (r.dropWhile (· ≠ '\n'))
      else match readOperator? (c :: r) with
        | some (o, r) => push (.operator o) (lexFrom fuel line (some o) pending r)
        | none =>
          let (digits, after) := (c :: r).span Char.isDigit
          if !digits.isEmpty && (after.head? == some '<' || after.head? == some '>') then
            let n := digits.foldl (fun acc d => acc * 10 + (d.toNat - '0'.toNat)) 0
            push (.descriptor n) (lexFrom fuel line none pending after)
          else match readParts ((c :: r).length + 1) .word (c :: r) with
            | .error _ => { complete := false }
            | .ok (w, r') =>
              let passed := countLines ((c :: r).take ((c :: r).length - r'.length))
              push (.word w)
                (lexFrom fuel (line + passed) none (pending ++ pendingOf last w) r')

/-- The tokens of a source. -/
def lex (s : List Char) : Tokens :=
  lexFrom (s.length + 1) 1 none [] s

end Transcript.Shell
