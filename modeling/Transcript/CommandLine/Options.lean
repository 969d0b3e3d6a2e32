/-!
# Options

Cuts the arguments of a command line into options and operands. An option has a long name and can have a
letter; its value stands behind it, in the same argument or in the next. What looks like an option is
never taken for a value, and two hyphens end the options.
-/

namespace Transcript.CommandLine

/-- What is wrong with a command line. -/
inductive Misuse where
  | unknownOption (argument : List Char)
  | needlessValue (name : String)
  | missingValue (name : String)
  | repeated (name : String)
  | badValue (name : String) (value : List Char)
  | missingOperand (name : String)
  | needlessOperand (argument : List Char)
  | missingCommand
  | unknownCommand (name : List Char)
deriving DecidableEq, Repr

/-- The text about a misuse. -/
def Misuse.message (m : Misuse) : String :=
  "error: " ++ match m with
    | .unknownOption a => "unexpected argument '" ++ String.ofList a ++ "' found"
    | .needlessValue n => "unexpected value for '--" ++ n ++ "' found; no more were expected"
    | .missingValue n => "a value is required for '--" ++ n ++ "' but none was supplied"
    | .repeated n => "the argument '--" ++ n ++ "' cannot be used multiple times"
    | .badValue n v => "invalid value '" ++ String.ofList v ++ "' for '" ++ n ++ "'"
    | .missingOperand n => "the following required arguments were not provided: <" ++ n ++ ">"
    | .needlessOperand a => "unexpected argument '" ++ String.ofList a ++ "' found"
    | .missingCommand => "a subcommand is required but one was not provided"
    | .unknownCommand n => "unrecognized subcommand '" ++ String.ofList n ++ "'"

/-- An option that can be given. -/
structure OptionForm where
  name : String
  letter : Option Char := none
  valued : Bool := false
deriving DecidableEq, Repr

/-- What the arguments hold: options with their values, and operands. -/
structure Given where
  flags : List String := []
  values : List (String × List Char) := []
  operands : List (List Char) := []
deriving Repr

namespace Given

/-- An option was given. -/
def has (g : Given) (name : String) : Bool := g.flags.contains name

/-- The value that was given for an option. -/
def value? (g : Given) (name : String) : Option (List Char) := g.values.lookup name

/-- One more option without a value, which must not be given twice. -/
def addFlag (name : String) (g : Given) : Except Misuse Given :=
  if g.has name then .error (.repeated name) else .ok { g with flags := g.flags ++ [name] }

/-- One more option with its value, which must not be given twice. -/
def addValue (name : String) (value : List Char) (g : Given) : Except Misuse Given :=
  if (g.value? name).isSome then .error (.repeated name)
  else .ok { g with values := g.values ++ [(name, value)] }

/-- One more operand. -/
def addOperand (value : List Char) (g : Given) : Given :=
  { g with operands := g.operands ++ [value] }

end Given

/-- What an argument leads to: the options so far, and the one that still waits for its value. -/
abbrev Step := Except Misuse (Given × Option OptionForm)

/-- Takes an option by its long name, with the value behind an equals sign. -/
def takeLong (forms : List OptionForm) (g : Given) (text : List Char) : Step :=
  let (name, value) := text.span (· ≠ '=')
  match forms.find? (·.name = String.ofList name) with
  | none => .error (.unknownOption ('-' :: '-' :: text))
  | some f =>
    match f.valued, value with
    | false, [] => (g.addFlag f.name).map (·, none)
    | false, _ => .error (.needlessValue f.name)
    | true, [] => .ok (g, some f)
    | true, _ :: v => (g.addValue f.name v).map (·, none)

/-- Takes options by their letters; what follows the letter of an option with a value is the value. -/
def takeLetters (forms : List OptionForm) (g : Given) : List Char → Step
  | [] => .ok (g, none)
  | c :: r =>
    match forms.find? (·.letter = some c) with
    | none => .error (.unknownOption ['-', c])
    | some f =>
      if !f.valued then (g.addFlag f.name).bind fun g => takeLetters forms g r
      else match r with
        | [] => .ok (g, some f)
        | '=' :: v => (g.addValue f.name v).map (·, none)
        | v => (g.addValue f.name v).map (·, none)

/-- Takes what is no option: the value that is waited for, or an operand. -/
def takePlain (g : Given) (waiting : Option OptionForm) (a : List Char) : Except Misuse Given :=
  match waiting with
  | some f => g.addValue f.name a
  | none => .ok (g.addOperand a)

/-- Nothing waits for a value. -/
def settled (waiting : Option OptionForm) : Except Misuse Unit :=
  match waiting with
  | some f => .error (.missingValue f.name)
  | none => .ok ()

/-- Reads arguments up to their end or, where `stop` says so, up to the first operand; the arguments that
are left begin with it. -/
def readArguments (forms : List OptionForm) (stop : Bool) (g : Given) (waiting : Option OptionForm) :
    List (List Char) → Except Misuse (Given × List (List Char))
  | [] => (settled waiting).map fun _ => (g, [])
  | ['-', '-'] :: r => (settled waiting).map fun _ => (r.foldl (fun g a => g.addOperand a) g, [])
  | ('-' :: '-' :: c :: cs) :: r => do
    settled waiting
    let (g, waiting) ← takeLong forms g (c :: cs)
    readArguments forms stop g waiting r
  | ('-' :: c :: cs) :: r => do
    settled waiting
    let (g, waiting) ← takeLetters forms g (c :: cs)
    readArguments forms stop g waiting r
  | a :: r =>
    if stop && waiting.isNone then .ok (g, a :: r)
    else do
      let g ← takePlain g waiting a
      readArguments forms stop g none r

end Transcript.CommandLine
