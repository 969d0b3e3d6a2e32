/-!
# Causes

Why a script did not pass. A fault lies with the script or its surroundings, a failure with the program
under test. The wording of both is fixed here.
-/

namespace Transcript

/-- Why the system refused something. -/
inductive SystemError where
  | missing
  | notDirectory
  | isDirectory
  | denied
  | tooManyLinks
  | nameTooLong
  | exists
  | notEmpty
  | invalid
  | notText
  | nul
  | described (text : String)
deriving DecidableEq, Repr

/-- What the system says about a refusal. -/
def SystemError.reason : SystemError → String
  | .missing => "No such file or directory"
  | .denied => "Permission denied"
  | .exists => "File exists"
  | .notDirectory => "Not a directory"
  | .isDirectory => "Is a directory"
  | .invalid => "Invalid argument"
  | .nameTooLong => "File name too long"
  | .notEmpty => "Directory not empty"
  | .tooManyLinks => "Too many levels of symbolic links"
  | .notText => "stream did not contain valid UTF-8"
  | .nul => "nul byte found in provided data"
  | .described text => text

/-- The number of a refusal, where the system has one. -/
def SystemError.number? : SystemError → Option Nat
  | .missing => some 2
  | .denied => some 13
  | .exists => some 17
  | .notDirectory => some 20
  | .isDirectory => some 21
  | .invalid => some 22
  | .nameTooLong => some 36
  | .notEmpty => some 39
  | .tooManyLinks => some 40
  | .notText | .nul | .described _ => none

/-- The text of a refusal. -/
def SystemError.message (e : SystemError) : String :=
  match e.number? with
  | some n => e.reason ++ " (os error " ++ toString n ++ ")"
  | none => e.reason

/-- What is wrong with a script or its surroundings. -/
inductive Fault where
  | unreadable (cause : SystemError)
  | malformed (line : Nat)
  | badTimeout (text : List Char)
  | unterminated (command : List Char)
  | undefinedVariable (name : List Char)
  | missingGroup (key : List Char)
  | notCopied (src dest : List Char)
  | missingReference (name : List Char)
  | noScratch (name : List Char)
  | notStarted (cause : SystemError)
  | lost (cause : SystemError)
deriving DecidableEq, Repr

/-- The text of a fault. -/
def Fault.message : Fault → String
  | .unreadable cause => "could not read script: " ++ cause.message
  | .malformed line => "bad test line: " ++ toString line
  | .badTimeout text => "bad time: " ++ String.ofList text
  | .unterminated command => "unterminated command: " ++ String.ofList command
  | .undefinedVariable name => "undefined substitution: $\x7b" ++ String.ofList name ++ "\x7d"
  | .missingGroup key => "nonexistent group: \x7b" ++ String.ofList key ++ "\x7d"
  | .notCopied src dest =>
    "file " ++ String.ofList src ++ " could not be copied to " ++ String.ofList dest
  | .missingReference name => "reference file " ++ String.ofList name ++ " not found"
  | .noScratch name => "could not create temp directory for " ++ String.ofList name
  | .notStarted cause => "could not start subject: " ++ cause.message
  | .lost cause => "lost track of subject: " ++ cause.message

/-- What the program under test did wrong. -/
inductive Failure where
  | exitCode (code : Int)
  | signal (number : Int)
  | timeout
  | incorrectOutput (detail : List Char)
  | fileContent (name : List Char)
  | filePresent (name : List Char)
  | fileMissing (name : List Char)
deriving DecidableEq, Repr

/-- The text of a failure. -/
def Failure.message : Failure → String
  | .exitCode code => "subject exited with code " ++ toString code
  | .signal number => "subject terminated by signal " ++ toString number
  | .timeout => "timeout"
  | .incorrectOutput _ => "incorrect output"
  | .fileContent name => "file " ++ String.ofList name ++ " has incorrect content"
  | .filePresent name => "file " ++ String.ofList name ++ " present"
  | .fileMissing name => "file or directory " ++ String.ofList name ++ " not present"

end Transcript
