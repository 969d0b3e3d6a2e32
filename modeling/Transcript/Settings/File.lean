import Transcript.FileTree.Files
import Transcript.Settings.Basic
import Transcript.Toml.Document
import Transcript.Yaml.Mapping

/-!
# Settings files

Reads the settings of a suite from a file. The extension of the file says how it is written; every
setting may be left out, none may stand twice, and no other names are known. A directory is searched
for three names in turn.
-/

namespace Transcript.Settings

open Number (Binary64)

/-- Why settings could not be read. -/
inductive LoadError where
  | unreadable (path : List Char) (cause : SystemError)
  | badYaml
  | badToml
  | unknownFormat (extension : List Char)
deriving DecidableEq, Repr

/-- The text about settings that could not be read. What is wrong inside the file is not told. -/
def LoadError.message : LoadError → String
  | .unreadable path cause => "failed to read " ++ String.ofList path ++ ": " ++ cause.message
  | .badYaml => "invalid YAML: "
  | .badToml => "invalid TOML: "
  | .unknownFormat ext =>
    "unsupported file format: " ++ String.ofList ext ++ " (expected .yaml, .yml, or .toml)"

/-- The name of a setting. -/
inductive Field where
  | timeout
  | subject
  | programs
  | references
  | workRoot
  | keep
deriving DecidableEq, Repr

/-- The setting with a name. -/
def field? (name : List Char) : Option Field :=
  match String.ofList name with
  | "timeout" => some .timeout
  | "subject" => some .subject
  | "progdir" => some .programs
  | "reference_dir" => some .references
  | "work_root" => some .workRoot
  | "keep" => some .keep
  | _ => none

/-- How values of a format are understood. A number and a text may be left out by a value that stands for
nothing. -/
structure Understanding (α : Type) where
  number? : α → Option (Option Binary64)
  text? : α → Option (Option (List Char))
  bool? : α → Option Bool

/-- Sets a field to a value, if the value is one that the field can have. -/
def setField {α : Type} (u : Understanding α) (s : Settings) (f : Field) (v : α) : Option Settings :=
  match f with
  | .timeout => (u.number? v).map fun x => { s with timeout := x }
  | .subject => (u.text? v).map fun x => { s with subject := x }
  | .programs => (u.text? v).map fun x => { s with programs := x }
  | .references => (u.text? v).map fun x => { s with references := x }
  | .workRoot => (u.text? v).map fun x => { s with workRoot := x }
  | .keep => (u.bool? v).map fun b => { s with keep := b }

/-- The settings of names with values; `seen` are the fields that are set already. -/
def ofPairs {α : Type} (u : Understanding α) (s : Settings) (seen : List Field) :
    List (List Char × α) → Option Settings
  | [] => some s
  | (name, v) :: r =>
    match field? name with
    | none => none
    | some f =>
      if seen.contains f then none
      else (setField u s f v).bind fun s => ofPairs u s (f :: seen) r

/-! ## YAML -/

/-- A scalar without quotes, or a block that is tagged as what it is read as. -/
def isBare (tag : String) (v : Yaml.Scalar) : Bool :=
  v.style == .plain || (v.style == .literal && v.tag == some ("tag:yaml.org,2002:" ++ tag).toList)

/-- A text that stands for nothing. -/
def isNullText (s : List Char) : Bool :=
  ["null", "Null", "NULL", "~"].contains (String.ofList s)

/-- A value that may stand for nothing. One that is tagged so has to be written so. -/
def orNothing {α : Type} (read? : Yaml.Scalar → Option α) (v : Yaml.Scalar) : Option (Option α) :=
  if v.style != .plain then (read? v).map some
  else match v.tag with
    | some tag =>
      if tag = "tag:yaml.org,2002:null".toList then if isNullText v.text then some none else none
      else (read? v).map some
    | none => if v.text.isEmpty || isNullText v.text then some none else (read? v).map some

/-- A number of YAML. -/
def yamlNumber? (v : Yaml.Scalar) : Option Binary64 :=
  if !isBare "float" v then none
  else
    let unsigned := match v.text with
      | '+' :: r => r
      | r => r
    let twoSigns := match v.text with
      | '+' :: '+' :: _ | '+' :: '-' :: _ => true
      | _ => false
    if twoSigns then none
    else if [".inf", ".Inf", ".INF"].contains (String.ofList unsigned) then some (.infinite false)
    else if ["-.inf", "-.Inf", "-.INF"].contains (String.ofList v.text) then some (.infinite true)
    else if [".nan", ".NaN", ".NAN"].contains (String.ofList v.text) then some .nan
    else match Number.readNumber? unsigned with
      | some (.finite n u) => some (.finite n u)
      | _ => none

/-- A truth value of YAML. -/
def yamlBool? (v : Yaml.Scalar) : Option Bool :=
  if !isBare "bool" v then none
  else match String.ofList v.text with
    | "true" | "True" | "TRUE" => some true
    | "false" | "False" | "FALSE" => some false
    | _ => none

/-- How values of YAML are understood; any scalar is a text. -/
def yamlValues : Understanding Yaml.Scalar where
  number? := orNothing yamlNumber?
  text? := orNothing fun v => some v.text
  bool? := yamlBool?

/-- The settings of a YAML text. -/
def ofYaml (s : List Char) : Except LoadError Settings :=
  match Yaml.readMapping s with
  | .error _ => .error .badYaml
  | .ok members =>
    match ofPairs yamlValues {} [] (members.map fun m => (m.1.text, m.2)) with
    | some settings => .ok settings
    | none => .error .badYaml

/-! ## TOML -/

/-- How values of TOML are understood; whole numbers are numbers. -/
def tomlValues : Understanding Toml.Value where
  number? v :=
    match v with
    | .whole n => some (some (Binary64.ofRatio (n < 0) n.natAbs 1))
    | .float x => some (some x)
    | _ => none
  text? v :=
    match v with
    | .string s => some (some s)
    | _ => none
  bool? v :=
    match v with
    | .bool b => some b
    | _ => none

/-- The settings of a TOML text. -/
def ofToml (s : List Char) : Except LoadError Settings :=
  match Toml.readDocument s with
  | .error _ => .error .badToml
  | .ok pairs =>
    match ofPairs tomlValues {} [] pairs with
    | some settings => .ok settings
    | none => .error .badToml

/-! ## Files -/

/-- The settings of a file. -/
def load (t : FileTree) (here path : List Char) : Except LoadError Settings :=
  match t.readText (FileTree.absolute here path) with
  | .error e => .error (.unreadable path e)
  | .ok text =>
    let ext := (Path.extension? path).getD []
    match String.ofList ext with
    | "yaml" | "yml" => ofYaml text.toList
    | "toml" => ofToml text.toList
    | _ => .error (.unknownFormat ext)

/-- The names under which a directory may hold settings, the first before the others. -/
def fileNames : List (List Char) :=
  ["sessiontest.yaml", "sessiontest.yml", "sessiontest.toml"].map String.toList

/-- The settings in a directory, if it holds any. -/
def loadFrom (t : FileTree) (here dir : List Char) : Except LoadError (Option Settings) :=
  match (fileNames.map (Path.join dir)).find? fun p => t.isFile (FileTree.absolute here p) with
  | none => .ok none
  | some path => (load t here path).map some

end Transcript.Settings
