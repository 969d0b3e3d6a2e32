import Transcript.Json

/-!
# The schema of settings

A description of settings files for other tools, as a JSON schema.
-/

namespace Transcript.Settings

/-- A text in a schema. -/
def schemaText (s : String) : Json := .string s.toList

/-- A setting in a schema; one with a `format` is a number. All but the last can be left out as null. -/
def property (name description type : String) (format : Option String) : List Char × Json :=
  (name.toList, .object ([
      ("description".toList, schemaText description),
      ("default".toList, .null),
      ("type".toList, .array [schemaText type, schemaText "null"])] ++
    format.toList.map fun f => ("format".toList, schemaText f)))

/-- The settings, in the order of their names. -/
def properties : List (List Char × Json) :=
  [("keep".toList, .object [
      ("description".toList, schemaText "Keep scratch directories after each script."),
      ("default".toList, .bool false),
      ("type".toList, schemaText "boolean")]),
    property "progdir" "Directory prepended to the subject's `PATH`." "string" none,
    property "reference_dir" "Directory holding reference files for `+` and `=` (default: `src`)."
      "string" none,
    property "subject" "Invocation prefix placed before each `>` operand, e.g. `java app.Main`."
      "string" none,
    property "timeout" "Default timeout in seconds for every subject invocation." "number"
      (some "double"),
    property "work_root"
      "Directory in which per-script scratch directories are created (default: `.`)." "string" none]

/-- The schema. -/
def schema : Json :=
  .object [
    ("$schema".toList, schemaText "http://json-schema.org/draft-07/schema#"),
    ("title".toList, schemaText "SuiteConfig"),
    ("description".toList, schemaText "Suite-level configuration file contents."),
    ("type".toList, schemaText "object"),
    ("properties".toList, .object properties),
    ("additionalProperties".toList, .bool false)]

end Transcript.Settings
