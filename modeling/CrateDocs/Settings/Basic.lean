import CrateDocs.Data.Value
import CrateDocs.Text.Blank

namespace CrateDocs

/-!
# Settings

The settings of a run come from three sources: a file, the variables of the environment, and the
command line. Each of them takes the place of those before it, field by field.

* `PackageName` is a name that can be one segment of an address;
* `Settings` are the settings of a run;
* `Settings.ofFields` reads them from fields;
* `Settings.gather` puts the sources together first.
-/

/-- A package name: one segment of an address, without white space at its ends. -/
structure PackageName where
  spelling : Spelling
  ne_nil : spelling ≠ []
  no_slash : .char '/' ∉ spelling
  trimmed : Text.trim spelling.shown = spelling.shown

/-- The settings of a run. -/
structure Settings where
  package : PackageName
  /-- the version that links must carry -/
  version : Option Spelling
  /-- the crate that links must name -/
  crate : Option Spelling
  strict : Bool
  /-- the path of the document -/
  input : Spelling
  /-- the path of the result -/
  output : Option Spelling
  /-- the name of the least level that is logged -/
  logLevel : Spelling

namespace PackageName

/-- The package name that `s` is, if it is one. -/
def make? (s : Spelling) : Option PackageName :=
  if h : s ≠ [] ∧ .char '/' ∉ s ∧ Text.trim s.shown = s.shown then some ⟨s, h.1, h.2.1, h.2.2⟩
  else none

/-- Reads a package name. -/
def ofValue (v : Value) : Checked PackageName := do
  let s ← v.toSpelling
  match make? s with
  | some name => pure name
  | none => Checked.fault (.refused (.packageName s))

end PackageName

namespace Settings

/-- The document that is converted unless a setting names another. -/
def defaultInput : Spelling := Text.spelling "README.md".toList

/-- The least level that is logged unless a setting names another. -/
def defaultLevel : Spelling := Text.spelling "INFO".toList

/-- The settings that the fields name. Only the package must be there. -/
def ofFields (fields : Fields) : Checked Settings :=
  let optionalSpelling := fun name => fields.optional name (Value.orNull Value.toSpelling) none
  Checked.of Settings.mk
    |>.ap (fields.required "package_name" PackageName.ofValue)
    |>.ap (optionalSpelling "version")
    |>.ap (optionalSpelling "crate_name")
    |>.ap (fields.optional "strict" Value.toTruth false)
    |>.ap (fields.optional "input" Value.toSpelling defaultInput)
    |>.ap (optionalSpelling "output")
    |>.ap (fields.optional "log_level" Value.toSpelling defaultLevel)

/-- The fields that variables can set, each with its variables. The first one that is not empty
counts. -/
def fieldVariables : List (String × List String) :=
  [("package_name", ["RUSTDOCIFY_PACKAGE_NAME", "CARGO_PKG_NAME"]),
    ("version", ["RUSTDOCIFY_VERSION", "CARGO_PKG_VERSION"]),
    ("crate_name", ["RUSTDOCIFY_CRATE_NAME", "CARGO_CRATE_NAME"])]

/-- The names of all variables. -/
def variableNames : List String := fieldVariables.flatMap (·.2)

/-- The variables of the environment that have a value. -/
abbrev Environment := List (String × Text)

/-- The value that the environment gives to a field. -/
def fromEnvironment? (env : Environment) (names : List String) : Option Text :=
  names.findSome? fun name => (env.lookup name).filter (· ≠ [])

/-- Sets the fields that the environment has values for. -/
def withEnvironment (env : Environment) (fields : Fields) : Fields :=
  fieldVariables.foldl (fun fields entry =>
    match fromEnvironment? env entry.2 with
    | some t => fields.put entry.1.toList (.text t)
    | none => fields) fields

/-- Sets the fields that are overridden. Null overrides nothing. -/
def withOverrides (overrides : List (Text × Value)) (fields : Fields) : Fields :=
  overrides.foldl (fun fields entry =>
    match entry.2 with
    | .null => fields
    | v => fields.put entry.1 v) fields

/-- The settings from a file, the environment and overrides, each of which takes the place of
those before it. -/
def gather (file : Fields) (env : Environment) (overrides : List (Text × Value)) :
    Checked Settings :=
  ofFields (withOverrides overrides (withEnvironment env file))

end Settings

end CrateDocs
