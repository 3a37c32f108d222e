namespace CrateDocs

/-!
# Kinds of errors

The errors of the program are of kinds that are below each other. An error is made from texts, some
of which its kind puts into a remark.

* `ErrorKind` is a kind of error, and `ErrorKind.above` lists the kinds that it is below;
* `ErrorKind.parameters` are the names of what an error is made from;
* `ErrorKind.remark` is what an error says.
-/

/-- The kinds of errors. -/
inductive ErrorKind
  /-- any error of the program -/
  | any
  /-- settings that do not load -/
  | config
  /-- a document that cannot be converted -/
  | conversion
  /-- a segment of a link that is not as expected -/
  | mismatch
  | version
  | crate
  | noVersion
  | unrecognized
  | repeatedTitle
  deriving DecidableEq, Repr

namespace ErrorKind

/-- All kinds of errors. -/
def all : List ErrorKind :=
  [any, config, conversion, mismatch, version, crate, noVersion, unrecognized, repeatedTitle]

/-- The name of a kind. -/
def name : ErrorKind → String
  | any => "RustdocifyError"
  | config => "ConfigError"
  | conversion => "ConversionError"
  | mismatch => "_LinkMismatchError"
  | version => "VersionMismatchError"
  | crate => "CrateNameMismatchError"
  | noVersion => "MissingVersionError"
  | unrecognized => "UnrecognizedUrlError"
  | repeatedTitle => "NonFirstTopLevelHeaderError"

/-- The kind with a name. -/
def named? (name : String) : Option ErrorKind := all.find? (·.name = name)

theorem named?_name (k : ErrorKind) : named? k.name = some k := by
  cases k <;> decide

/-- The kinds that a kind is below, the nearest first. -/
def above : ErrorKind → List ErrorKind
  | any => []
  | config | conversion => [any]
  | mismatch | noVersion | unrecognized | repeatedTitle => [conversion, any]
  | version | crate => [mismatch, conversion, any]

/-- Where a kind has its parameters from: itself, or the kind that it is a variant of. -/
def origin : ErrorKind → ErrorKind
  | version | crate => mismatch
  | k => k

/-- The names of what an error is made from, in order. The first two kinds take anything. -/
def parameters : ErrorKind → Option (List String)
  | any | config => none
  | conversion => some ["message", "line_number", "line"]
  | mismatch | version | crate => some ["line_number", "line", "url", "expected", "found"]
  | noVersion => some ["line_number", "line", "url", "expected"]
  | unrecognized => some ["line_number", "line", "url"]
  | repeatedTitle => some ["line_number", "line"]

/-- What stands in an error besides its line: a message of its own, or an address as it is and
values as literals. -/
structure Details where
  message : String := ""
  url : String := ""
  expected : String := ""
  found : String := ""

/-- How a segment is not as expected. -/
def differing (segment : String) (d : Details) : String :=
  s!"{segment} mismatch in {d.url}: expected {d.expected}, found {d.found}"

/-- What an error says of its line. -/
def remark (k : ErrorKind) (d : Details) : String :=
  match k with
  | any | config | conversion => d.message
  | mismatch => differing "value" d
  | version => differing "version" d
  | crate => differing "crate name" d
  | noVersion => s!"missing version in {d.url}: expected {d.expected}"
  | unrecognized => s!"unrecognized url {d.url}"
  | repeatedTitle => "non-first top level header"

/-- A remark about a line, with the line itself. -/
def describe (remark number line : String) : String := s!"line {number}: {remark}: {line}"

end ErrorKind

end CrateDocs
