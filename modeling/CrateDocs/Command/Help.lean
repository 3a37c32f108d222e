namespace CrateDocs

/-!
# Help

What the program says about itself, its commands and their options.

* `Help.program`, `Help.convert` and `Help.check` are the texts, `Help.version` the version;
* `Help.programUsage` and `Help.commandUsage` are the first lines of the texts.
-/

namespace Help

/-- Lines of text, each with a line feed at its end. -/
def lines (ls : List String) : String := String.join (ls.map (· ++ "\n"))

/-- The name of the program. -/
def name : String := "rustdocify"

/-- The version of the program. -/
def version : String := lines [s!"{name}, version 0.1.0"]

/-- How the program is used. -/
def programUsage : String := s!"Usage: {name} [OPTIONS] COMMAND [ARGS]..."

/-- How a command is used. -/
def commandUsage (command : String) : String := s!"Usage: {name} {command} [OPTIONS] [INPUT]"

/-- The help about the program. -/
def program : String := lines [
  programUsage,
  "",
  "  Rustdocify: convert a README into crate-level rustdoc.",
  "",
  "Options:",
  "  --version  Show the version and exit.",
  "  --help     Show this message and exit.",
  "",
  "Commands:",
  "  check    Check that a README converts cleanly, without writing anything.",
  "  convert  Convert a README and write the result."]

/-- The options that all commands have. -/
def sharedOptions : List String := [
  "Options:",
  "  -p, --package-name TEXT  Package whose docs.rs links are rewritten",
  "  --expected-version TEXT  Require links with a version to carry exactly this",
  "                           version",
  "  --crate-name TEXT        Require links with a crate segment to name exactly",
  "                           this crate",
  "  --strict                 Reject unrecognized docs.rs links and repeated top-",
  "                           level headers",
  "  -c, --config TEXT        Path to config file (default: ./.rustdocify.yaml)",
  "  -v, --verbose            Enable verbose (DEBUG) logging"]

/-- The option that shows the help. -/
def helpOption : String := "  --help                   Show this message and exit."

/-- The help about `convert`. -/
def convert : String := lines (
  [commandUsage "convert", "", "  Convert a README and write the result.", ""] ++
  sharedOptions ++
  ["  -o, --output TEXT        Write the result here instead of stdout", helpOption])

/-- The help about `check`. -/
def check : String := lines (
  [commandUsage "check", "",
    "  Check that a README converts cleanly, without writing anything.", ""] ++
  sharedOptions ++ [helpOption])

end Help

end CrateDocs
