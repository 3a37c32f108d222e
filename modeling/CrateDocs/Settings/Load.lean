import CrateDocs.Host
import CrateDocs.Settings.Basic
import CrateDocs.Settings.Path

namespace CrateDocs

/-!
# Loading settings

The file of settings is read if there is one, and its mapping is the first source of settings.

* `SettingsError` is a fault of the settings, and `LoadFailure` all that can stop the loading;
* `Settings.filePath` is the path of the file, and `Settings.readFile` gives the entries of its
  mapping;
* `Settings.load` loads the settings from a host.
-/

/-- A fault of the settings. -/
inductive SettingsError
  /-- there is no file at the path -/
  | fileNotFound (path : Text)
  /-- the file cannot be read -/
  | unreadable (path : Text) (fault : FileFault)
  /-- the file breaks the rules of its format -/
  | malformed
  /-- the file holds no mapping -/
  | notMapping
  /-- a key of the mapping is no text -/
  | keyNotText
  /-- fields do not fit -/
  | invalid (issues : List Issue)
  deriving DecidableEq, Repr

namespace SettingsError

/-- What is said first when fields do not fit. -/
def invalidIntro : String := "Invalid configuration"

/-- What is said first when the file breaks the rules of its format. -/
def malformedIntro : String := "Invalid YAML in config file"

/-- The fault in words, without what is said about single fields and places in the file. -/
def message : SettingsError → String
  | fileNotFound path => s!"Config file not found: {path.asString}"
  | unreadable path fault => s!"Cannot read config file: {fault.message (Text.spelling path)}"
  | malformed => malformedIntro
  | notMapping => "Config file must contain a YAML mapping"
  | keyNotText => s!"{invalidIntro}: keywords must be strings"
  | invalid _ => invalidIntro

end SettingsError

/-- All that can stop the loading of settings. -/
inductive LoadFailure
  | settings (error : SettingsError)
  /-- the path starts at a home directory that is not known -/
  | noHome
  /-- the path cannot be followed: a name is too long, or that of a user holds a NUL -/
  | unreachable (path : Text) (fault : FileFault)
  /-- the file is not UTF-8 -/
  | undecodable (fault : Utf8.Fault)
  /-- the file names a value that there is not -/
  | impossible (what : Yaml.Impossible)
  deriving DecidableEq, Repr

/-- The failure in words. -/
def LoadFailure.message : LoadFailure → String
  | settings error => error.message
  | noHome => "Could not determine home directory."
  | unreachable path fault => fault.message (Text.spelling path)
  | undecodable fault => fault.message
  | impossible what => what.message

namespace Settings

/-- A text with each carriage return, alone or before a line feed, as a line feed. -/
def unifyLineEnds : Text → Text
  | [] => []
  | '\r' :: '\n' :: rest => '\n' :: unifyLineEnds rest
  | c :: rest => (if c = '\r' then '\n' else c) :: unifyLineEnds rest

/-- The path of the file of settings unless another one is named. -/
def defaultPath : Text := ".rustdocify.yaml".toList

/-- Whether a key is a text. -/
def isTextKey : Value → Bool
  | .text _ | .broken _ => true
  | _ => false

/-- The entries of the file's mapping. An empty file has none. -/
def entriesOf : Value → Except LoadFailure (List (Value × Value))
  | .null => .ok []
  | .mapping entries => .ok entries
  | _ => .error (.settings .notMapping)

/-- The entries of a file that says what its document says. -/
def documentEntries : Except Yaml.Fault Value → Except LoadFailure (List (Value × Value))
  | .error .malformed => .error (.settings .malformed)
  | .error (.impossible what) => .error (.impossible what)
  | .ok v => entriesOf v

/-- The entries of a file that cannot be read. Only a file that no path was given for may be
absent. -/
def entriesWithout (given : Bool) (path : Text) (fault : FileFault) :
    Except LoadFailure (List (Value × Value)) :=
  if fault = .nameTooLong then .error (.unreachable path fault)
  else if !fault.isAbsence then .error (.settings (.unreadable path fault))
  else if given then .error (.settings (.fileNotFound path))
  else .ok []

/-- The settings from the entries of a file, the environment and overrides. -/
def assemble (entries : List (Value × Value)) (env : Environment)
    (overrides : List (Text × Value)) : Except LoadFailure Settings :=
  if entries.all fun entry => isTextKey entry.1 then
    match gather (Fields.ofEntries entries) env overrides with
    | .ok s => .ok s
    | .error issues => .error (.settings (.invalid issues))
  else .error (.settings .keyNotText)

/-- The path of the file of settings as it is named. -/
def namedPath (path : Option Text) : Path :=
  Path.ofText (if path.getD [] = [] then defaultPath else path.getD [])

variable {m : Type → Type} [Monad m]

/-- The home directory of a user. For the user who runs the program a variable comes first. -/
def homeOf (h : Host m) : Option Text → m (Except FileFault (Option Text))
  | some name => h.home (some name)
  | none => do
    match ← h.lookUp "HOME".toList with
    | some home => return .ok (some home)
    | none => h.home none

/-- The path of the file of settings, with a home directory where one stands at its start. -/
def filePath (h : Host m) (path : Option Text) : m (Except LoadFailure Text) := do
  match (namedPath path).user? with
  | none => return .ok (namedPath path).toText
  | some user =>
    match ← homeOf h user with
    | .error fault => return .error (.unreachable (namedPath path).toText fault)
    | .ok home =>
      match home.bind (namedPath path).under? with
      | none => return .error .noHome
      | some p => return .ok p.toText

/-- The entries of the file at a path. -/
def readAt (h : Host m) (given : Bool) (path : Text) :
    m (Except LoadFailure (List (Value × Value))) := do
  match ← h.read (Text.spelling path) with
  | .error fault => return entriesWithout given path fault
  | .ok bytes =>
    match Utf8.decode bytes with
    | .error fault => return .error (.undecodable fault)
    | .ok t => return documentEntries (← h.document (unifyLineEnds t))

/-- The entries of the file of settings, which is the one at the given path. -/
def readFile (h : Host m) (path : Option Text) : m (Except LoadFailure (List (Value × Value))) := do
  match ← filePath h path with
  | .error failure => return .error failure
  | .ok p => readAt h path.isSome p

/-- The environment of a host. -/
def readEnvironment (h : Host m) : List String → m Environment
  | [] => return []
  | name :: rest => do
    let value ← h.lookUp name.toList
    let others ← readEnvironment h rest
    return match value with
      | some t => (name, t) :: others
      | none => others

/-- Loads the settings. -/
def load (h : Host m) (path : Option Text) (overrides : List (Text × Value)) :
    m (Except LoadFailure Settings) := do
  match ← readFile h path with
  | .error failure => return .error failure
  | .ok entries => return assemble entries (← readEnvironment h variableNames) overrides

end Settings

end CrateDocs
