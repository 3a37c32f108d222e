import CrateDocs.Command.Invocation
import CrateDocs.Command.LogLevel
import CrateDocs.Command.Style
import CrateDocs.Conversion
import CrateDocs.Settings.Load

namespace CrateDocs

/-!
# Running the program

A run loads the settings, reads the document, converts it, and writes or prints the result. It
stops at the first of these that fails.

* `Outcome` is what a run leaves besides files: what it prints, and how it ends;
* `Settings.policy` is what the settings ask of a conversion;
* `Command.run` runs the program on a host.
-/

/-- A failure that the program does not report. -/
inductive Escape
  /-- the document is not UTF-8 -/
  | undecodable (fault : Utf8.Fault)
  /-- the path holds a NUL -/
  | nulInPath
  /-- a path that is to be followed or printed holds a half of a surrogate pair -/
  | notEncodable
  /-- the log level is the name of something else -/
  | misnamedLevel (what : LogLevel.Misnomer)
  /-- a link names an item of an unknown kind -/
  | unknownKind (word : Text)
  deriving DecidableEq, Repr

/-- What a run leaves besides files. -/
structure Outcome where
  exit : Nat := 0
  stdout : Text := []
  stderr : Text := []
  escape : Option Escape := none
  deriving DecidableEq, Repr

namespace Outcome

/-- Fails without a word. -/
def escaping (e : Escape) : Outcome := { exit := 1, escape := some e }

/-- Prints `s` without styles, if it is a text. -/
def printing (s : Spelling) : Outcome :=
  match (Style.strip s).text? with
  | some t => { stdout := t }
  | none => .escaping .notEncodable

/-- Prints to the error channel without styles, and fails. The error channel shows halves as
escapes. -/
def failing (message : Spelling) (exit : Nat := 1) : Outcome :=
  { exit, stderr := (Style.strip message).exposed }

/-- The outcome with a log before what is printed to the error channel. -/
def logging (log : String) (o : Outcome) : Outcome := { o with stderr := log.toList ++ o.stderr }

end Outcome

/-- The name of the package as it stands in addresses. A name that is no text stands in none, and
neither does white space, which is taken for it. -/
def PackageName.address (name : PackageName) : Text := name.spelling.text?.getD [' ']

theorem PackageName.address_ne_nil (name : PackageName) : name.address ≠ [] := by
  rw [address]
  cases h : name.spelling.text? with
  | none => simp
  | some t =>
    rintro rfl
    exact name.ne_nil (Spelling.eq_spelling_of_text? h)

/-- What the settings ask of a conversion. -/
def Settings.policy (s : Settings) : Policy where
  package := s.package.address
  package_ne_nil := s.package.address_ne_nil
  version := s.version
  crate := s.crate
  strict := s.strict

namespace Command

/-- The usage that is reminded of before a fault. -/
def frame (usage helper : String) : String := s!"{usage}\nTry '{helper}' for help.\n\n"

/-- What is printed about arguments that are wrong. -/
def usageError (fault : UsageFault) (usage helper : String) : String :=
  (if fault.isFramed then frame usage helper else "") ++ s!"Error: {fault.message}\n"

/-- What is printed about settings that cannot be loaded. The details of fields that do not fit
and of a file that breaks the rules of its format are cut. -/
def loadError (failure : LoadFailure) : String :=
  let intro := "Error loading config: "
  match failure with
  | .settings .malformed => s!"{intro}{SettingsError.malformedIntro}:"
  | .settings .keyNotText | .settings (.invalid _) => s!"{intro}{SettingsError.invalidIntro}:"
  | failure => s!"{intro}{failure.message}\n"

/-- A remark about a path. -/
def remark (intro : String) (path : Spelling) (rest : String) : Spelling :=
  Text.spelling intro.toList ++ path ++ Text.spelling s!": {rest}\n".toList

/-- How a file fault ends a run that does something with a file. -/
def fileError (doing : String) (path : Spelling) (fault : FileFault) : Outcome :=
  match fault with
  | .nulInPath => .escaping .nulInPath
  | .notEncodable => .escaping .notEncodable
  | fault => .failing (remark s!"Error {doing} " path (fault.message path))

/-- How a failure of the conversion ends a run. -/
def conversionError (input : Spelling) : Failure → Outcome
  | .refused e => .failing (remark "Error: " input e.message)
  | .unknownKind word => .escaping (.unknownKind word)

variable {m : Type → Type} [Monad m]

/-- Leaves the result where the settings want it, or prints it. -/
def deliver (h : Host m) (least : Nat) (s : Settings) (result : Text) : m Outcome := do
  match s.output with
  | none => return .printing (Text.spelling result)
  | some path =>
    match ← h.write path (Utf8.encode result) with
    | .error fault => return fileError "writing" path fault
    | .ok () => return Outcome.logging (LogLevel.log least [.wrote path]) {}

/-- Converts the content of the document, and does with the result what the command is for. -/
def process (h : Host m) (verb : Verb) (least : Nat) (s : Settings) (content : Text) :
    m Outcome := do
  let report := s.policy.convert content
  let log := LogLevel.log least report.events
  match report.result with
  | .error failure => return (conversionError s.input failure).logging log
  | .ok result =>
    match verb with
    | .check =>
      let verdict := Text.spelling "OK: ".toList ++ s.input ++ [.char '\n']
      return (Outcome.printing verdict).logging log
    | .convert => return (← deliver h least s result).logging log

/-- Runs a task with its settings. -/
def perform (h : Host m) (t : Task) (s : Settings) : m Outcome := do
  match if t.verbose then .ok Level.debug.rank else LogLevel.threshold s.logLevel with
  | .error what => return .escaping (.misnamedLevel what)
  | .ok least =>
    match ← h.read s.input with
    | .error fault => return fileError "reading" s.input fault
    | .ok bytes =>
      match Utf8.decode bytes with
      | .error fault => return .escaping (.undecodable fault)
      | .ok content => process h t.verb least s content

/-- Runs a task. -/
def runTask (h : Host m) (t : Task) : m Outcome := do
  match ← Settings.load h t.config t.overrides with
  | .error failure => return .failing (Text.spelling (loadError failure).toList)
  | .ok s => perform h t s

/-- Runs the program. -/
def run (h : Host m) (arguments : List Text) : m Outcome :=
  match Invocation.ofArguments arguments with
  | .show text => return .printing (Text.spelling text.toList)
  | .bare => return .failing (Text.spelling Help.program.toList) 2
  | .wrong fault usage helper =>
    return .failing (Text.spelling (usageError fault usage helper).toList) 2
  | .run task => runTask h task

end Command

end CrateDocs
