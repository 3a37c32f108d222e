import CrateDocs.Command.Help
import CrateDocs.Command.Option
import CrateDocs.Data.Value

namespace CrateDocs

/-!
# Invocations

The arguments of the program say what it has to do: show a text, refuse them, or run one of its
two commands on a document.

* `Task` is a command with its options, and `Task.overrides` the settings that it brings;
* `Invocation` is what arguments ask for, and `Invocation.ofArguments` reads them.
-/

/-- The commands of the program. -/
inductive Verb
  /-- writes the converted document -/
  | convert
  /-- only looks whether the document can be converted -/
  | check
  deriving DecidableEq, Repr

namespace Verb

/-- The command as it is typed. -/
def word : Verb → String
  | convert => "convert"
  | check => "check"

/-- All commands. -/
def all : List Verb := [convert, check]

/-- The command that a word names. -/
def ofWord? (w : Text) : Option Verb := all.find? (·.word.toList = w)

/-- The help about the command. -/
def help : Verb → String
  | convert => Help.convert
  | check => Help.check

end Verb

/-- The options of the commands. -/
inductive TaskOption
  | package
  | version
  | crate
  | strict
  | config
  | verbose
  | output
  | help
  deriving DecidableEq, Repr

/-- The options of the program itself. -/
inductive ProgramOption
  | version
  | help
  deriving DecidableEq, Repr

/-- A command with its options. -/
structure Task where
  verb : Verb
  /-- the path of the document -/
  input : Option Text := none
  package : Option Text := none
  version : Option Text := none
  crate : Option Text := none
  strict : Bool := false
  /-- the path of the file of settings -/
  config : Option Text := none
  verbose : Bool := false
  /-- the path of the result -/
  output : Option Text := none
  deriving DecidableEq, Repr

namespace Task

/-- A text, or null for none. -/
def orNull : Option Text → Value
  | none => .null
  | some t => .text t

/-- The settings that a task brings. Only a command that writes has an output. -/
def overrides (t : Task) : List (Text × Value) :=
  [("input".toList, orNull t.input),
    ("package_name".toList, orNull t.package),
    ("version".toList, orNull t.version),
    ("crate_name".toList, orNull t.crate),
    ("strict".toList, if t.strict then .truth true else .null)] ++
  match t.verb with
  | .convert => [("output".toList, orNull t.output)]
  | .check => []

end Task

/-- What arguments ask for. -/
inductive Invocation
  /-- a text to be shown -/
  | show (text : String)
  /-- nothing, so that the help is shown in place of an error -/
  | bare
  /-- arguments that are wrong, with the usage to remind of and the command that explains it -/
  | wrong (fault : UsageFault) (usage helper : String)
  /-- a command to be run -/
  | run (task : Task)

namespace Invocation

/-- The options of the program itself. -/
def programSpecs : List (OptionSpec ProgramOption) :=
  [{ name := .version, long := "--version" }, { name := .help, long := "--help" }]

/-- The options of a command. -/
def taskSpecs (v : Verb) : List (OptionSpec TaskOption) :=
  [{ name := .package, long := "--package-name", letter := some 'p', takesValue := true },
    { name := .version, long := "--expected-version", takesValue := true },
    { name := .crate, long := "--crate-name", takesValue := true },
    { name := .strict, long := "--strict" },
    { name := .config, long := "--config", letter := some 'c', takesValue := true },
    { name := .verbose, long := "--verbose", letter := some 'v' },
    { name := .help, long := "--help" }] ++
  match v with
  | .convert =>
    [{ name := .output, long := "--output", letter := some 'o', takesValue := true }]
  | .check => []

/-- Arguments that are wrong for the program itself. -/
def programFault (fault : UsageFault) : Invocation :=
  .wrong fault Help.programUsage s!"{Help.name} --help"

/-- Arguments that are wrong for a command. -/
def taskFault (v : Verb) (fault : UsageFault) : Invocation :=
  .wrong fault (Help.commandUsage v.word) s!"{Help.name} {v.word} --help"

/-- The task that the options of a command describe. -/
def task (v : Verb) (given : Arguments.Given TaskOption) : Task where
  verb := v
  input := given.others.head?
  package := given.value? .package
  version := given.value? .version
  crate := given.value? .crate
  strict := given.has .strict
  config := given.value? .config
  verbose := given.has .verbose
  output := given.value? .output

/-- Reads the arguments of a command. Its help goes before too many documents. -/
def ofTask (v : Verb) (arguments : List Text) : Invocation :=
  match Arguments.read (taskSpecs v) true arguments with
  | .error fault => taskFault v fault
  | .ok given =>
    if given.has .help then .show v.help
    else
      match given.others with
      | _ :: extra :: more => taskFault v (.extraArguments (extra :: more))
      | _ => .run (task v given)

/-- The text that the first of the program's options shows. -/
def shown? (given : Arguments.Given ProgramOption) : Option String :=
  given.options.head?.map fun
    | (.version, _) => Help.version
    | (.help, _) => Help.program

/-- What is asked for by arguments that do not name a command. If the first of them looks like an
option, as it can only after two dashes, options are looked for once more. -/
def ofUnknown (name : Text) (arguments : List Text) : Invocation :=
  let unknown := programFault (.unknownCommand name (Text.nearest name (Verb.all.map Verb.word)))
  match name with
  | '-' :: _ =>
    match Arguments.read programSpecs false arguments with
    | .error fault => programFault fault
    | .ok given => ((shown? given).map .show).getD unknown
  | _ => unknown

/-- Reads the arguments of the program. -/
def ofArguments (arguments : List Text) : Invocation :=
  if arguments = [] then .bare
  else
    match Arguments.read programSpecs false arguments with
    | .error fault => programFault fault
    | .ok given =>
      match shown? given, given.others with
      | some text, _ => .show text
      | none, [] => programFault .noCommand
      | none, name :: rest =>
        match Verb.ofWord? name with
        | some v => ofTask v rest
        | none => ofUnknown name (name :: rest)

end Invocation

end CrateDocs
