import CrateDocs.Text.Quoted
import CrateDocs.Text.Similarity

namespace CrateDocs

/-!
# Options on a command line

An option has a long name after two dashes, and some have a letter after one dash as well. A
value follows its option, either right behind it or as the next argument. Several letters can
share a dash. Two dashes alone end the options.

* `OptionSpec` describes an option;
* `UsageFault` is what can be wrong with the arguments, and `UsageFault.message` tells it;
* `Arguments.read` takes arguments apart into options and the others.
-/

/-- An option of a command. -/
structure OptionSpec (α : Type) where
  name : α
  long : String
  letter : Option Char := none
  takesValue : Bool := false

/-- What can be wrong with arguments. -/
inductive UsageFault
  /-- an option that there is not, with those that may be meant -/
  | unknownOption (name : Text) (similar : List String)
  | noValue (name : Text)
  | unexpectedValue (name : Text)
  /-- a command that there is not, with those that may be meant -/
  | unknownCommand (name : Text) (similar : List String)
  | noCommand
  | extraArguments (arguments : List Text)
  deriving DecidableEq, Repr

namespace UsageFault

/-- A question whether one of several names is meant. -/
def question : List String → String
  | [] => ""
  | [name] => s!" Did you mean {(Text.quoted name.toList).asString}?"
  | names =>
    let all := ", ".intercalate (names.map fun name => (Text.quoted name.toList).asString)
    s!" (Did you mean one of: {all}?)"

/-- The fault in words. -/
def message : UsageFault → String
  | unknownOption name similar =>
    s!"No such option {name.quoted.asString}.{question similar}"
  | noValue name => s!"Option {name.quoted.asString} requires an argument."
  | unexpectedValue name => s!"Option {name.quoted.asString} does not take a value."
  | unknownCommand name similar =>
    s!"No such command {name.quoted.asString}.{question similar}"
  | noCommand => "Missing command."
  | extraArguments arguments =>
    let noun := if arguments.length = 1 then "argument" else "arguments"
    let names := " ".intercalate (arguments.map Text.asString)
    s!"Got unexpected extra {noun} ({names})"

/-- Whether the fault is told together with a reminder of the usage. -/
def isFramed : UsageFault → Bool
  | noValue _ | unexpectedValue _ => false
  | unknownOption .. | unknownCommand .. | noCommand | extraArguments _ => true

end UsageFault

namespace Arguments

variable {α : Type}

/-- The options given, in order, each with its value, and the other arguments. -/
structure Given (α : Type) where
  options : List (α × Text) := []
  others : List Text := []

/-- What a single argument gives: options with their values, and at its end perhaps one, as it was
typed, whose value is the next argument. -/
structure Cluster (α : Type) where
  options : List (α × Text) := []
  waiting : Option (α × Text) := none

/-- Two dashes. -/
def dashes : Text := ['-', '-']

/-- Whether an argument is an option or a cluster of them. -/
def isOption : Text → Bool
  | '-' :: _ :: _ => true
  | _ => false

/-- Reads an argument as the long name of an option, with a value after `=` if there is one. -/
def readLong (specs : List (OptionSpec α)) (argument : Text) :
    Except UsageFault (Cluster α) :=
  let name := argument.takeWhile (· ≠ '=')
  let value := (argument.dropWhile (· ≠ '=')).tail?
  match specs.find? (·.long.toList = name) with
  | none => .error (.unknownOption name (Text.nearest name (specs.map (·.long))))
  | some spec =>
    match spec.takesValue, value with
    | true, some v => .ok { options := [(spec.name, v)] }
    | true, none => .ok { waiting := some (spec.name, name) }
    | false, some _ => .error (.unexpectedValue name)
    | false, none => .ok { options := [(spec.name, [])] }

/-- Reads letters that share a dash. The first one that takes a value takes what follows it. -/
def readLetters (specs : List (OptionSpec α)) : Text → Except UsageFault (Cluster α)
  | [] => .ok {}
  | letter :: rest =>
    match specs.find? (·.letter = some letter) with
    | none => .error (.unknownOption ['-', letter] [])
    | some spec =>
      if spec.takesValue then
        if rest = [] then .ok { waiting := some (spec.name, ['-', letter]) }
        else .ok { options := [(spec.name, rest)] }
      else do
        let others ← readLetters specs rest
        .ok { others with options := (spec.name, []) :: others.options }

/-- Reads an option or a cluster of them. -/
def readOption (specs : List (OptionSpec α)) (argument : Text) : Except UsageFault (Cluster α) :=
  if dashes.isPrefixOf argument then readLong specs argument else readLetters specs argument.tail

/-- Takes arguments apart. Where `mixed` is false, the first one that is no option ends the
options. -/
def read (specs : List (OptionSpec α)) (mixed : Bool) : List Text → Except UsageFault (Given α)
  | [] => .ok {}
  | argument :: rest =>
    if argument = dashes then .ok { others := rest }
    else if isOption argument then
      match readOption specs argument with
      | .error fault => .error fault
      | .ok cluster =>
        match cluster.waiting, rest with
        | none, rest => do
          let given ← read specs mixed rest
          .ok { given with options := cluster.options ++ given.options }
        | some (_, name), [] => .error (.noValue name)
        | some (option, _), value :: rest => do
          let given ← read specs mixed rest
          .ok { given with options := cluster.options ++ (option, value) :: given.options }
    else if mixed then do
      let given ← read specs mixed rest
      .ok { given with others := argument :: given.others }
    else .ok { others := argument :: rest }

/-- The value of an option, which is the last one given. -/
def Given.value? [DecidableEq α] (given : Given α) (name : α) : Option Text :=
  (given.options.reverse.find? (·.1 = name)).map (·.2)

/-- Whether an option was given. -/
def Given.has [DecidableEq α] (given : Given α) (name : α) : Bool := (given.value? name).isSome

end Arguments

end CrateDocs
