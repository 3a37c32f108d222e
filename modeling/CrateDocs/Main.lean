import CrateDocs.Command.Run
import CrateDocs.Yaml.Document

/-!
# The program

The program runs on the disk, the environment and the users of its process.
-/

namespace CrateDocs

namespace Main

/-- The number of an error of the system and its words. Any other error has no number. -/
def numbered : IO.Error → Option (UInt32 × String)
  | .alreadyExists _ number words
  | .interrupted _ number words
  | .noFileOrDirectory _ number words
  | .invalidArgument _ number words
  | .permissionDenied _ number words
  | .resourceExhausted _ number words
  | .inappropriateType _ number words
  | .noSuchThing _ number words
  | .otherError number words
  | .resourceBusy number words
  | .resourceVanished number words
  | .unsupportedOperation number words
  | .hardwareFault number words
  | .unsatisfiedConstraints number words
  | .illegalOperation number words
  | .protocolError number words
  | .timeExpired number words => some (number, words)
  | .unexpectedEof | .userError _ => none

/-- The fault that an error stands for. Some numbers come with a sign. -/
def faultOf (e : IO.Error) : FileFault :=
  match numbered e with
  | some (number, words) => .ofNumber number.toInt32.toInt.natAbs words
  | none => .other 0 e.toString

/-- Runs an action on files. No file is known that has a name of other bytes than UTF-8. -/
def attempt {α : Type} (path : Spelling) (action : String → IO α) : IO (Except FileFault α) := do
  match (pathBytes? path).map Utf8.decode with
  | none => return .error .notEncodable
  | some (.error _) => return .error .notFound
  | some (.ok name) =>
    if '\x00' ∈ name then return .error .nulInPath
    try
      return .ok (← action name.asString)
    catch e =>
      return .error (faultOf e)

/-- The lines of a file of the system, or none if it cannot be read. -/
def linesOf (name : String) : IO (List Text) := do
  try
    return (← IO.FS.readFile name).toList.splitOn '\n'
  catch _ =>
    return []

/-- The number of the user who runs the program. -/
def ownNumber? : IO (Option Text) := do
  let tag := "Uid:\t".toList
  let line := (← linesOf "/proc/self/status").find? tag.isPrefixOf
  return line.map fun line => (line.drop tag.length).takeWhile (· ≠ '\t')

/-- The home directory of a user in the list of users: an entry has the name of the user at its
start, the number after one more field, and the home directory after three. -/
def home? (user : Option Text) : IO (Option Text) := do
  let entries := (← linesOf "/etc/passwd").map fun line => line.splitOn ':'
  let entry ← match user with
    | some name => pure (entries.find? fun entry => entry[0]? = some name)
    | none => do
      match ← ownNumber? with
      | some number => pure (entries.find? fun entry => entry[2]? = some number)
      | none => pure none
  return entry.bind (·[5]?)

/-- The disk, the environment and the users of the process. -/
def host : Host IO where
  read path := attempt path fun name => do
    return (← IO.FS.readBinFile name).toList
  write path content := attempt path fun name =>
    IO.FS.writeBinFile name content.toByteArray
  lookUp name := do
    return (← IO.getEnv name.asString).map String.toList
  home user := do
    if '\x00' ∈ user.getD [] then return .error .nulInPath
    return .ok (← home? user)
  document t := return Yaml.load Yaml.usualLimit t

end Main

end CrateDocs

open CrateDocs in
/-- Runs the program with the arguments of the process. -/
def main (arguments : List String) : IO UInt32 := do
  let outcome ← Command.run Main.host (arguments.map String.toList)
  (← IO.getStdout).putStr outcome.stdout.asString
  (← IO.getStderr).putStr outcome.stderr.asString
  return outcome.exit.toUInt32
