import CrateDocs.Data.Value
import CrateDocs.Text.Utf8
import CrateDocs.Yaml.Fault

namespace CrateDocs

/-!
# The surroundings of a run

A run of the program reads and writes files, looks up variables of its environment and the homes of
users, and has documents read. All that it knows about its surroundings is a `Host`, so that it can
run on a disk as well as on a value.

* `pathBytes?` is the path of a file as the disk knows it;
* `FileFault` is a reason why a file cannot be read or written, `FileFault.ofNumber` the one that
  the system reports by a number, and `FileFault.message` tells it;
* `Host` is the surroundings of a run.
-/

/-- The byte that a half stands for in a path, if it does: bytes that are not UTF-8 have the halves
from U+DC80 to U+DCFF. -/
def Half.byte? (h : Half) : Option UInt8 :=
  if 0xdc80 ≤ h.code ∧ h.code ≤ 0xdcff then some (h.code - 0xdc00).toUInt8 else none

/-- A path as bytes, which is what the disk knows it by. -/
def pathBytes? : Spelling → Option Bytes
  | [] => some []
  | .char c :: rest => (pathBytes? rest).map (Utf8.encode [c] ++ ·)
  | .half h :: rest => do return (← h.byte?) :: (← pathBytes? rest)

/-- A reason why a file cannot be read or written. -/
inductive FileFault
  | notFound
  | notDirectory
  | isDirectory
  | nameTooLong
  /-- any other error of the system, by its number and in its words -/
  | other (number : Nat) (words : String)
  /-- the path holds a NUL, which no path can -/
  | nulInPath
  /-- the path holds a half that stands for no byte -/
  | notEncodable
  deriving DecidableEq, Repr

namespace FileFault

/-- The number that the system has for the fault, if it is one of the system, and its words. -/
def told : FileFault → Option Nat × String
  | notFound => (some 2, "No such file or directory")
  | notDirectory => (some 20, "Not a directory")
  | isDirectory => (some 21, "Is a directory")
  | nameTooLong => (some 36, "File name too long")
  | other number words => (some number, words)
  | nulInPath => (none, "embedded null byte")
  | notEncodable => (none, "surrogates not allowed")

/-- The fault in words, with the path that it is about if it is one of the system. -/
def message (f : FileFault) (path : Spelling) : String :=
  match f.told with
  | (some number, words) => s!"[Errno {number}] {words}: {path.quoted.asString}"
  | (none, words) => words

/-- The fault that the system reports by a number. -/
def ofNumber (number : Nat) (words : String) : FileFault :=
  ([notFound, notDirectory, isDirectory, nameTooLong].find? (·.told.1 = some number)).getD
    (other number words)

theorem told_ofNumber (number : Nat) (words : String) :
    (ofNumber number words).told.1 = some number := by
  unfold ofNumber
  cases h : [notFound, notDirectory, isDirectory, nameTooLong].find? (·.told.1 = some number) with
  | none => rfl
  | some f => simpa using List.find?_some h

/-- The numbers by which the system tells that there is nothing at a path: no such file, a bad file
descriptor, a step that is no directory, and too many links. -/
def absences : List Nat := [2, 9, 20, 40]

/-- Whether the fault says that there is no file. There is none at a path that cannot be one. -/
def isAbsence (f : FileFault) : Bool := f.told.1.all (· ∈ absences)

end FileFault

/-- The surroundings of a run. -/
structure Host (m : Type → Type) where
  /-- the content of a file -/
  read : Spelling → m (Except FileFault Bytes)
  /-- puts content into a file, in place of what it holds -/
  write : Spelling → Bytes → m (Except FileFault Unit)
  /-- the value of a variable -/
  lookUp : Text → m (Option Text)
  /-- the home directory of a user, the one who runs the program or one with a name -/
  home : Option Text → m (Except FileFault (Option Text))
  /-- the value of a document -/
  document : Text → m (Except Yaml.Fault Value)

end CrateDocs
