import CrateDocs.Data.Lookup
import CrateDocs.Host
import CrateDocs.Yaml.Document

namespace CrateDocs

/-!
# Sandboxes

A sandbox is the surroundings of a run as a value: the files below the working directory and
elsewhere, the variables, the homes of users and what documents say. The names of files are bytes.

* `Location` is a place in the tree of directories;
* `Sandbox` holds files, directories, variables and homes;
* `Sandbox.read` and `Sandbox.write` follow a path through the tree;
* `Sandbox.host` lets a program run on a sandbox;
* `Sandbox.changes` lists the files below the working directory that differ after a run.
-/

/-- Where a path starts. -/
inductive Anchor
  /-- at the root of all directories -/
  | root
  /-- at the working directory or a number of levels above it -/
  | above (levels : Nat)
  deriving DecidableEq, Repr

/-- A place in the tree of directories: the names on the way from where a path starts. -/
structure Location where
  anchor : Anchor
  names : List Bytes
  deriving DecidableEq, Repr

namespace Location

/-- The working directory. -/
def working : Location := ⟨.above 0, []⟩

/-- A place right below. -/
def child (l : Location) (name : Bytes) : Location := { l with names := l.names ++ [name] }

/-- The directory above. -/
def parent (l : Location) : Location :=
  if l.names ≠ [] then { l with names := l.names.dropLast }
  else
    match l.anchor with
    | .root => l
    | .above levels => { l with anchor := .above (levels + 1) }

/-- Whether `inner` is `l` or below it. -/
def holds (l inner : Location) : Bool :=
  l.anchor = inner.anchor && l.names.isPrefixOf inner.names

/-- The byte between the names of a path. -/
def slash : UInt8 := 0x2f

/-- The names on a path. -/
def namesOf (path : Bytes) : List Bytes := (path.splitOn slash).filter (· ≠ [])

/-- The location of a path below the working directory that is written with no detours. -/
def below (path : Text) : Location :=
  ⟨.above 0, (namesOf (Utf8.encode path)).filter (· ≠ Utf8.encode ['.'])⟩

/-- The location as a path from where it starts. -/
def toPath (l : Location) : Bytes := [slash].intercalate l.names

end Location

/-- Files, directories, variables and homes, and how documents are read. A directory is there if it
is listed or if there is something below it. -/
structure Sandbox where
  files : List (Location × Bytes) := []
  directories : List Location := []
  environment : List (Text × Text) := []
  /-- the home directories that are known, of users with a name and of the one without -/
  homes : List (Option Text × Text) := []
  document : Text → Except Yaml.Fault Value := Yaml.load Yaml.usualLimit

namespace Sandbox

/-- The most bytes that a name may have. -/
def nameLimit : Nat := 255

/-- The most bytes that a path may have. -/
def pathLimit : Nat := 4095

/-- What is found at a place. -/
inductive Entry
  | file (content : Bytes)
  | directory
  deriving Repr

/-- What is found at a place. Where a path starts there is a directory. -/
def entry? (s : Sandbox) (l : Location) : Option Entry :=
  match s.files.lookup l with
  | some content => some (.file content)
  | none =>
    if l.names = [] || s.directories.any l.holds || s.files.any (fun f => l.holds f.1) then
      some .directory
    else none

/-- The name of a directory in itself. -/
def here : Bytes := Utf8.encode ['.']

/-- The name of the directory above in a directory. -/
def above : Bytes := Utf8.encode ['.', '.']

/-- Goes from a directory into one of its directories. -/
def enter (s : Sandbox) (l : Location) (name : Bytes) : Except FileFault Location :=
  if name = here then .ok l
  else if name = above then .ok l.parent
  else if nameLimit < name.length then .error .nameTooLong
  else
    match s.entry? (l.child name) with
    | none => .error .notFound
    | some (.file _) => .error .notDirectory
    | some .directory => .ok (l.child name)

/-- A path up to its last name: the directory, the name and whether a `/` follows it. -/
structure Aim where
  directory : Location
  name : Bytes
  slash : Bool

/-- Follows a path up to its last name. -/
def follow (s : Sandbox) (path : Spelling) : Except FileFault Aim := do
  let path ← (pathBytes? path).elim (.error .notEncodable) .ok
  if 0 ∈ path then throw .nulInPath
  if path = [] then throw .notFound
  if pathLimit < path.length then throw .nameTooLong
  let start : Location :=
    if path.head? = some Location.slash then ⟨.root, []⟩ else Location.working
  let names := Location.namesOf path
  let directory ← names.dropLast.foldlM s.enter start
  return ⟨directory, names.getLast?.getD here, path.getLast? = some Location.slash⟩

/-- The content of the file at a path. -/
def read (s : Sandbox) (path : Spelling) : Except FileFault Bytes := do
  let aim ← s.follow path
  if aim.name = here ∨ aim.name = above then throw .isDirectory
  if nameLimit < aim.name.length then throw .nameTooLong
  match s.entry? (aim.directory.child aim.name) with
  | none => throw .notFound
  | some .directory => throw .isDirectory
  | some (.file content) => if aim.slash then throw .notDirectory else return content

/-- Puts a file at a place. -/
def put (s : Sandbox) (l : Location) (content : Bytes) : Sandbox :=
  { s with files := (l, content) :: s.files.filter (·.1 ≠ l) }

/-- Puts content into the file at a path, which need not be there before. -/
def write (s : Sandbox) (path : Spelling) (content : Bytes) : Except FileFault Sandbox := do
  let aim ← s.follow path
  if aim.name = here ∨ aim.name = above ∨ aim.slash then throw .isDirectory
  if nameLimit < aim.name.length then throw .nameTooLong
  let l := aim.directory.child aim.name
  match s.entry? l with
  | some .directory => throw .isDirectory
  | _ => return s.put l content

/-- The home directory of a user. There cannot be a NUL in the name. -/
def home (s : Sandbox) (user : Option Text) : Except FileFault (Option Text) :=
  if '\x00' ∈ user.getD [] then .error .nulInPath else .ok (s.homes.lookup user)

/-- The sandbox as the surroundings of a run. -/
def host : Host (StateM Sandbox) where
  read path := return (← get).read path
  write path content := do
    match (← get).write path content with
    | .error f => return .error f
    | .ok s =>
      set s
      return .ok ()
  lookUp name := return (← get).environment.lookup name
  home user := return (← get).home user
  document t := return (← get).document t

/-- The files below the working directory that are new or different in `after`. -/
def changes (before after : Sandbox) : List (Bytes × Bytes) :=
  after.files.filterMap fun (l, content) =>
    if l.anchor = .above 0 ∧ before.files.lookup l ≠ some content then some (l.toPath, content)
    else none

end Sandbox

end CrateDocs
