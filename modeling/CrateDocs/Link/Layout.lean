import CrateDocs.Link.Page
import CrateDocs.Text.Word

namespace CrateDocs

/-!
# Further layouts

Shapes that a registry may know beside the pages of a package. They are laxer than the pages: a
step may hold dots, and a name may be any word, even the empty one.

* `Layout.all` lists them;
* `Shape.named?` looks one of them or of the pages up by its name.
-/

namespace Layout

/-- A shape of the given name. -/
def shape (name : String) (captures? : Text → Option Captures) : Shape where
  name
  description := s!"custom {name}"
  captures?

/-- The name of an item's file and the fragment after it. -/
def file? (remainder : Text) : Option (Text × Text × Option Text) := do
  let (path, fragment) ← Url.splitFragment? remainder
  let step ← Text.after? ['/'] path
  let (kind, name) ← Page.itemFile? step
  some (kind, name, fragment)

/-- Nothing at all. -/
def root : Shape := shape "root" fun remainder => if remainder = [] then some {} else none

/-- Any single line. -/
def any : Shape := shape "any" fun remainder => if '\n' ∈ remainder then none else some {}

/-- A single step, read as a version. -/
def versioned : Shape := shape "versioned" fun remainder =>
  match Url.steps? remainder with
  | some [version] => if version = [] then none else some { version }
  | _ => none

/-- A single step, read as a crate. -/
def crate : Shape := shape "crate" fun remainder =>
  match Url.steps? remainder with
  | some [crate] => if crate = [] then none else some { crate }
  | _ => none

/-- A version, a crate and modules, perhaps with a `/` at the end, all of them with dots if need
be. -/
def paths : Shape := shape "paths" fun remainder =>
  match Url.steps? remainder with
  | some (version :: crate :: rest) =>
    let (modules, index) :=
      if rest.getLast? = some [] then (rest.dropLast, some ['/']) else (rest, none)
    if version ≠ [] ∧ crate ≠ [] ∧ modules.all (fun m => m ≠ [] && '#' ∉ m) then
      some { version, crate, modules := Page.pathOf modules, index }
    else none
  | _ => none

/-- The file of an enumeration right below the package. -/
def bareItem : Shape := shape "bare_item" fun remainder => do
  let (kind, name, fragment) ← file? remainder
  if kind = ItemKind.enum.word ∧ name ≠ [] ∧ name.all Text.isWord then
    some { kind, name, fragment }
  else none

/-- The file of an item of any kind, which need not have a name. -/
def anyKind : Shape := shape "any_kind" fun remainder => do
  let (kind, name, fragment) ← file? remainder
  if kind ≠ [] ∧ kind.all Text.isWord ∧ name.all Text.isWord then some { kind, name, fragment }
  else none

/-- All further layouts. -/
def all : List Shape := [root, any, versioned, crate, paths, bareItem, anyKind]

end Layout

/-- The page or further layout of the given name. -/
def Shape.named? (name : String) : Option Shape :=
  (Page.all ++ Layout.all).find? (·.name == name)

end CrateDocs
