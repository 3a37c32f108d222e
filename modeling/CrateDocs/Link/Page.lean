import CrateDocs.Link.Shape
import CrateDocs.Link.Url

namespace CrateDocs

/-!
# The pages of a package

The documentation of a package has four layouts of addresses, each with an optional fragment:

* `Page.item`, `/VERSION/CRATE/MODULES.../KIND.NAME.html`;
* `Page.modules`, `/VERSION/CRATE/MODULES...`, perhaps as an index;
* `Page.version`, `/VERSION`, perhaps as an index;
* `Page.package`, nothing or `/`.

An index is spelled `/` or `/index.html` at the end. A version may hold dots; the names of crates,
modules and items do not, so that none of them can be taken for a file.
-/

namespace Page

/-- Whether a step is the name of a crate, a module or an item. -/
def isName (step : Text) : Bool := step ≠ [] && '.' ∉ step

/-- The file that stands for a directory. -/
def indexFile : Text := "index.html".toList

/-- The kind and the name in the name of an item's file. -/
def itemFile? (file : Text) : Option (Text × Text) :=
  match file.splitOn '.' with
  | [kind, name, extension] => if extension = "html".toList then some (kind, name) else none
  | _ => none

/-- The steps before the spelling of an index, and that spelling. -/
def splitIndex (steps : List Text) : List Text × Option Text :=
  match steps.getLast? with
  | some [] => (steps.dropLast, some ['/'])
  | some last =>
    if last = indexFile then (steps.dropLast, some ('/' :: indexFile)) else (steps, none)
  | none => (steps, none)

/-- Names as they stand in a path, each after a `/`. -/
def pathOf (names : List Text) : Text := names.flatMap ('/' :: ·)

/-- The pieces of an item's page. -/
def itemCaptures? (path : Text) (fragment : Option Text) : Option Captures :=
  match Url.steps? path with
  | some (version :: crate :: rest) => do
    let (kind, name) ← itemFile? (← rest.getLast?)
    if version ≠ [] ∧ (crate :: rest.dropLast).all isName ∧
        (ItemKind.ofWord? kind).isSome ∧ name ≠ [] then
      some { version, crate, modules := pathOf rest.dropLast, kind, name, fragment }
    else none
  | _ => none

/-- The pieces of a module's page. -/
def moduleCaptures? (path : Text) (fragment : Option Text) : Option Captures :=
  match Url.steps? path with
  | some (version :: rest) =>
    match splitIndex rest with
    | (crate :: modules, index) =>
      if version ≠ [] ∧ (crate :: modules).all isName then
        some { version, crate, modules := pathOf modules, index, fragment }
      else none
    | _ => none
  | _ => none

/-- The pieces of a version's page. -/
def versionCaptures? (path : Text) (fragment : Option Text) : Option Captures :=
  match Url.steps? path with
  | some (version :: rest) =>
    match splitIndex rest with
    | ([], index) => if version ≠ [] then some { version, index, fragment } else none
    | _ => none
  | _ => none

/-- The pieces of a package's page. -/
def packageCaptures? (path : Text) (fragment : Option Text) : Option Captures :=
  if path = [] then some { fragment }
  else if path = ['/'] then some { index := path, fragment }
  else none

/-- A shape that looks at the path and the fragment of an address. -/
def shape (name description : String) (captures? : Text → Option Text → Option Captures) :
    Shape where
  name
  description
  captures? remainder := do
    let (path, fragment) ← Url.splitFragment? remainder
    captures? path fragment

/-- The page of an item. -/
def item : Shape := shape "item" "Item page, optionally anchored at a member" itemCaptures?

/-- The page of a module. -/
def modules : Shape := shape "module" "Crate root or module index" moduleCaptures?

/-- The page of a version. -/
def version : Shape := shape "version" "Versioned package landing page" versionCaptures?

/-- The page of a package. -/
def package : Shape := shape "package" "Unversioned package landing page" packageCaptures?

/-- All pages, the most specific first. -/
def all : List Shape := [item, modules, version, package]

end Page

end CrateDocs
