import CrateDocs.Link.Target
import CrateDocs.Report

namespace CrateDocs

/-!
# Shapes of addresses

A shape is one layout of the addresses of a package's documentation: it takes what follows the
package in an address apart, or does not fit.

* `Captures` are the pieces that a shape finds, each where its layout has one;
* `Captures.target` builds the target that the pieces name, or says what is wrong with them;
* `Shape.parse` does both.
-/

/-- The pieces of an address that a shape finds. A piece is missing if nothing stands in its place,
or if the layout has no place for it. A layout that has a place for a kind has one for a name. -/
structure Captures where
  version : Option Text := none
  crate : Option Text := none
  /-- the modules, each after a `/` -/
  modules : Option Text := none
  /-- how the address spells out that it is an index -/
  index : Option Text := none
  kind : Option Text := none
  name : Option Text := none
  fragment : Option Text := none
  deriving DecidableEq, Repr

/-- One layout of the addresses of a package's documentation. -/
structure Shape where
  name : String
  description : String
  captures? : Text → Option Captures

/-- Whether a piece was found that is not empty. -/
def isPresent (piece : Option Text) : Bool := piece.getD [] ≠ []

namespace Captures

/-- The names of the modules. -/
def moduleNames (c : Captures) : List Text := ((c.modules.getD []).splitOn '/').filter (· ≠ [])

/-- The target without an item that the pieces name. -/
def page (c : Captures) (package : Text) : Target where
  package
  version := c.version
  crate := c.crate
  modules := c.moduleNames
  fragment := c.fragment
  index := isPresent c.index

/-- The target that the pieces name. An anchor that names a member takes the place of the
fragment. -/
def target (c : Captures) (package : Text) : Option ItemKind → Checked Target
  | none => (c.page package).check
  | some kind => do
    let item ← Item.check kind c.name
    let page := { c.page package with item := some item }
    match Member.ofAnchor? (c.fragment.getD []) with
    | none => page.check
    | some member => Target.check { page with member := some member, fragment := none }

end Captures

namespace Shape

/-- The kind of the item that the pieces name, if they name one. -/
def itemKind (c : Captures) : Report (Option ItemKind) :=
  match c.kind with
  | none | some [] => pure none
  | some word =>
    match ItemKind.ofWord? word with
    | none => Report.stop (.unknownKind word)
    | some kind => pure (some kind)

/-- What `remainder` points at, if the shape fits and the pieces keep the rules. -/
def parse (s : Shape) (package remainder : Text) : Report (Option Target) :=
  match s.captures? remainder with
  | none => pure none
  | some c => do
    let kind ← itemKind c
    match c.target package kind with
    | .ok target => pure (some target)
    | .error issues =>
      Report.tell (.shapeRejected s.name remainder issues)
      pure none

end Shape

end CrateDocs
