import CrateDocs.Link.Page

namespace CrateDocs

/-!
# Registries of shapes

A registry knows some shapes, in order. The first one that finds a target in an address decides.

* `Registry.default` knows the pages of a package;
* `Registry.register` adds a shape after all others;
* `Registry.find` reads an address.
-/

/-- The known shapes, in the order in which they are tried. -/
structure Registry where
  shapes : List Shape

namespace Registry

/-- The registry of the pages of a package. -/
def default : Registry := ⟨Page.all⟩

/-- Adds a shape after all others. -/
def register (r : Registry) (s : Shape) : Registry := ⟨r.shapes ++ [s]⟩

/-- The first target that one of the shapes finds in the remainder of `url`. -/
def findIn (package url remainder : Text) : List Shape → Report (Option Target)
  | [] => pure none
  | s :: rest => do
    match ← s.parse package remainder with
    | some target =>
      Report.tell (.shapeMatched url s.name)
      pure (some target)
    | none => findIn package url remainder rest

/-- What `url` points at in the documentation of the package. -/
def find (r : Registry) (package url : Text) : Report (Option Target) :=
  match Url.remainder? package url with
  | none => pure none
  | some remainder => findIn package url remainder r.shapes

@[simp] theorem shapes_register (r : Registry) (s : Shape) :
    (r.register s).shapes = r.shapes ++ [s] := rfl

end Registry

end CrateDocs
