import CrateDocs.Link.Registry
import CrateDocs.Markdown.LinkDefinition

namespace CrateDocs

/-!
# Policies

A policy names the package whose links are turned into links within the crate, and what those links
are held to.

* `Policy` holds the package, the expectations and the known shapes;
* `Policy.verdict` compares a target with the expectations;
* `Policy.relink` replaces the address of a link definition by the link within the crate.
-/

/-- The package whose links are turned into links within the crate, and what those links are held
to. -/
structure Policy where
  package : Text
  package_ne_nil : package ≠ []
  /-- the version that a link must carry -/
  version : Option Spelling := none
  /-- the crate that a link must name -/
  crate : Option Spelling := none
  /-- whether doubtful lines are refused -/
  strict : Bool := false
  registry : Registry := Registry.default

namespace Policy

/-- The policy for a package, unless its name is empty. -/
def make? (package : Text) (version crate : Option Spelling) (strict : Bool)
    (registry : Registry := Registry.default) : Option Policy :=
  if h : package = [] then none else some ⟨package, h, version, crate, strict, registry⟩

/-- What is wrong with the version of a target. A link without a version is wrong only if the
policy is strict. -/
def versionOffence? (p : Policy) (url : Text) (found : Option Text) : Option Offence :=
  match p.version, found with
  | none, _ => none
  | some expected, none => if p.strict then some (.noVersion url expected) else none
  | some expected, some found =>
    if Text.spelling found = expected then none else some (.version url expected found)

/-- What is wrong with the crate of a target. -/
def crateOffence? (p : Policy) (url : Text) (found : Option Text) : Option Offence :=
  match p.crate, found with
  | some expected, some found =>
    if Text.spelling found = expected then none else some (.crate url expected found)
  | _, _ => none

/-- What is wrong with a target, the version first. -/
def offence? (p : Policy) (url : Text) (t : Target) : Option Offence :=
  p.versionOffence? url t.version <|> p.crateOffence? url t.crate

/-- Gives the definition `d` on `line` its link within the crate. -/
def relinkDefinition (p : Policy) (number : Int) (line : Text) (d : LinkDefinition) :
    Report Text := do
  match ← p.registry.find p.package d.url with
  | some target =>
    match p.offence? d.url target with
    | some offence => Report.refuse number line offence
    | none =>
      Report.tell (.urlReplaced number d.url target.render)
      pure (d.withUrl target.render)
  | none =>
    if Url.isOfPackage p.package d.url = false then pure line
    else if p.strict then Report.refuse number line (.unrecognized d.url)
    else
      Report.tell (.urlKept number d.url)
      pure line

/-- Gives `line` its link within the crate if it defines a link to the package. -/
def relink (p : Policy) (number : Int) (line : Text) : Report Text :=
  match LinkDefinition.ofLine? line with
  | none => pure line
  | some d => p.relinkDefinition number line d

end Policy

end CrateDocs
