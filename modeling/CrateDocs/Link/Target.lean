import CrateDocs.Issue

namespace CrateDocs

/-!
# Link targets

A link into the documentation of a package, taken apart into what it points at.

* `Target` holds the parts;
* `Target.check` lets a target pass that keeps the rules: a package name, and a member only on an
  item that can have it and only instead of a bare fragment;
* `Target.path` and `Target.render` give the link as it is written inside the documented crate.
-/

/-- An item with a page of its own. -/
structure Item where
  kind : ItemKind
  name : Text
  deriving DecidableEq, Repr

/-- A member of an item, with an anchor on the item's page. -/
structure Member where
  kind : MemberKind
  name : Text
  deriving DecidableEq, Repr

/-- What a link into the documentation of a package points at. -/
structure Target where
  package : Text
  version : Option Text := none
  crate : Option Text := none
  modules : List Text := []
  item : Option Item := none
  member : Option Member := none
  fragment : Option Text := none
  /-- whether the address spelled the page out as an index -/
  index : Bool := false
  deriving DecidableEq, Repr

namespace Item

/-- An item needs a name that is not empty. -/
def check (kind : ItemKind) : Option Text → Checked Item
  | none => Checked.under (.field "name") (Checked.fault .notText)
  | some [] => Checked.under (.field "name") (Checked.fault .tooShort)
  | some name => .ok ⟨kind, name⟩

end Item

namespace Member

/-- The member that an anchor names: a kind, a dot and a name. -/
def ofAnchor? (anchor : Text) : Option Member := do
  let kind ← MemberKind.ofWord? (anchor.takeWhile (· ≠ '.'))
  let name ← Text.oneLine? ((anchor.dropWhile (· ≠ '.')).drop 1)
  if name = [] then none else some ⟨kind, name⟩

end Member

namespace Target

/-- The rule about members that `t` breaks, if any. -/
def memberRefusal? (t : Target) : Option Refusal :=
  match t.member with
  | none => none
  | some member =>
    match t.item with
    | none => some .memberWithoutItem
    | some item =>
      if item.kind.allows member.kind = false then some (.foreignMember item.kind member.kind)
      else if t.fragment.isSome then some .memberWithFragment
      else none

/-- Lets `t` pass if it keeps the rules. That of the package name comes first. -/
def check (t : Target) : Checked Target :=
  if t.package = [] then Checked.under (.field "package") (Checked.fault (.refused .emptyPackage))
  else
    match t.memberRefusal? with
    | some reason => Checked.fault (.refused reason)
    | none => .ok t

/-- A target that passes is unchanged. -/
theorem eq_of_check {t u : Target} (h : t.check = .ok u) : u = t := by
  unfold check at h
  split at h
  · nomatch h
  · split at h
    · nomatch h
    · exact (Except.ok.inj h).symm

/-- The names on the way from the crate to what `t` points at. -/
def path (t : Target) : List Text :=
  t.modules ++ (t.item.map (·.name)).toList ++ (t.member.map (·.name)).toList

/-- The name that the documented crate has within itself. -/
def crateRoot : Text := "crate".toList

/-- What stands between two names of a path. -/
def separator : Text := "::".toList

/-- `t` as a link within the documented crate: the path, and the fragment if there is one. -/
def render (t : Target) : Text :=
  separator.intercalate (crateRoot :: t.path) ++
    match t.fragment with
    | none => []
    | some fragment => '#' :: fragment

end Target

end CrateDocs
