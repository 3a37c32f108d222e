import CrateDocs.Data.Value
import CrateDocs.Link.Target

namespace CrateDocs

/-!
# Targets from fields

A target, an item and a member can be built from fields of no particular type. All fields are
read before the rules of a target are looked at.

* `Item.ofFields` and `Member.ofFields` read a kind and a name;
* `Target.ofFields` reads a whole target.
-/

/-- Reads one of the words of a class. -/
def Value.toWord {α : Type} (ofWord? : Text → Option α) (otherwise : Fault) : Value → Checked α
  | .text word =>
    match ofWord? word with
    | some a => .ok a
    | none => Checked.fault otherwise
  | _ => Checked.fault otherwise

/-- Reads a name, which is not empty. -/
def Value.toName (v : Value) : Checked Text := do
  let name ← v.toText
  if name = [] then Checked.fault .tooShort else pure name

namespace Item

/-- The item of the fields `kind` and `name`. -/
def ofFields (fields : Fields) : Checked Item :=
  Checked.of Item.mk
    |>.ap (fields.required "kind" (Value.toWord ItemKind.ofWord? .notItemKind))
    |>.ap (fields.required "name" Value.toName)

end Item

namespace Member

/-- The member of the fields `kind` and `name`. -/
def ofFields (fields : Fields) : Checked Member :=
  Checked.of Member.mk
    |>.ap (fields.required "kind" (Value.toWord MemberKind.ofWord? .notMemberKind))
    |>.ap (fields.required "name" Value.toName)

end Member

namespace Target

/-- Reads the name of a package, which is not empty. -/
def readPackage (v : Value) : Checked Text := do
  let name ← v.toText
  if name = [] then Checked.fault (.refused .emptyPackage) else pure name

/-- The target of the fields, of which only the package must be there. -/
def ofFields (fields : Fields) : Checked Target := do
  let optionalText := fun name => fields.optional name (Value.orNull Value.toText) none
  let readItem := Value.orNull (Value.toModel "ItemRef" Item.ofFields)
  let readMember := Value.orNull (Value.toModel "MemberRef" Member.ofFields)
  let t ← Checked.of Target.mk
    |>.ap (fields.required "package" readPackage)
    |>.ap (optionalText "version")
    |>.ap (optionalText "crate")
    |>.ap (fields.optional "modules" (Value.toListOf Value.toText) [])
    |>.ap (fields.optional "item" readItem none)
    |>.ap (fields.optional "member" readMember none)
    |>.ap (optionalText "fragment")
    |>.ap (fields.optional "index" Value.toTruth false)
  t.check

end Target

end CrateDocs
