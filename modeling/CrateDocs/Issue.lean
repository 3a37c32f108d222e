import CrateDocs.Link.Kind
import CrateDocs.Text.Quoted

namespace CrateDocs

/-!
# Issues with data

Targets and settings are built from data that may not fit. What does not fit is reported as a
list of issues, each with the place where it was found.

* `Refusal` is a rule of the domain that values of the right form break;
* `Fault` is all that can be wrong with a value, with its `code` and `message`;
* `Issue` is a fault at a place;
* `Checked` is a value, or the issues that stand in its way.
-/

/-- A rule that values of the right form break. -/
inductive Refusal
  /-- a target without a package name -/
  | emptyPackage
  /-- a member that belongs to no item -/
  | memberWithoutItem
  /-- a member of a kind that the item cannot have -/
  | foreignMember (item : ItemKind) (member : MemberKind)
  /-- a target with both a member and a bare fragment -/
  | memberWithFragment
  /-- a package name that is not one segment of an address -/
  | packageName (name : Spelling)
  deriving DecidableEq, Repr

/-- The rule that was broken, in words. -/
def Refusal.message : Refusal → String
  | emptyPackage => "Package name must not be empty"
  | memberWithoutItem => "Member anchor without an item"
  | foreignMember item member =>
    s!"{item.word.asString} items have no {member.word.asString} members"
  | memberWithFragment => "Member anchor and fragment are mutually exclusive"
  | packageName name => s!"Invalid package name: {name.quoted.asString}"

/-- What can be wrong with a value. -/
inductive Fault
  /-- a required value is absent -/
  | missing
  /-- no text -/
  | notText
  /-- bytes or text of which something is no character -/
  | notUnicode
  /-- an empty name -/
  | tooShort
  /-- no kind of item -/
  | notItemKind
  /-- no kind of member -/
  | notMemberKind
  /-- no list -/
  | notList
  /-- no mapping, where one for the named model is due -/
  | notMapping (model : String)
  /-- a value of a type that is never a truth value -/
  | notTruth
  /-- a word or a number that stands for no truth value -/
  | unreadTruth
  /-- a value of the right form that breaks a rule -/
  | refused (reason : Refusal)
  deriving DecidableEq, Repr

namespace Fault

/-- The short name of a fault. -/
def code : Fault → String
  | missing => "missing"
  | notText => "string_type"
  | notUnicode => "string_unicode"
  | tooShort => "string_too_short"
  | notItemKind | notMemberKind => "enum"
  | notList => "list_type"
  | notMapping _ => "model_type"
  | notTruth => "bool_type"
  | unreadTruth => "bool_parsing"
  | refused _ => "value_error"

/-- The fault in words. -/
def message : Fault → String
  | missing => "Field required"
  | notText => "Input should be a valid string"
  | notUnicode => "Input should be a valid string, unable to parse raw data as a unicode string"
  | tooShort => "String should have at least 1 character"
  | notItemKind => "Input should be 'enum', 'fn', 'struct' or 'trait'"
  | notMemberKind => "Input should be 'method', 'tymethod' or 'variant'"
  | notList => "Input should be a valid list"
  | notMapping model => s!"Input should be a valid dictionary or instance of {model}"
  | notTruth => "Input should be a valid boolean"
  | unreadTruth => "Input should be a valid boolean, unable to interpret input"
  | refused reason => s!"Value error, {reason.message}"

end Fault

/-- A step on the way into data: to a field of a mapping or to an element of a list. -/
inductive Step
  | field (name : String)
  | element (index : Nat)
  deriving DecidableEq, Repr

/-- A fault and the place where it was found. -/
structure Issue where
  place : List Step
  fault : Fault
  deriving DecidableEq, Repr

/-- The issue seen from one step further out. -/
def Issue.under (step : Step) (i : Issue) : Issue := { i with place := step :: i.place }

/-- A value, or the issues that stand in its way. -/
abbrev Checked (α : Type) := Except (List Issue) α

namespace Checked

/-- A single fault at the place itself. -/
def fault {α : Type} (f : Fault) : Checked α := .error [⟨[], f⟩]

/-- The same, seen from one step further out. -/
def under {α : Type} (step : Step) (x : Checked α) : Checked α :=
  x.mapError (·.map (Issue.under step))

/-- The issues found, none for a value. -/
def issues {α : Type} : Checked α → List Issue
  | .ok _ => []
  | .error found => found

@[simp] theorem issues_ok {α : Type} (a : α) : issues (.ok a : Checked α) = [] := rfl

@[simp] theorem issues_error {α : Type} (found : List Issue) :
    issues (.error found : Checked α) = found := rfl

end Checked

/-- The messages of issues, one after the other. -/
def issueSummary (found : List Issue) : String := "; ".intercalate (found.map (·.fault.message))

end CrateDocs
