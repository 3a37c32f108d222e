import CrateDocs.ErrorKind
import CrateDocs.Text.Quoted

namespace CrateDocs

/-!
# Conversion errors

A document is refused at the first line that breaks a rule. The error names the line and what
the rule compared.

* `Offence` is what is wrong with a line, and `Offence.kind` is the kind of the error;
* `ConversionError` is an offence at a numbered line;
* `ConversionError.message` tells both.
-/

/-- What is wrong with a line. -/
inductive Offence
  /-- a link to another version than the expected one -/
  | version (url : Text) (expected : Spelling) (found : Text)
  /-- a link to another crate than the expected one -/
  | crate (url : Text) (expected : Spelling) (found : Text)
  /-- a link that names no version where one is expected -/
  | noVersion (url : Text) (expected : Spelling)
  /-- a link to no page that is known -/
  | unrecognized (url : Text)
  /-- a top-level header after another header -/
  | repeatedTitle
  deriving DecidableEq, Repr

/-- An offence, the number of its line and the line without its ending. -/
structure ConversionError where
  number : Int
  line : Text
  offence : Offence
  deriving DecidableEq, Repr

namespace Offence

/-- The kind of error that the offence is. -/
def kind : Offence → ErrorKind
  | version .. => .version
  | crate .. => .crate
  | noVersion .. => .noVersion
  | unrecognized _ => .unrecognized
  | repeatedTitle => .repeatedTitle

/-- The address that the offence is about. -/
def url? : Offence → Option Text
  | version url _ _ | crate url _ _ | noVersion url _ | unrecognized url => some url
  | repeatedTitle => none

/-- The value that the line was held to. -/
def expected? : Offence → Option Spelling
  | version _ expected _ | crate _ expected _ | noVersion _ expected => some expected
  | unrecognized _ | repeatedTitle => none

/-- The value that stands in the line instead. -/
def found? : Offence → Option Text
  | version _ _ found | crate _ _ found => some found
  | noVersion _ _ | unrecognized _ | repeatedTitle => none

theorem conversion_mem_above_kind (o : Offence) : .conversion ∈ o.kind.above := by
  cases o <;> simp [kind, ErrorKind.above]

/-- An offence has a value for each parameter of its kind, after the number and the line. -/
theorem parameters_kind (o : Offence) :
    o.kind.parameters = some (["line_number", "line"] ++ (o.url?.map fun _ => "url").toList ++
      (o.expected?.map fun _ => "expected").toList ++ (o.found?.map fun _ => "found").toList) := by
  cases o <;> rfl

/-- The offence in words. -/
def message (o : Offence) : String :=
  o.kind.remark
    { url := o.url?.elim "" Text.asString
      expected := o.expected?.elim "" fun s => s.quoted.asString
      found := o.found?.elim "" fun t => t.quoted.asString }

end Offence

/-- The error in words. -/
def ConversionError.message (e : ConversionError) : String :=
  ErrorKind.describe e.offence.message (toString e.number) e.line.asString

end CrateDocs
