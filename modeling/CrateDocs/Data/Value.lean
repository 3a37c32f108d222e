import CrateDocs.Data.Decimal
import CrateDocs.Issue
import CrateDocs.Text.Spelling
import CrateDocs.Text.Utf8

namespace CrateDocs

/-!
# Values from outside

Settings and targets come as values of no particular type. Each reader below takes the values
that it can make sense of, and reports a fault for the others.

* `Value` is such a value, and `Fields` a mapping from names to values;
* `Value.toText`, `Value.toSpelling`, `Value.toTruth`, `Value.toListOf` and `Value.orNull` read a
  value;
* `Fields.required` and `Fields.optional` read a field;
* `Checked.ap` puts what was read together, and collects the issues in order.
-/

/-- A value of no particular type. -/
inductive Value
  | null
  | truth (b : Bool)
  | int (n : Int)
  | real (x : Double)
  /-- an infinity, or no number -/
  | nonFinite
  | text (t : Text)
  /-- a spelling that is no text -/
  | broken (s : Spelling)
  | bytes (b : Bytes)
  /-- a day, perhaps with a time -/
  | date
  | list (items : List Value)
  | set (members : List Value)
  | mapping (entries : List (Value × Value))
  deriving Inhabited, Repr

namespace Checked

variable {α β : Type}

/-- A value that nothing stands in the way of. -/
def of (a : α) : Checked α := .ok a

/-- Applies a function that may be missing to an argument that may be. What is missing in both is
reported, the function's part first. -/
def ap (f : Checked (α → β)) (x : Checked α) : Checked β :=
  match f, x with
  | .ok f, .ok a => .ok (f a)
  | f, x => .error (f.issues ++ x.issues)

@[simp] theorem ap_ok_ok (f : α → β) (a : α) : ap (.ok f) (.ok a) = .ok (f a) := rfl

@[simp] theorem issues_ap (f : Checked (α → β)) (x : Checked α) :
    (ap f x).issues = f.issues ++ x.issues := by
  cases f <;> cases x <;> simp [ap, issues]

end Checked

/-- A mapping from names to values, one value for each name. -/
abbrev Fields := List (Text × Value)

namespace Fields

/-- The value of a field. -/
def get? (fields : Fields) (name : String) : Option Value := fields.lookup name.toList

/-- Sets a field, in place of a value that it has already. -/
def put (fields : Fields) (name : Text) (v : Value) : Fields :=
  (name, v) :: fields.filter (·.1 ≠ name)

/-- The fields of a mapping whose keys are names. A later value takes the place of an earlier one,
and other keys are left out. -/
def ofEntries (entries : List (Value × Value)) : Fields :=
  entries.foldl (fun fields entry =>
    match entry.1 with
    | .text name => fields.put name entry.2
    | _ => fields) []

/-- Reads a field that must be there. -/
def required {α : Type} (fields : Fields) (name : String) (read : Value → Checked α) : Checked α :=
  Checked.under (.field name) <|
    match fields.get? name with
    | none => Checked.fault .missing
    | some v => read v

/-- Reads a field that may be absent. -/
def optional {α : Type} (fields : Fields) (name : String) (read : Value → Checked α)
    (absent : α) : Checked α :=
  match fields.get? name with
  | none => .ok absent
  | some v => Checked.under (.field name) (read v)

end Fields

namespace Value

/-- The number that a double is, where none stands for what is not finite. -/
def ofDouble? : Option Double → Value
  | some x => real x
  | none => nonFinite

/-- The value of a spelling, which is a text if it can be. -/
def ofSpelling (s : Spelling) : Value :=
  match s.text? with
  | some t => text t
  | none => broken s

/-- Reads a text. Bytes are read as UTF-8. -/
def toText : Value → Checked Text
  | text t => .ok t
  | broken _ => Checked.fault .notUnicode
  | bytes b =>
    match Utf8.decode b with
    | .ok t => .ok t
    | .error _ => Checked.fault .notUnicode
  | _ => Checked.fault .notText

/-- Reads a spelling, as which any text will do. -/
def toSpelling : Value → Checked Spelling
  | broken s => .ok s
  | v => v.toText.map Text.spelling

/-- Reads a value that may also be null. -/
def orNull {α : Type} (read : Value → Checked α) : Value → Checked (Option α)
  | null => .ok none
  | v => (read v).map some

/-- The words that stand for false. -/
def falseWords : List String := ["0", "off", "f", "false", "n", "no"]

/-- The words that stand for true. -/
def trueWords : List String := ["1", "on", "t", "true", "y", "yes"]

/-- The truth value that a word stands for, in letters of either case. -/
def truthOfWord? (word : Text) : Option Bool :=
  let word := Text.asString (word.map Char.toLower)
  if word ∈ falseWords then some false else if word ∈ trueWords then some true else none

/-- The integers in this range count as numbers when a truth value is read, larger ones do not. -/
def wordLimit : Nat := 9223372036854775808

/-- The truth value that an integer stands for, which only zero and one do. -/
def truthOfInt : Int → Checked Bool
  | 0 => .ok false
  | 1 => .ok true
  | _ => Checked.fault .unreadTruth

/-- The truth value that a word must stand for. -/
def truthOfWord (word : Text) : Checked Bool :=
  match truthOfWord? word with
  | some b => .ok b
  | none => Checked.fault .unreadTruth

/-- Reads a truth value: itself, zero or one, or a word. -/
def toTruth : Value → Checked Bool
  | truth b => .ok b
  | int n =>
    if -(wordLimit : Int) ≤ n ∧ n < wordLimit then truthOfInt n else Checked.fault .notTruth
  | real x =>
    match x.toInt? with
    | some n => if n.natAbs < wordLimit then truthOfInt n else Checked.fault .notTruth
    | none => Checked.fault .notTruth
  | text word => truthOfWord word
  | broken _ => Checked.fault .notUnicode
  | bytes b =>
    match Utf8.decode b with
    | .ok word => truthOfWord word
    | .error _ => Checked.fault .unreadTruth
  | _ => Checked.fault .notTruth

/-- Reads the elements of a list from the one of number `index` on. -/
def elementsFrom {α : Type} (read : Value → Checked α) (index : Nat) : List Value → Checked (List α)
  | [] => .ok []
  | v :: rest =>
    let first := Checked.under (.element index) (read v)
    Checked.of List.cons |>.ap first |>.ap (elementsFrom read (index + 1) rest)

/-- Reads a list. -/
def toListOf {α : Type} (read : Value → Checked α) : Value → Checked (List α)
  | list items => elementsFrom read 0 items
  | _ => Checked.fault .notList

/-- Reads a mapping for the model of the given name. -/
def toModel {α : Type} (model : String) (read : Fields → Checked α) : Value → Checked α
  | mapping entries => read (Fields.ofEntries entries)
  | _ => Checked.fault (.notMapping model)

end Value

end CrateDocs
