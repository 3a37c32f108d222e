import CrateDocs.Text.Blank

namespace CrateDocs

/-!
# Link definitions

A link definition is a line of a label in brackets, a colon, and an address, with white space
before, between and after them.

* `LinkDefinition.ofLine?` cuts a line into what stands before the address, the address, and
  what follows it.
-/

/-- A line that defines a link, cut around the address. -/
structure LinkDefinition where
  /-- the label up to the address -/
  head : Text
  /-- the address -/
  url : Text
  /-- the rest of the line -/
  tail : Text
  deriving DecidableEq, Repr

namespace LinkDefinition

/-- Cuts what follows the colon. -/
def ofAddress? (label rest : Text) : Option LinkDefinition := do
  let gap := rest.takeWhile Text.isBlank
  let rest := rest.dropWhile Text.isBlank
  let url := rest.takeWhile (!Text.isBlank ·)
  let tail ← Text.oneLine? (rest.dropWhile (!Text.isBlank ·))
  if gap = [] ∨ url = [] then none else some ⟨label ++ gap, url, tail⟩

/-- Cuts `line` if it defines a link. The label is what stands between `[` and the next `]`, and
is not empty. -/
def ofLine? (line : Text) : Option LinkDefinition :=
  let indent := line.takeWhile Text.isBlank
  match line.dropWhile Text.isBlank with
  | '[' :: rest =>
    let label := rest.takeWhile (· ≠ ']')
    match rest.dropWhile (· ≠ ']') with
    | ']' :: ':' :: rest =>
      if label = [] then none else ofAddress? (indent ++ '[' :: label ++ [']', ':']) rest
    | _ => none
  | _ => none

/-- The line again, with the address replaced. -/
def withUrl (d : LinkDefinition) (url : Text) : Text := d.head ++ url ++ d.tail

end LinkDefinition

end CrateDocs
