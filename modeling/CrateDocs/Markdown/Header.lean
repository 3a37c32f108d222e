import CrateDocs.Text.Blank

namespace CrateDocs

/-!
# Headers

A header is a line of one to six `#`, alone or followed by white space and the rest of the line.

* `Header.depth?` is the number of its `#`;
* `Header.demote` takes one of them away.
-/

namespace Header

/-- Whether the text after the `#` leaves the line a header. -/
def isTail : Text → Bool
  | [] => true
  | c :: rest => Text.isBlank c && (Text.oneLine? rest).isSome

/-- The number of `#` that make `line` a header. -/
def depth? (line : Text) : Option Nat :=
  let marks := (line.takeWhile (· = '#')).length
  if 1 ≤ marks ∧ marks ≤ 6 ∧ isTail (line.dropWhile (· = '#')) then some marks else none

/-- The line one level up. There is none above a top-level header, and a line that is no header
stays as it is. -/
def demote (line : Text) : Option Text :=
  match depth? line with
  | none => some line
  | some 1 => none
  | some _ => some line.tail

theorem depth?_ne_zero (line : Text) : depth? line ≠ some 0 := by
  intro h
  simp only [depth?] at h
  split at h
  case isTrue hmarks =>
    have hzero := Option.some.inj h
    omega
  case isFalse => cases h

theorem demote_of_depth? {line : Text} {depth : Nat} (h : depth? line = some (depth + 2)) :
    demote line = some line.tail := by
  simp [demote, h]

end Header

end CrateDocs
