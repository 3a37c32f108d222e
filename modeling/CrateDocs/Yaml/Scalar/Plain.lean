import CrateDocs.Yaml.Cursor

namespace CrateDocs.Yaml

/-!
# Plain scalars

A plain scalar stands without quotes. It ends at a comment, at a colon before a space, in flow
collections at their punctuation, and at a line that is not indented deeply enough.

* `Plain.startsAt` tells where one starts;
* `Plain.scan` reads one.
-/

namespace Plain

/-- The punctuation that ends a plain scalar in a flow collection. -/
def flowMarks : Text := ",?[]\x7b\x7d".toList

/-- The punctuation before which a colon ends a plain scalar in a flow collection. -/
def flowStops : Text := ",[]\x7b\x7d".toList

/-- The characters that no plain scalar starts with, but for the three that may if a word follows
them. -/
def indicators : Text := "-?:,[]\x7b\x7d#&*!|>'\x22%@`".toList

/-- Whether a plain scalar starts here. -/
def startsAt (inFlow : Bool) (c : Cursor) : Bool :=
  match c.peek? with
  | none => false
  | some ch =>
    !isStop (some ch) &&
      (ch ∉ indicators ||
        (!isStop (c.peekAt? 1) && (ch = '-' || (!inFlow && (ch = '?' || ch = ':')))))

/-- The part of a plain scalar up to a space, a line break or its end. -/
def run (inFlow : Bool) : Text → Text
  | [] => []
  | ch :: rest =>
    let endsHere :=
      isStop (some ch) ||
        (ch = ':' && (isStop rest.head? || (inFlow && rest.head?.any (· ∈ flowStops)))) ||
        (inFlow && ch ∈ flowMarks)
    if endsHere then [] else ch :: run inFlow rest

/-- The line breaks ahead with the spaces between them, unless one of them is followed by a
divider. -/
def breaks? : Nat → Cursor → Option (Text × Cursor)
  | 0, c => some ([], c)
  | fuel + 1, c =>
    if c.peek? = some ' ' then breaks? fuel c.next
    else
      match c.lineBreak? with
      | none => some ([], c)
      | some (ch, c) =>
        if c.atDivider then none else (breaks? fuel c).map fun (chs, c) => (ch :: chs, c)

/-- What separates two parts of a plain scalar. -/
structure Gap where
  /-- the text that it stands for, empty if the scalar ends here -/
  text : Text
  cursor : Cursor
  /-- whether it reaches another line -/
  crossesLine : Bool

/-- The gap ahead. -/
def gap (c : Cursor) : Gap :=
  let spaces := c.run (· = ' ')
  let c := c.skipSpaces
  match c.lineBreak? with
  | none => ⟨spaces, c, false⟩
  | some (first, c) =>
    if c.atDivider then ⟨[], c, true⟩
    else
      match breaks? (c.rest.length + 1) c with
      | none => ⟨[], c, true⟩
      | some (others, c) => ⟨Cursor.folded first others, c, true⟩

/-- Reads on after `done` and the gap behind it. -/
def scanFrom (inFlow : Bool) (indent : Int) : Nat → Text → Gap → Text × Gap
  | 0, done, g => (done, g)
  | fuel + 1, done, g =>
    let part := run inFlow g.cursor.rest
    if g.cursor.peek? = some '#' ∨ part = [] then (done, g)
    else
      let following := gap (g.cursor.advance part.length)
      let done := done ++ g.text ++ part
      if following.text = [] ∨ following.cursor.peek? = some '#' ∨
          (!inFlow ∧ (following.cursor.column : Int) < indent) then
        (done, following)
      else scanFrom inFlow indent fuel done following

/-- Reads a plain scalar within a block of the given indentation. The gap behind it is passed,
too. -/
def scan (inFlow : Bool) (indent : Int) (c : Cursor) : Text × Gap :=
  scanFrom inFlow (indent + 1) (c.rest.length + 1) [] ⟨[], c, false⟩

end Plain

end CrateDocs.Yaml
