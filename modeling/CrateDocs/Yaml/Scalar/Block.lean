import CrateDocs.Yaml.Cursor
import CrateDocs.Yaml.Fault

namespace CrateDocs.Yaml

/-!
# Block scalars

A block scalar is an indented block of lines after `|`, which keeps them, or `>`, which joins
them. A sign after that says what becomes of the line breaks at the end, and a digit how deep the
block is indented; otherwise its first line that is not empty says so.

* `Block.Header` is what the sign and the digit say;
* `Block.scan` reads a scalar from the `|` or `>` on.
-/

namespace Block

/-- What becomes of the line breaks at the end. -/
inductive Chomping
  /-- all are dropped -/
  | strip
  /-- the first is kept -/
  | clip
  /-- all are kept -/
  | keep
  deriving DecidableEq, Repr

/-- What the first line says about the block. -/
structure Header where
  chomping : Chomping := .clip
  /-- how much deeper than its surroundings the block is indented -/
  increment : Option Nat := none
  deriving DecidableEq, Repr

/-- Reads a sign, if there is one. -/
def sign (c : Cursor) : Option Chomping × Cursor :=
  match c.peek? with
  | some '+' => (some .keep, c.next)
  | some '-' => (some .strip, c.next)
  | _ => (none, c)

/-- Reads a digit, if there is one. It must not be zero. -/
def digit (c : Cursor) : Except Fault (Option Nat × Cursor) :=
  match c.peek? with
  | some '0' => .error .malformed
  | some ch => .ok (if ch.isDigit then (some (ch.toNat - '0'.toNat), c.next) else (none, c))
  | none => .ok (none, c)

/-- Reads a sign and a digit in either order, and the rest of the line. -/
def header (c : Cursor) : Except Fault (Header × Cursor) := do
  let (first, c) := sign c
  let (increment, c) ← digit c
  let (second, c) := if first.isNone ∧ increment.isSome then sign c else (none, c)
  if !isHardStop c.peek? then throw .malformed
  let c := c.skipSpaces.skipComment
  if !isLineEnd c.peek? then throw .malformed
  pure (⟨(first <|> second).getD .clip, increment⟩, c.next)

/-- The line breaks and spaces before the first line that is not empty, and the deepest
indentation among them. -/
def opening : Nat → Nat → Cursor → Text × Nat × Cursor
  | 0, deepest, c => ([], deepest, c)
  | fuel + 1, deepest, c =>
    if c.peek? = some ' ' then opening fuel (max deepest c.next.column) c.next
    else
      match c.lineBreak? with
      | none => ([], deepest, c)
      | some (ch, c) =>
        let (chs, deepest, c) := opening fuel deepest c
        (ch :: chs, deepest, c)

/-- Moves over spaces up to a column. -/
def indentTo (indent : Nat) (c : Cursor) : Cursor :=
  c.advance (min (indent - c.column) (c.run (· = ' ')).length)

/-- The line breaks ahead, and the indentation of the line after them. -/
def breaks (indent : Nat) : Nat → Cursor → Text × Cursor
  | 0, c => ([], c)
  | fuel + 1, c =>
    let c := indentTo indent c
    match c.lineBreak? with
    | none => ([], c)
    | some (ch, c) =>
      let (chs, c) := breaks indent fuel c
      (ch :: chs, c)

/-- Reads on after `done` and the line breaks behind it. -/
def scanFrom (joins : Bool) (chomping : Chomping) (indent : Nat) :
    Nat → Text → Text → Text → Cursor → Text × Cursor
  | 0, done, _, _, c => (done, c)
  | fuel + 1, done, lineBreak, others, c =>
    if c.column = indent ∧ c.peek?.isSome then
      let opensWithGap := c.peek?.any isGap
      let line := c.run (!isBreak ·)
      let c := c.skipLine
      let (lineBreak', c) := match c.lineBreak? with
        | none => ([], c)
        | some (ch, c) => ([ch], c)
      let (others', c) := breaks indent (c.rest.length + 1) c
      let done := done ++ others ++ line
      if c.column = indent ∧ c.peek?.isSome then
        let joint :=
          if joins ∧ lineBreak' = ['\n'] ∧ !opensWithGap ∧ !(c.peek?.any isGap) then
            if others' = [] then [' '] else []
          else lineBreak'
        scanFrom joins chomping indent fuel (done ++ joint) [] others' c
      else scanFrom joins chomping indent fuel done lineBreak' others' c
    else
      match chomping with
      | .strip => (done, c)
      | .clip => (done ++ lineBreak, c)
      | .keep => (done ++ lineBreak ++ others, c)

/-- Reads a block scalar within a block of the given indentation. -/
def scan (joins : Bool) (indent : Int) (c : Cursor) : Except Fault (Text × Cursor) := do
  let (h, c) ← header c.next
  let least := (max (indent + 1) 1).toNat
  let fuel := c.rest.length + 1
  match h.increment with
  | some n =>
    let indent := least + n - 1
    let (others, c) := breaks indent fuel c
    pure (scanFrom joins h.chomping indent fuel [] [] others c)
  | none =>
    let (others, deepest, c) := opening fuel 0 c
    pure (scanFrom joins h.chomping (max least deepest) fuel [] [] others c)

end Block

end CrateDocs.Yaml
