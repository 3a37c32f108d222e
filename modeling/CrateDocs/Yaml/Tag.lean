import CrateDocs.Yaml.Cursor
import CrateDocs.Yaml.Scalar.Quoted
import CrateDocs.Yaml.Token
import CrateDocs.Text.Utf8

namespace CrateDocs.Yaml

/-!
# Names, tags and directives

* `Name.scan` reads the name of an anchor or an alias;
* `Tag.scan` reads a tag: a handle and a suffix, or a whole tag in angle brackets;
* `Directive.scan` reads a directive to the end of its line.
-/

/-- Whether `c` may stand in a name: a letter, a digit, `-` or `_` of ASCII. -/
def isNameChar (c : Char) : Bool := c.isAlphanum || c = '-' || c = '_'

namespace Name

/-- The characters that may follow the name of an anchor, besides white space. -/
def followers : Text := "?:,]\x7d%@`".toList

/-- Reads the name after `&` or `*`. -/
def scan (c : Cursor) : Except Fault (Text × Cursor) :=
  let c := c.next
  let name := c.run isNameChar
  let c := c.advance name.length
  if name = [] then .error .malformed
  else if isStop c.peek? || c.peek?.any (· ∈ followers) then .ok (name, c)
  else .error .malformed

end Name

namespace Tag

/-- The characters of an address besides letters and digits. -/
def addressMarks : Text := "-;/?:@&=+$,_.!~*'()[]%".toList

/-- Whether `c` may stand in the address of a tag. -/
def isAddressChar (c : Char) : Bool := c.isAlphanum || c ∈ addressMarks

/-- The bytes of the percent escapes ahead. -/
def escapedBytes : Nat → Cursor → Except Fault (List UInt8 × Cursor)
  | 0, c => .ok ([], c)
  | fuel + 1, c =>
    if c.peek? ≠ some '%' then .ok ([], c)
    else
      match c.next.rest.take 2 with
      | [high, low] =>
        match number? 16 [high, low] with
        | some n => do
          let (bytes, c) ← escapedBytes fuel (c.advance 3)
          .ok (n.toUInt8 :: bytes, c)
        | none => .error .malformed
      | _ => .error .malformed

/-- Reads an address on after `done`. -/
def addressFrom : Nat → Text → Cursor → Except Fault (Text × Cursor)
  | 0, done, c => .ok (done, c)
  | fuel + 1, done, c =>
    match c.peek? with
    | some '%' => do
      let (bytes, c) ← escapedBytes c.rest.length c
      match Utf8.decode bytes with
      | .ok t => addressFrom fuel (done ++ t) c
      | .error _ => .error .malformed
    | some ch =>
      if isAddressChar ch then addressFrom fuel (done ++ [ch]) c.next else .ok (done, c)
    | none => .ok (done, c)

/-- Reads an address, which is not empty. -/
def address (c : Cursor) : Except Fault (Text × Cursor) := do
  let (t, after) ← addressFrom (c.rest.length + 1) [] c
  if after.index = c.index then .error .malformed else .ok (t, after)

/-- Reads a handle: a `!`, or a name between two of them. -/
def handle (c : Cursor) : Except Fault (Text × Cursor) :=
  if c.peek? ≠ some '!' then .error .malformed
  else if c.peekAt? 1 = some ' ' then .ok (['!'], c.next)
  else
    let name := c.next.run isNameChar
    let c := c.next.advance name.length
    if c.peek? = some '!' then .ok ('!' :: name ++ ['!'], c.next) else .error .malformed

/-- Reads a tag from its `!` on. -/
def scan (c : Cursor) : Except Fault (Token × Cursor) := do
  let (token, c) ←
    if c.peekAt? 1 = some '<' then do
      let (suffix, c) ← address (c.advance 2)
      if c.peek? ≠ some '>' then throw .malformed
      pure (Token.tag none suffix, c.next)
    else if isStop (c.peekAt? 1) then pure (Token.tag none ['!'], c.next)
    else do
      let word := c.next.rest.takeWhile fun ch => !isHardStop (some ch)
      let (name, c) ← if '!' ∈ word then handle c else pure (['!'], c.next)
      let (suffix, c) ← address c
      pure (Token.tag (some name) suffix, c)
  if isHardStop c.peek? then pure (token, c) else throw .malformed

end Tag

namespace Directive

/-- Reads a number. -/
def readNumber (c : Cursor) : Except Fault (Nat × Cursor) :=
  let digits := c.run Char.isDigit
  if Impossible.digitLimit < digits.length then
    .error (.impossible (.tooManyDigits digits.length))
  else
    match digits, number? 10 digits with
    | _ :: _, some n => .ok (n, c.advance digits.length)
    | _, _ => .error .malformed

/-- Reads a version after its directive. -/
def readVersion (c : Cursor) : Except Fault (Directive × Cursor) := do
  let (major, c) ← readNumber c.skipSpaces
  if c.peek? ≠ some '.' then throw .malformed
  let (_, c) ← readNumber c.next
  if isHardStop c.peek? then pure (.version major, c) else throw .malformed

/-- Reads a handle and its meaning after their directive. -/
def readHandle (c : Cursor) : Except Fault (Directive × Cursor) := do
  let (name, c) ← Tag.handle c.skipSpaces
  if c.peek? ≠ some ' ' then throw .malformed
  let (meaning, c) ← Tag.address c.skipSpaces
  if isHardStop c.peek? then pure (.handle name meaning, c) else throw .malformed

/-- Reads a directive from its `%` to the end of its line. -/
def scan (c : Cursor) : Except Fault (Directive × Cursor) := do
  let name := c.next.run isNameChar
  let c := c.next.advance name.length
  if name = [] ∨ !isHardStop c.peek? then throw .malformed
  let (d, c) ←
    if name = "YAML".toList then readVersion c
    else if name = "TAG".toList then readHandle c
    else pure (.other, c.skipLine)
  let c := c.skipSpaces.skipComment
  if isLineEnd c.peek? then pure (d, c.next) else throw .malformed

end Directive

end CrateDocs.Yaml
