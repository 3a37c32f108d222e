import CrateDocs.Yaml.Cursor
import CrateDocs.Yaml.Digit
import CrateDocs.Yaml.Fault

namespace CrateDocs.Yaml

/-!
# Quoted scalars

A quoted scalar stands between single or double quotes and may reach over several lines. In
single quotes, only a quote is special, and is written twice. In double quotes, a backslash
starts an escape.

* `Quoted.escapes` are the escapes of one character;
* `Quoted.scan` reads a scalar from its first quote to its last.

An escape can stand for half of a surrogate pair, so what is read is a spelling.
-/

namespace Quoted

/-- What a single character after a backslash stands for. -/
def escapes : List (Char × Char) :=
  [('0', '\x00'), ('a', '\x07'), ('b', '\x08'), ('t', '\t'), ('\t', '\t'), ('n', '\n'),
    ('v', '\x0b'), ('f', '\x0c'), ('r', '\r'), ('e', '\x1b'), (' ', ' '), ('\x22', '\x22'),
    ('\x5c', '\x5c'), ('/', '/'), ('N', '\x85'), ('_', '\xa0'), ('L', '\u2028'), ('P', '\u2029')]

/-- How many hexadecimal digits follow a letter after a backslash. -/
def codeWidth? : Char → Option Nat
  | 'x' => some 2
  | 'u' => some 4
  | 'U' => some 8
  | _ => none

/-- The code point of a number. -/
def codePoint (n : Nat) : Except Fault CodePoint :=
  if 0x7fffffff < n then .error (.impossible .wideCodePoint)
  else if 0x10ffff < n then .error (.impossible .codePoint)
  else .ok (.ofNat n)

/-- The line breaks ahead with the white space around them. A divider must not be among them. -/
def breaks : Nat → Cursor → Except Fault (Text × Cursor)
  | 0, c => .ok ([], c)
  | fuel + 1, c =>
    if c.atDivider then .error .malformed
    else
      let c := c.skipWhile isGap
      match c.lineBreak? with
      | none => .ok ([], c)
      | some (ch, c) => do
        let (chs, c) ← breaks fuel c
        .ok (ch :: chs, c)

/-- The text that white space ahead stands for. Space at the end of a line does not count. -/
def gap (c : Cursor) : Except Fault (Text × Cursor) := do
  let spaces := c.run isGap
  let c := c.skipWhile isGap
  match c.lineBreak? with
  | none => .ok (spaces, c)
  | some (first, c) =>
    let (others, c) ← breaks (c.rest.length + 1) c
    .ok (Cursor.folded first others, c)

/-- What an escape stands for, from the backslash on. -/
def escape (c : Cursor) : Except Fault (Spelling × Cursor) := do
  let c := c.next
  match c.peek? with
  | none => .error .malformed
  | some ch =>
    match escapes.lookup ch, codeWidth? ch, c.lineBreak? with
    | some plain, _, _ => .ok ([.char plain], c.next)
    | none, some width, _ =>
      let digits := c.next.rest.take width
      match number? 16 digits with
      | none => .error .malformed
      | some n =>
        if digits.length < width then .error .malformed
        else .ok ([← codePoint n], c.advance (width + 1))
    | none, none, some (_, c) =>
      let (more, c) ← breaks (c.rest.length + 1) c
      .ok (Text.spelling more, c)
    | none, none, none => .error .malformed

/-- Reads on. What was read before comes with its last code point first. -/
def scanFrom (quote : Char) : Nat → Spelling → Cursor → Except Fault (Spelling × Cursor)
  | 0, _, _ => .error .malformed
  | fuel + 1, before, c =>
    match c.peek? with
    | none => .error .malformed
    | some ch =>
      if ch = quote then
        if ch = '\x27' ∧ c.peekAt? 1 = some ch then
          scanFrom quote fuel (.char ch :: before) (c.advance 2)
        else .ok (before.reverse, c.next)
      else if isStop (some ch) then do
        let (more, c) ← gap c
        scanFrom quote fuel ((Text.spelling more).reverse ++ before) c
      else if quote = '\x22' ∧ ch = '\x5c' then do
        let (more, c) ← escape c
        scanFrom quote fuel (more.reverse ++ before) c
      else scanFrom quote fuel (.char ch :: before) c.next

/-- Reads a quoted scalar from its first quote on. -/
def scan (quote : Char) (c : Cursor) : Except Fault (Spelling × Cursor) :=
  scanFrom quote (c.rest.length + 1) [] c.next

end Quoted

end CrateDocs.Yaml
