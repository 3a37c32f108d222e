import CrateDocs.Text.Basic

namespace CrateDocs.Yaml

/-!
# Cursors

A document is read from its start to its end. A cursor is the place that has been reached, with
the text that is still ahead.

* `isBreak`, `isGap` and `isStop` tell the characters that end lines and words;
* `Cursor` is a place in a document, with its line and column;
* `Cursor.next`, `Cursor.advance`, `Cursor.skipWhile` and `Cursor.lineBreak?` move on.

A document has no carriage returns: they are read as line feeds.
-/

/-- Whether `c` ends a line. -/
def isBreak (c : Char) : Bool := c = '\n' || c = '\x85' || c = '\u2028' || c = '\u2029'

/-- Whether `c` is a space or a tab. -/
def isGap (c : Char) : Bool := c = ' ' || c = '\t'

/-- Whether a word ends before a character: at the end, at a line break, a space or a tab. -/
def isStop : Option Char → Bool
  | none => true
  | some c => isGap c || isBreak c

/-- Whether a word ends before a character, where a tab is part of a word. -/
def isHardStop : Option Char → Bool
  | none => true
  | some c => c = ' ' || isBreak c

/-- Whether a line ends before a character. -/
def isLineEnd : Option Char → Bool
  | none => true
  | some c => isBreak c

/-- The byte order mark, which takes up no column. -/
def byteOrderMark : Char := '\ufeff'

/-- A place in a document. -/
structure Cursor where
  /-- the text ahead -/
  rest : Text
  /-- how many characters are behind -/
  index : Nat := 0
  /-- how many lines are behind -/
  line : Nat := 0
  /-- how many characters of the line are behind -/
  column : Nat := 0
  deriving Inhabited, Repr

namespace Cursor

/-- The character ahead. -/
def peek? (c : Cursor) : Option Char := c.rest.head?

/-- The character `n` places further on. -/
def peekAt? (c : Cursor) (n : Nat) : Option Char := c.rest[n]?

/-- Moves over one character. -/
def next (c : Cursor) : Cursor :=
  match c.rest with
  | [] => c
  | ch :: rest =>
    if isBreak ch then ⟨rest, c.index + 1, c.line + 1, 0⟩
    else if ch = byteOrderMark then ⟨rest, c.index + 1, c.line, c.column⟩
    else ⟨rest, c.index + 1, c.line, c.column + 1⟩

/-- Moves over `n` characters. -/
def advance : Nat → Cursor → Cursor
  | 0, c => c
  | n + 1, c => advance n c.next

/-- The characters ahead that satisfy `p`. -/
def run (c : Cursor) (p : Char → Bool) : Text := c.rest.takeWhile p

/-- Moves over the characters ahead that satisfy `p`. -/
def skipWhile (c : Cursor) (p : Char → Bool) : Cursor := c.advance (c.run p).length

/-- Moves over spaces. -/
def skipSpaces (c : Cursor) : Cursor := c.skipWhile (· = ' ')

/-- Moves to the end of the line. -/
def skipLine (c : Cursor) : Cursor := c.skipWhile (!isBreak ·)

/-- Moves over a comment, if one is ahead. -/
def skipComment (c : Cursor) : Cursor := if c.peek? = some '#' then c.skipLine else c

/-- The line break ahead, as it counts within a text, and the place after it. -/
def lineBreak? (c : Cursor) : Option (Char × Cursor) :=
  match c.peek? with
  | none => none
  | some ch =>
    if ch = '\u2028' || ch = '\u2029' then some (ch, c.next)
    else if isBreak ch then some ('\n', c.next)
    else none

/-- Whether `mark` stands ahead as a word of its own. -/
def atMark (c : Cursor) (mark : String) : Bool :=
  mark.toList.isPrefixOf c.rest && isStop (c.peekAt? mark.length)

/-- Whether one of the lines that divide documents is ahead. -/
def atDivider (c : Cursor) : Bool := c.atMark "---" || c.atMark "..."

/-- The single spaces or line feeds that breaks within a text stand for: one break is a space,
and more of them are one less. -/
def folded (first : Char) (others : Text) : Text :=
  if first ≠ '\n' then first :: others
  else if others = [] then [' ']
  else others

end Cursor

end CrateDocs.Yaml
