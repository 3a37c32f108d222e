import CrateDocs.Text.Printable
import CrateDocs.Text.Spelling

namespace CrateDocs

/-!
# Quoted texts

Messages show a text between quotes, with an escape for each character that would not show.

* `Text.quoteMark` chooses the quote: a single one, unless the text holds single quotes and no
  double ones;
* `Text.escaped` writes one character: the backslash, the quote, and each unprintable character
  as an escape, every other one as itself;
* `Text.quoted` writes a whole text, and `Spelling.quoted` a spelling;
* `Spelling.exposed` writes a spelling without quotes, and only its halves as escapes.
-/

namespace Text

/-- The single quote. -/
def singleQuote : Char := '\x27'

/-- The double quote. -/
def doubleQuote : Char := '\x22'

/-- The backslash. -/
def backslash : Char := '\x5c'

/-- The quote put around `t`. -/
def quoteMark (t : Text) : Char :=
  if singleQuote ∈ t ∧ doubleQuote ∉ t then doubleQuote else singleQuote

/-- The hexadecimal digit of value `n`, in lower case. -/
def hexDigit (n : Nat) : Char := Nat.digitChar n

/-- The last `width` hexadecimal digits of `n`. -/
def hexDigits : Nat → Nat → Text
  | 0, _ => []
  | width + 1, n => hexDigits width (n / 16) ++ [hexDigit (n % 16)]

/-- `c` by its code point, in the shortest of the escapes of two, four and eight digits. -/
def codeEscape (c : Char) : Text :=
  if c.toNat < 0x100 then backslash :: 'x' :: hexDigits 2 c.toNat
  else if c.toNat < 0x10000 then backslash :: 'u' :: hexDigits 4 c.toNat
  else backslash :: 'U' :: hexDigits 8 c.toNat

/-- How `c` is written between two `mark`s. -/
def escaped (mark c : Char) : Text :=
  if c = mark ∨ c = backslash then [backslash, c]
  else if c = '\n' then [backslash, 'n']
  else if c = '\r' then [backslash, 'r']
  else if c = '\t' then [backslash, 't']
  else if isPrintable c then [c]
  else codeEscape c

/-- `t` between quotes. -/
def quoted (t : Text) : Text :=
  quoteMark t :: t.flatMap (escaped (quoteMark t)) ++ [quoteMark t]

end Text

/-- A half by its code point. -/
def Half.escape (h : Half) : Text := Text.backslash :: 'u' :: Text.hexDigits 4 h.code

/-- How a code point is written between two `mark`s. -/
def CodePoint.escaped (mark : Char) : CodePoint → Text
  | char c => Text.escaped mark c
  | half h => h.escape

/-- A code point with an escape only if it is a half. -/
def CodePoint.exposed : CodePoint → Text
  | char c => [c]
  | half h => h.escape

namespace Spelling

/-- `s` between quotes. -/
def quoted (s : Spelling) : Text :=
  let mark := Text.quoteMark s.shown
  mark :: s.flatMap (CodePoint.escaped mark) ++ [mark]

/-- `s` with its halves as escapes. -/
def exposed (s : Spelling) : Text := s.flatMap CodePoint.exposed

/-- A text is quoted as its spelling is. -/
@[simp] theorem quoted_spelling (t : Text) : quoted (Text.spelling t) = Text.quoted t := by
  simp only [quoted, shown_spelling, Text.quoted]
  simp only [Text.spelling, List.flatMap_map, CodePoint.escaped]

end Spelling

end CrateDocs
