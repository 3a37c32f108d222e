import CrateDocs.Text.Basic
import CrateDocs.Text.Ranges

namespace CrateDocs

/-!
# White space

The white-space characters of Unicode, together with the four information separators U+001C to
U+001F.

* `Text.isBlank` tells a white-space character;
* `Text.trimStart`, `Text.trimEnd` and `Text.trim` take white space off the ends of a text;
* `Text.isAllBlank` tells a text of nothing but white space.
-/

namespace Text

/-- The code points of the white-space characters. -/
def blanks : Ranges :=
  [(0x9, 0xd), (0x1c, 0x20), (0x85, 0x85), (0xa0, 0xa0), (0x1680, 0x1680), (0x2000, 0x200a),
    (0x2028, 0x2029), (0x202f, 0x202f), (0x205f, 0x205f), (0x3000, 0x3000)]

/-- Whether `c` is white space. -/
def isBlank (c : Char) : Bool := blanks.contains c

/-- Whether `t` holds nothing but white space. -/
def isAllBlank (t : Text) : Bool := t.all isBlank

/-- `t` without the white space it starts with. -/
def trimStart (t : Text) : Text := t.dropWhile isBlank

/-- `t` without the white space it ends with. -/
def trimEnd (t : Text) : Text := (t.reverse.dropWhile isBlank).reverse

/-- `t` without the white space at its two ends. -/
def trim (t : Text) : Text := trimEnd (trimStart t)

end Text

end CrateDocs
