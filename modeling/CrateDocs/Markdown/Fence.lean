import CrateDocs.Text.Blank

namespace CrateDocs

/-!
# Fenced code blocks

A line of at least three backticks opens a code block or closes it. What stands in a block is
code, and so are its fences.

* `Fence.isFence` tells a fence;
* `Fence.opensAfter` says whether a block is open after a line;
* `Fence.isVerbatim` says whether a line is code.
-/

namespace Fence

/-- What every fence starts with. -/
def backticks : Text := "```".toList

/-- Whether `line` is a fence: backticks after white space, and anything after them. The lengths
of two fences are not compared. -/
def isFence (line : Text) : Bool := backticks.isPrefixOf (Text.trimStart line)

/-- Whether a block is open after `line`. -/
def opensAfter (isOpen : Bool) (line : Text) : Bool := if isFence line then !isOpen else isOpen

/-- Whether `line` is code: a fence, or any line while a block is open. -/
def isVerbatim (isOpen : Bool) (line : Text) : Bool := isFence line || isOpen

end Fence

end CrateDocs
