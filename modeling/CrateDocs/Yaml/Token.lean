import CrateDocs.Text.Spelling

namespace CrateDocs.Yaml

/-!
# Tokens

The tokens of a document say where its blocks and collections start and end, and hold its
scalars.

* `Directive` is what a line before a document says about it;
* `Style` is how a scalar is written;
* `Token` is one token.
-/

/-- What a line before a document says about it. -/
inductive Directive
  /-- the version of the format -/
  | version (major : Nat)
  /-- what a handle in a tag stands for -/
  | handle (name meaning : Text)
  /-- anything else -/
  | other
  deriving DecidableEq, Repr

/-- How a scalar is written. -/
inductive Style
  | plain
  /-- between quotes, or as a block -/
  | marked
  deriving DecidableEq, Repr

/-- A token of a document. -/
inductive Token
  | directive (d : Directive)
  | documentStart
  | documentEnd
  | streamEnd
  | blockSequenceStart
  | blockMappingStart
  | blockEnd
  | flowSequenceStart
  | flowSequenceEnd
  | flowMappingStart
  | flowMappingEnd
  | blockEntry
  | flowEntry
  | key
  | value
  | anchor (name : Text)
  | alias (name : Text)
  | tag (handle : Option Text) (suffix : Text)
  | scalar (content : Spelling) (style : Style)
  deriving DecidableEq, Repr

end CrateDocs.Yaml
