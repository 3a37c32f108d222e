import CrateDocs.Data.Base64
import CrateDocs.Yaml.Looks
import CrateDocs.Yaml.Numeral

namespace CrateDocs.Yaml

/-!
# What nodes mean

The tag of a node says what it means. Without one, a plain scalar means what it looks like, any
other scalar is text, and a collection is a list or a mapping.

* `Meaning` is what a node can be;
* `Meaning.ofTag` tells it from a tag, and `Meaning.ofLooks` from the text of a scalar;
* `Meaning.read` gives the value of a scalar.
-/

/-- What a node can be. -/
inductive Meaning
  | null
  | truth
  | int
  | real
  | timestamp
  | bytes
  | text
  | list
  | mapping
  | set
  /-- a list of pairs -/
  | pairs
  /-- a key whose value is merged into the mapping -/
  | merge
  /-- the mark of a default value -/
  | default
  /-- anything else, which has no value -/
  | unknown
  deriving DecidableEq, Repr

namespace Meaning

/-- What the tags of the format start with. -/
def tagBase : Text := "tag:yaml.org,2002:".toList

/-- The names that tags of the format end with. -/
def tagNames : List (String × Meaning) :=
  [("null", null), ("bool", truth), ("int", int), ("float", real), ("timestamp", timestamp),
    ("binary", bytes), ("str", text), ("seq", list), ("map", mapping), ("set", set),
    ("omap", pairs), ("pairs", pairs), ("merge", merge), ("value", default)]

/-- What a tag says. -/
def ofTag (tag : Text) : Meaning :=
  ((Text.after? tagBase tag).bind fun name => tagNames.lookup name.asString).getD unknown

/-- The marks of the format that are no text of their own. -/
def marks : List String := ["!", "&", "*"]

/-- What a line of text looks like. -/
def ofLine (t : Text) : Meaning :=
  if Looks.isNull t then null
  else if Looks.isTruth t then truth
  else if Looks.isReal t then real
  else if Looks.isInt t then int
  else if Looks.isTimestamp t then timestamp
  else if t = ['<', '<'] then merge
  else if t = ['='] then default
  else if t.asString ∈ marks then unknown
  else text

/-- What a scalar looks like. A line feed at its end does not count, unless there is nothing
before it. -/
def ofLooks (s : Spelling) : Meaning :=
  if s = [.char '\n'] then text else ((s.text?.bind Text.oneLine?).map ofLine).getD text

/-- The words for true and false, in lower case. -/
def truthWords : List (String × Bool) :=
  [("yes", true), ("no", false), ("true", true), ("false", false), ("on", true), ("off", false)]

/-- Reads a truth value in letters of either case. -/
def readTruth (s : Spelling) : Except Fault Value :=
  let word := s.toLower
  match truthWords.lookup word.shown.asString with
  | some b => .ok (.truth b)
  | none => .error (.impossible (.noTruth word))

/-- Reads a timestamp. -/
def readTimestamp (s : Spelling) : Except Fault Value :=
  match (s.text?.bind Text.oneLine?).bind Timestamp.ofText? with
  | some stamp => stamp.flaw?.elim (.ok .date) fun what => .error (.impossible what)
  | none => .error (.impossible .noTimestamp)

/-- Reads bytes, which are written in characters of ASCII. -/
def readBytes (s : Spelling) : Except Fault Value :=
  if s.all fun p => p.is fun c => c.toNat < 0x80 then
    (Base64.decode s.shown).elim (.error .malformed) (.ok ∘ .bytes)
  else .error .malformed

/-- Takes a value that there is not for a fault of the document. -/
def orImpossible {α : Type} : Except Impossible α → Except Fault α
  | .ok a => .ok a
  | .error what => .error (.impossible what)

/-- The value of a scalar. -/
def read (m : Meaning) (s : Spelling) : Except Fault Value :=
  match m with
  | null => .ok .null
  | truth => readTruth s
  | int => (orImpossible (Numeral.int s)).map .int
  | real => orImpossible (Numeral.real s)
  | timestamp => readTimestamp s
  | bytes => readBytes s
  | text => .ok (.ofSpelling s)
  | list | mapping | set | pairs | merge | default | unknown => .error .malformed

end Meaning

end CrateDocs.Yaml
