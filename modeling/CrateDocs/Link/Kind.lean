import CrateDocs.Text.Basic

namespace CrateDocs

/-!
# Kinds of items and members

The documentation gives an item a page of its own, named after the item's kind, and a member of
an item an anchor on that page, named after the member's kind.

* `ItemKind.word` and `MemberKind.word` are the kinds as they are spelled in an address, and
  `ItemKind.ofWord?` and `MemberKind.ofWord?` read them back;
* `ItemKind.allows` says which members an item of a kind can have.
-/

/-- The kinds of items that have a page. -/
inductive ItemKind
  | enum
  | fn
  | struct
  | trait
  deriving DecidableEq, Repr

/-- The kinds of members that have an anchor. -/
inductive MemberKind
  | method
  | tymethod
  | variant
  deriving DecidableEq, Repr

namespace ItemKind

/-- All kinds of items. -/
def all : List ItemKind := [enum, fn, struct, trait]

/-- The kind as it is spelled in the name of a page. -/
def word : ItemKind → Text
  | enum => "enum".toList
  | fn => "fn".toList
  | struct => "struct".toList
  | trait => "trait".toList

/-- The kind that a word spells. -/
def ofWord? (w : Text) : Option ItemKind := all.find? (·.word == w)

/-- Enumerations have methods and variants, structures methods, traits required methods, and
functions no members. -/
def allows : ItemKind → MemberKind → Bool
  | enum, .method => true
  | enum, .variant => true
  | struct, .method => true
  | trait, .tymethod => true
  | _, _ => false

theorem ofWord?_word (k : ItemKind) : ofWord? k.word = some k := by
  cases k <;> decide

theorem word_of_ofWord? {w : Text} {k : ItemKind} (h : ofWord? w = some k) : k.word = w := by
  simpa using List.find?_some h

end ItemKind

namespace MemberKind

/-- All kinds of members. -/
def all : List MemberKind := [method, tymethod, variant]

/-- The kind as it is spelled in an anchor. -/
def word : MemberKind → Text
  | method => "method".toList
  | tymethod => "tymethod".toList
  | variant => "variant".toList

/-- The kind that a word spells. -/
def ofWord? (w : Text) : Option MemberKind := all.find? (·.word == w)

theorem ofWord?_word (k : MemberKind) : ofWord? k.word = some k := by
  cases k <;> decide

theorem word_of_ofWord? {w : Text} {k : MemberKind} (h : ofWord? w = some k) : k.word = w := by
  simpa using List.find?_some h

end MemberKind

end CrateDocs
