import CrateDocs.Text.Basic

namespace CrateDocs

/-!
# Spellings

An escape names a code point by its number, and that may be half of a surrogate pair, which is no
character. What is written with escapes is therefore a list of code points, and it is a text only
if all of them are characters.

* `CodePoint` is a character or half of a surrogate pair;
* `Spelling` is a list of code points;
* `Text.spelling` takes a text for a spelling, and `Spelling.text?` goes back;
* `Spelling.shown` is a text in which each half is replaced.
-/

/-- Half of a surrogate pair, by its place among all halves. -/
abbrev Half := Fin 0x800

/-- The number of the first half. -/
def Half.first : Nat := 0xd800

/-- The number of a half among all code points. -/
def Half.code (h : Half) : Nat := Half.first + h.val

/-- A character or half of a surrogate pair. -/
inductive CodePoint
  | char (c : Char)
  | half (h : Half)
  deriving DecidableEq, Repr

namespace CodePoint

/-- The code point of a number. -/
def ofNat (n : Nat) : CodePoint :=
  if h : Half.first ≤ n ∧ n - Half.first < 0x800 then half ⟨n - Half.first, h.2⟩
  else char (Char.ofNat n)

/-- The character of a code point, with the replacement character for a half. -/
def shown : CodePoint → Char
  | char c => c
  | half _ => '\ufffd'

/-- Whether a code point is a character that satisfies `p`. -/
def is (p : Char → Bool) : CodePoint → Bool
  | char c => p c
  | half _ => false

end CodePoint

/-- A list of code points. -/
abbrev Spelling := List CodePoint

/-- A text as a spelling. -/
def Text.spelling (t : Text) : Spelling := t.map .char

namespace Spelling

/-- The text that a spelling is, if there are no halves in it. -/
def text? : Spelling → Option Text
  | [] => some []
  | .char c :: rest => (text? rest).map (c :: ·)
  | .half _ :: _ => none

/-- The spelling with the replacement character for each half. -/
def shown (s : Spelling) : Text := s.map CodePoint.shown

@[simp] theorem text?_spelling (t : Text) : text? (Text.spelling t) = some t := by
  induction t with
  | nil => rfl
  | cons c t ih =>
    rw [Text.spelling, List.map_cons, text?, ← Text.spelling, ih]
    rfl

@[simp] theorem shown_spelling (t : Text) : shown (Text.spelling t) = t := by
  induction t with
  | nil => rfl
  | cons c t ih =>
    rw [Text.spelling, shown, List.map_cons, List.map_cons, ← Text.spelling, ← shown, ih]
    rfl

/-- A spelling is the text that it spells. -/
theorem eq_spelling_of_text? {s : Spelling} {t : Text} (h : text? s = some t) :
    s = Text.spelling t := by
  induction s generalizing t with
  | nil =>
    cases h
    rfl
  | cons p s ih =>
    cases p with
    | char c =>
      obtain ⟨u, hu, rfl⟩ := Option.map_eq_some_iff.1 h
      rw [ih hu]
      rfl
    | half x => cases h

end Spelling

end CrateDocs
