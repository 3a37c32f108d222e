namespace CrateDocs

/-!
# Texts

A text is the list of its characters, so that its laws are laws of lists. Strings appear where a
text meets the outside: in constants, in messages, on a command line.

* `Text.after?` takes a known beginning off a text;
* `Text.oneLine?` reads a text that has no line feed but perhaps one at its end;
* `Text.asString` gives a text as a string.
-/

/-- A text is the list of its characters. -/
abbrev Text := List Char

namespace Text

/-- A text as a string. -/
def asString (t : Text) : String := String.ofList t

/-- What follows `start` in a text that starts with it. -/
def after? : Text → Text → Option Text
  | [], t => some t
  | _ :: _, [] => none
  | a :: start, c :: t => if a = c then after? start t else none

theorem after?_eq_some_iff {start t rest : Text} :
    after? start t = some rest ↔ t = start ++ rest := by
  induction start generalizing t with
  | nil => simp [after?, eq_comm]
  | cons a start ih =>
    cases t with
    | nil => simp [after?]
    | cons c t =>
      by_cases h : a = c
      · simp [after?, h, ih]
      · simp [after?, h, Ne.symm h]

/-- The text of a single line: `t` less a line feed at its end, or nothing when a line feed stands
anywhere else. -/
def oneLine? : Text → Option Text
  | [] => some []
  | c :: rest =>
    if c = '\n' then (if rest = [] then some [] else none)
    else (oneLine? rest).map (c :: ·)

@[simp] theorem oneLine?_nil : oneLine? [] = some [] := rfl

/-- A text without a line feed is a line as it stands. -/
theorem oneLine?_of_notMem {t : Text} (h : '\n' ∉ t) : oneLine? t = some t := by
  induction t with
  | nil => rfl
  | cons c rest ih =>
    simp only [List.mem_cons, not_or] at h
    simp [oneLine?, Ne.symm h.1, ih h.2]

end Text

end CrateDocs
