import CrateDocs.Command.Run
import Mathlib.Tactic.Common

namespace CrateDocs

/-!
# What is printed

What is printed has no sequences that control a terminal. A half of a surrogate pair is no part of
one, so a text can be printed, and nothing else can.

* `Style.half_mem_strip_iff` — halves stay where sequences are left out;
* `Style.plain` is a text without sequences, and `Style.plain_eq_self` says that a text without an
  escape is the same;
* `Outcome.printing_spelling` and `Outcome.printing_of_text?_eq_none` — what becomes of printing.
-/

theorem Spelling.text?_eq_none_iff {s : Spelling} : s.text? = none ↔ ∃ x, .half x ∈ s := by
  induction s with
  | nil => simp [text?]
  | cons p s ih =>
    cases p with
    | char c => simp [text?, ih]
    | half x => simp [text?]

theorem Text.half_notMem_spelling {t : Text} {x : Half} : .half x ∉ Text.spelling t := by
  simp [spelling]

namespace Style

variable {s : Spelling} {t : Text} {x : Half}

/-- A list and its pieces have the same elements, but for the one at which it is split. -/
theorem mem_iff_exists_mem_splitOn {α : Type} [DecidableEq α] {a b : α} (hb : b ≠ a) {l : List α} :
    b ∈ l ↔ ∃ piece ∈ l.splitOn a, b ∈ piece := by
  induction l with
  | nil => simp
  | cons c l ih =>
    rw [List.splitOn_cons_eq_if_modifyHead, List.mem_cons, ih]
    obtain ⟨first, rest, hsplit⟩ := List.exists_cons_of_ne_nil (List.splitOn_ne_nil a l)
    rw [hsplit]
    by_cases hc : c = a
    · simp [hc, hb]
    · simp [hc, or_assoc]

theorem half_mem_dropWhile_iff {test : Char → Bool} :
    .half x ∈ s.dropWhile (·.is test) ↔ .half x ∈ s := by
  induction s with
  | nil => simp
  | cons p s ih =>
    rw [List.dropWhile_cons]
    split
    case isTrue hp =>
      have hne : .half x ≠ p := by
        rintro rfl
        cases hp
      rw [ih, List.mem_cons, or_iff_right hne]
    case isFalse hp => rfl

theorem half_mem_stripPiece_iff {piece : Spelling} :
    .half x ∈ stripPiece piece ↔ .half x ∈ piece := by
  unfold stripPiece
  split
  case h_1 rest =>
    -- What is dropped before the final character are parameters and marks, and no halves.
    have hrest : .half x ∈ (rest.dropWhile (·.is isParameter)).dropWhile (·.is isBetween) ↔
        .half x ∈ .char '[' :: rest := by
      simp [half_mem_dropWhile_iff]
    split
    case h_1 p after hafter =>
      rw [hafter] at hrest
      split
      case isTrue hp =>
        have hne : .half x ≠ p := by
          rintro rfl
          cases hp
        rw [← hrest, List.mem_cons, or_iff_right hne]
      case isFalse hp => simp
    case h_2 => simp
  case h_2 => simp

/-- Halves stay where the sequences that control a terminal are left out. -/
theorem half_mem_strip_iff : .half x ∈ strip s ↔ .half x ∈ s := by
  have hne : CodePoint.half x ≠ .char escape := by simp
  rw [mem_iff_exists_mem_splitOn hne (l := s), strip]
  split
  case h_1 hsplit => exact absurd hsplit (List.splitOn_ne_nil _ s)
  case h_2 first others hsplit =>
    rw [hsplit]
    simp [half_mem_stripPiece_iff]

/-- Without an escape there is nothing to be left out. -/
theorem strip_eq_self (h : .char escape ∉ s) : strip s = s := by
  rw [strip, List.splitOn_eq_singleton h]
  simp

/-! ### Texts -/

/-- A text without the sequences that control a terminal. -/
def plain (t : Text) : Text := (strip (Text.spelling t)).shown

theorem strip_spelling (t : Text) : strip (Text.spelling t) = Text.spelling (plain t) := by
  cases htext : (strip (Text.spelling t)).text? with
  | none =>
    obtain ⟨x, hx⟩ := Spelling.text?_eq_none_iff.1 htext
    exact absurd (half_mem_strip_iff.1 hx) Text.half_notMem_spelling
  | some u => rw [plain, Spelling.eq_spelling_of_text? htext, Spelling.shown_spelling]

/-- A text without an escape has no sequences. -/
theorem plain_eq_self (h : escape ∉ t) : plain t = t := by
  have hescape : .char escape ∉ Text.spelling t := by simpa [Text.spelling] using h
  rw [plain, strip_eq_self hescape, Spelling.shown_spelling]

end Style

namespace Outcome

/-- A text is printed without sequences. -/
theorem printing_spelling (t : Text) :
    printing (Text.spelling t) = { stdout := Style.plain t } := by
  rw [printing, Style.strip_spelling, Spelling.text?_spelling]

/-- What is no text cannot be printed. -/
theorem printing_of_text?_eq_none {s : Spelling} (h : s.text? = none) :
    printing s = .escaping .notEncodable := by
  obtain ⟨x, hx⟩ := Spelling.text?_eq_none_iff.1 h
  have hnone : (Style.strip s).text? = none :=
    Spelling.text?_eq_none_iff.2 ⟨x, Style.half_mem_strip_iff.2 hx⟩
  rw [printing, hnone]

end Outcome

end CrateDocs
