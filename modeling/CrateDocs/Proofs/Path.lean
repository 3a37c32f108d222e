import CrateDocs.Link.Page
import Mathlib.Data.List.TakeWhile
import Mathlib.Tactic.Common

namespace CrateDocs

/-!
# Paths, files and fragments

What the functions that take an address apart give back is put together again by plain
concatenation. Each of them is characterised by that.

* `Text.splitOn_eq_iff` — a text is split into pieces without the separator, which join to it;
* `Url.steps?_eq_some_iff` — the steps of a path are those that `Page.pathOf` makes it of;
* `Url.splitFragment?_eq_some_iff` — the fragment starts at the first `#`;
* `Page.itemFile?_eq_some_iff` — the name of an item's file is its kind, its name and `html`;
* `Page.splitIndex_concat` and `Page.splitIndex_of_ne` — an index at the end of a path is spelled
  in one of the ways of `IndexSpelling`.
-/

namespace Text

/-! ### Splitting a text -/

/-- No piece of a split contains the separator. -/
theorem notMem_of_mem_splitOn {c : Char} {t piece : Text} (h : piece ∈ t.splitOn c) :
    c ∉ piece := by
  induction t generalizing piece with
  | nil =>
    rw [List.splitOn_nil, List.mem_singleton] at h
    simp [h]
  | cons a t ih =>
    rw [List.splitOn_cons_eq_if_modifyHead] at h
    obtain ⟨first, rest, hsplit⟩ := List.exists_cons_of_ne_nil (List.splitOn_ne_nil c t)
    rw [hsplit] at h ih
    split at h
    -- A separator starts a piece of its own; any other character goes to the first one.
    case isTrue _ =>
      rcases List.mem_cons.1 h with rfl | hmem
      · simp
      · exact ih hmem
    case isFalse ha =>
      rcases List.mem_cons.1 h with rfl | hmem
      · have hne : c ≠ a := fun hca => ha (by simp [hca])
        simpa [hne] using ih List.mem_cons_self
      · exact ih (List.mem_cons_of_mem _ hmem)

/-- A text is split into the pieces that do not contain the separator and that it joins. -/
theorem splitOn_eq_iff {c : Char} {t : Text} {pieces : List Text} :
    t.splitOn c = pieces ↔
      pieces ≠ [] ∧ (∀ piece ∈ pieces, c ∉ piece) ∧ t = [c].intercalate pieces := by
  constructor
  · rintro rfl
    have hjoin : [c].intercalate (t.splitOn c) = t := List.intercalate_splitOn c
    exact ⟨List.splitOn_ne_nil c t, fun _ => notMem_of_mem_splitOn, hjoin.symm⟩
  · rintro ⟨hne, hpieces, rfl⟩
    exact List.splitOn_intercalate c hpieces hne

/-! ### Cutting a text at a character -/

section Cut

variable {c : Char} {t rest : Text}

theorem forall_ne_of_notMem (h : c ∉ t) : ∀ a ∈ t, decide (a ≠ c) = true := fun a ha => by
  simpa using ne_of_mem_of_not_mem ha h

theorem takeWhile_ne_append_cons (h : c ∉ t) : (t ++ c :: rest).takeWhile (· ≠ c) = t := by
  rw [List.takeWhile_append_of_pos (forall_ne_of_notMem h), List.takeWhile_cons_of_neg (by simp),
    List.append_nil]

theorem dropWhile_ne_append_cons (h : c ∉ t) :
    (t ++ c :: rest).dropWhile (· ≠ c) = c :: rest := by
  rw [List.dropWhile_append_of_pos (forall_ne_of_notMem h), List.dropWhile_cons_of_neg (by simp)]

theorem dropWhile_ne_of_notMem (h : c ∉ t) : t.dropWhile (· ≠ c) = [] :=
  List.dropWhile_eq_nil_iff.2 (forall_ne_of_notMem h)

end Cut

end Text

/-! ### Steps -/

namespace Page

@[simp] theorem pathOf_nil : pathOf [] = [] := rfl

@[simp] theorem pathOf_cons (name : Text) (names : List Text) :
    pathOf (name :: names) = '/' :: name ++ pathOf names := rfl

@[simp] theorem pathOf_append (names others : List Text) :
    pathOf (names ++ others) = pathOf names ++ pathOf others := by
  simp [pathOf]

theorem pathOf_eq_cons_intercalate {names : List Text} (h : names ≠ []) :
    pathOf names = '/' :: ['/'].intercalate names := by
  induction names with
  | nil => exact absurd rfl h
  | cons name names ih =>
    cases names with
    | nil => simp
    | cons next names => rw [pathOf_cons, ih (by simp)]; simp

theorem mem_pathOf {c : Char} {names : List Text} (hc : c ≠ '/') :
    c ∈ pathOf names ↔ ∃ name ∈ names, c ∈ name := by
  simp [pathOf, hc]

end Page

namespace Url

open Page

/-- The steps of a path are without `/`, and the path is made of them. -/
theorem steps?_eq_some_iff {path : Text} {steps : List Text} :
    steps? path = some steps ↔
      steps ≠ [] ∧ (∀ step ∈ steps, '/' ∉ step) ∧ path = pathOf steps := by
  constructor
  · intro h
    unfold steps? at h
    split at h
    · obtain ⟨hne, hsteps, hrest⟩ := Text.splitOn_eq_iff.1 (Option.some.inj h)
      exact ⟨hne, hsteps, by rw [pathOf_eq_cons_intercalate hne, hrest]⟩
    · cases h
  · rintro ⟨hne, hsteps, rfl⟩
    rw [pathOf_eq_cons_intercalate hne, steps?, List.splitOn_intercalate _ hsteps hne]

/-! ### Fragments -/

/-- A fragment as it stands in an address. -/
def fragmentText : Option Text → Text
  | none => []
  | some fragment => '#' :: fragment

/-- Whether a text can be a fragment: it is a line, and not empty. -/
def IsFragment (t : Text) : Prop := t ≠ [] ∧ '\n' ∉ t
  deriving Decidable

/-- The fragment is what follows the first `#`. -/
theorem splitFragment?_eq_some_iff {t path : Text} {fragment : Option Text} :
    splitFragment? t = some (path, fragment) ↔
      t = path ++ fragmentText fragment ∧ '#' ∉ path ∧ ∀ f ∈ fragment, IsFragment f := by
  constructor
  · intro h
    by_cases hmark : '#' ∈ t
    · obtain ⟨before, rest, rfl, hbefore⟩ := List.eq_append_cons_of_mem hmark
      simp only [splitFragment?, Text.dropWhile_ne_append_cons hbefore,
        Text.takeWhile_ne_append_cons hbefore] at h
      split at h
      case isTrue => cases h
      case isFalse hrest =>
        obtain ⟨rfl, rfl⟩ := Prod.mk.inj (Option.some.inj h)
        exact ⟨rfl, hbefore, fun f hf => Option.some.inj hf ▸ not_or.1 hrest⟩
    · simp only [splitFragment?, Text.dropWhile_ne_of_notMem hmark] at h
      obtain ⟨rfl, rfl⟩ := Prod.mk.inj (Option.some.inj h)
      exact ⟨by simp [fragmentText], hmark, by simp⟩
  · rintro ⟨rfl, hpath, hfragment⟩
    cases fragment with
    | none =>
      simp only [splitFragment?, fragmentText, List.append_nil, Text.dropWhile_ne_of_notMem hpath]
    | some f =>
      simp only [splitFragment?, fragmentText, Text.dropWhile_ne_append_cons hpath,
        Text.takeWhile_ne_append_cons hpath]
      exact if_neg (not_or.2 (hfragment f rfl))

end Url

/-! ### Files -/

/-- The ways in which an address spells out that it is an index. -/
inductive IndexSpelling
  /-- a `/` at the end -/
  | slash
  /-- the file of the index -/
  | file
  deriving DecidableEq, Repr

/-- The last step of an address that is an index. -/
def IndexSpelling.step : IndexSpelling → Text
  | slash => []
  | file => Page.indexFile

/-- The end of an address that is an index. -/
def IndexSpelling.raw (s : IndexSpelling) : Text := '/' :: s.step

namespace Page

/-- What the name of an item's file ends in. -/
def fileEnd : Text := ".html".toList

/-- The name of an item's file is its kind, its name and `html`, and has no other dots. -/
theorem itemFile?_eq_some_iff {file kind name : Text} :
    itemFile? file = some (kind, name) ↔
      '.' ∉ kind ∧ '.' ∉ name ∧ file = kind ++ '.' :: name ++ fileEnd := by
  have hjoin : ['.'].intercalate [kind, name, "html".toList] = kind ++ '.' :: name ++ fileEnd := by
    simp [fileEnd]
  constructor
  · intro h
    unfold itemFile? at h
    split at h
    case h_1 hpieces =>
      split at h
      case isFalse => cases h
      case isTrue hend =>
        subst hend
        obtain ⟨rfl, rfl⟩ := Prod.mk.inj (Option.some.inj h)
        obtain ⟨-, hdots, hfile⟩ := Text.splitOn_eq_iff.1 hpieces
        exact ⟨hdots _ (by simp), hdots _ (by simp), hfile.trans hjoin⟩
    case h_2 => cases h
  · rintro ⟨hkind, hname, rfl⟩
    have hpieces : (kind ++ '.' :: name ++ fileEnd).splitOn '.' = [kind, name, "html".toList] :=
      Text.splitOn_eq_iff.2 ⟨by simp, by simp [hkind, hname], hjoin.symm⟩
    rw [itemFile?, hpieces]
    exact if_pos rfl

/-- An index at the end is found, however it is spelled. -/
theorem splitIndex_concat (steps : List Text) (s : IndexSpelling) :
    splitIndex (steps ++ [s.step]) = (steps, some s.raw) := by
  unfold splitIndex
  rw [List.getLast?_concat, List.dropLast_concat]
  cases s with
  | slash => rfl
  | file =>
    split
    case h_1 hlast => exact absurd (Option.some.inj hlast) (by decide)
    case h_2 hlast =>
      rw [← Option.some.inj hlast]
      exact if_pos rfl
    case h_3 hlast => cases hlast

/-- No index is found where the last step is none. -/
theorem splitIndex_of_ne {steps : List Text}
    (h : ∀ last ∈ steps.getLast?, ∀ s : IndexSpelling, last ≠ s.step) :
    splitIndex steps = (steps, none) := by
  unfold splitIndex
  split
  case h_1 hlast => exact absurd rfl (h _ hlast .slash)
  case h_2 last _ hlast => exact if_neg (h _ hlast .file)
  case h_3 => rfl

/-- Steps are an index in one of the spellings, or none. -/
theorem splitIndex_cases (steps : List Text) :
    (∃ before, ∃ s : IndexSpelling, steps = before ++ [s.step]) ∨
      splitIndex steps = (steps, none) := by
  by_cases h : ∀ last ∈ steps.getLast?, ∀ s : IndexSpelling, last ≠ s.step
  · exact .inr (splitIndex_of_ne h)
  · push Not at h
    obtain ⟨last, hlast, s, rfl⟩ := h
    obtain ⟨before, rfl⟩ := List.getLast?_eq_some_iff.1 hlast
    exact .inl ⟨before, s, rfl⟩

end Page

end CrateDocs
