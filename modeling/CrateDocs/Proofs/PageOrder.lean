import CrateDocs.Proofs.Address
import Mathlib.Data.List.Nodup

namespace CrateDocs

/-!
# Registries of some of the pages

No two pages share an address. So it does not matter in which order a registry tries the pages, and
a page that it does not know is missed only in its own addresses.

* `Shape.Finds` says that a shape finds a target in an address;
* `Page.countP_captures?_le_one` — at most one of the pages has an address;
* `Registry.find_of_pages` — what a registry finds that knows some of the pages, in any order.
-/

open Url

/-- Whether the shape finds a target in the address `url` of the package. -/
def Shape.Finds (s : Shape) (package url : Text) : Prop :=
  ∃ remainder t, remainder? package url = some remainder ∧
    (s.parse package remainder).result = .ok (some t)

namespace Page

variable {s s' : Shape} {package url remainder : Text}

/-! ### The page of an address -/

/-- The pages have different names, and so are different. -/
theorem nodup_all : all.Nodup := by
  have hnames : (all.map Shape.name).Nodup := by decide
  exact List.Nodup.of_map Shape.name hnames

/-- Among shapes that differ, a test that no two of them pass is passed by at most one. -/
theorem countP_le_one {shapes : List Shape} {passes : Shape → Bool} (hnodup : shapes.Nodup)
    (hunique : ∀ s ∈ shapes, ∀ s' ∈ shapes, passes s → passes s' → s = s') :
    shapes.countP passes ≤ 1 := by
  induction shapes with
  | nil => simp
  | cons s rest ih =>
    obtain ⟨hs, hrest⟩ := List.nodup_cons.1 hnodup
    by_cases hpasses : passes s = true
    · -- No other shape passes, since it would be this one.
      have hnone : rest.countP passes = 0 := by
        rw [List.countP_eq_zero]
        intro s' hs' hpasses'
        obtain rfl := hunique s List.mem_cons_self s' (List.mem_cons_of_mem s hs') hpasses hpasses'
        exact hs hs'
      rw [List.countP_cons_of_pos hpasses, hnone]
    · rw [List.countP_cons_of_neg hpasses]
      exact ih hrest fun a ha b hb =>
        hunique a (List.mem_cons_of_mem s ha) b (List.mem_cons_of_mem s hb)

/-- At most one of the pages has an address. -/
theorem countP_captures?_le_one (remainder : Text) :
    all.countP (fun s => (s.captures? remainder).isSome) ≤ 1 := by
  refine countP_le_one nodup_all fun s hs s' hs' h h' => ?_
  obtain ⟨c, hc⟩ := Option.isSome_iff_exists.1 h
  obtain ⟨c', hc'⟩ := Option.isSome_iff_exists.1 h'
  exact captures?_unique hs hs' hc hc'

/-! ### What a registry of pages finds -/

theorem finds_iff (hs : s ∈ all) (hremainder : remainder? package url = some remainder) :
    s.Finds package url ↔ ∃ t, s.read? package remainder = some t := by
  simp only [Shape.Finds, result_parse hs, Except.ok.injEq, hremainder, Option.some.injEq,
    exists_and_left, exists_eq_left']

/-- An address that a page has, but in which it finds nothing, is none of another page either. -/
theorem result_parse_of_rejected (hs : s ∈ all) (h : (s.captures? remainder).isSome)
    (hnone : (s.parse package remainder).result = .ok none) (hs' : s' ∈ all) :
    (s'.parse package remainder).result = .ok none := by
  obtain ⟨c, hc⟩ := Option.isSome_iff_exists.1 h
  rw [result_parse hs', Except.ok.injEq]
  cases hread : s'.read? package remainder with
  | none => rfl
  | some t =>
    obtain ⟨c', hc', -⟩ := Option.bind_eq_some_iff.1 hread
    obtain rfl := captures?_unique hs hs' hc hc'
    rw [result_parse hs, hread] at hnone
    cases hnone

end Page

namespace Registry

/-- **The order of the pages does not matter.** At most one page has an address. A registry of some
pages, in any order and with repetitions, finds what that of all pages finds if it knows the page
that finds something, and else nothing. In particular, no other page finds something in an address
that a page has but rejects. -/
theorem find_of_pages :
    (∀ remainder : Text, Page.all.countP (fun s => (s.captures? remainder).isSome) ≤ 1) ∧
    (∀ shapes : List Shape, (∀ s ∈ shapes, s ∈ Page.all) → ∀ package url : Text,
      ((∃ s ∈ shapes, s.Finds package url) →
        (find ⟨shapes⟩ package url).result = (default.find package url).result) ∧
      ((∀ s ∈ shapes, ¬ s.Finds package url) →
        (find ⟨shapes⟩ package url).result = .ok none)) ∧
    ∀ s ∈ Page.all, ∀ package remainder : Text, (s.captures? remainder).isSome →
      (s.parse package remainder).result = .ok none →
        ∀ s' ∈ Page.all, (s'.parse package remainder).result = .ok none := by
  refine ⟨Page.countP_captures?_le_one, ?_, fun s hs package remainder h hnone s' hs' =>
    Page.result_parse_of_rejected hs h hnone hs'⟩
  intro shapes hshapes package url
  rw [result_find_of_pages hshapes, result_find_default]
  cases hremainder : remainder? package url with
  | none => exact ⟨fun _ => rfl, fun _ => rfl⟩
  | some remainder =>
    rw [Option.bind_some, Option.bind_some]
    constructor
    · rintro ⟨s, hs, hfinds⟩
      obtain ⟨t, hread⟩ := (Page.finds_iff (hshapes s hs) hremainder).1 hfinds
      have hsome : shapes.findSome? (·.read? package remainder) = some t :=
        (Page.findSome?_read?_eq_some_iff hshapes).2 ⟨s, hs, hread⟩
      have hall : Page.all.findSome? (·.read? package remainder) = some t :=
        (Page.findSome?_read?_eq_some_iff fun _ h => h).2 ⟨s, hshapes s hs, hread⟩
      rw [hsome, hall]
    · intro hno
      have hnone : shapes.findSome? (·.read? package remainder) = none := by
        rw [List.findSome?_eq_none_iff]
        intro s hs
        cases hread : s.read? package remainder with
        | none => rfl
        | some t =>
          exact absurd ((Page.finds_iff (hshapes s hs) hremainder).2 ⟨t, hread⟩) (hno s hs)
      rw [hnone]

end Registry

end CrateDocs
