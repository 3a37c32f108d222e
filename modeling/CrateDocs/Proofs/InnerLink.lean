import CrateDocs.Data.Sequence
import CrateDocs.Proofs.Address
import CrateDocs.Proofs.LinkDefinition
import Mathlib.Data.List.ReduceOption

namespace CrateDocs

/-!
# Links within the crate

A link within the crate is made of what stands in the address that it replaces, so it is a single
word where the address is one; and it is no address of a package's documentation.

* `Shape.Cuts` and `Registry.Cuts` — the pieces that a shape finds hold no characters but those of
  the remainder, and `Registry.cuts_default` says so of the pages;
* `Registry.isSolid_render` — without white space in the address there is none in the link;
* `Url.isOfPackage_render` — the link belongs to no package.
-/

/-! ### Texts without white space -/

namespace Text

theorem isSolid_iff_all {t : Text} : IsSolid t ↔ t.all (!isBlank ·) = true := by
  simp [IsSolid]

theorem isSolid_append {t u : Text} : IsSolid (t ++ u) ↔ IsSolid t ∧ IsSolid u :=
  List.forall_mem_append

theorem IsSolid.of_subset {t u : Text} (hu : IsSolid u) (h : t ⊆ u) : IsSolid t :=
  fun c hc => hu c (h hc)

/-- Joined texts have no white space if none of them and nothing between them has. -/
theorem isSolid_intercalate {separator : Text} {texts : List Text} (hseparator : IsSolid separator)
    (htexts : ∀ t ∈ texts, IsSolid t) : IsSolid (separator.intercalate texts) := by
  induction texts with
  | nil => exact nofun
  | cons t rest ih =>
    obtain ⟨ht, hrest⟩ := List.forall_mem_cons.1 htexts
    cases rest with
    | nil => simpa using ht
    | cons next others =>
      rw [List.intercalate_cons_cons, isSolid_append, isSolid_append]
      exact ⟨⟨ht, hseparator⟩, ih hrest⟩

/-- Each of the joined texts stands in the whole. -/
theorem subset_intercalate {separator t : Text} {texts : List Text} (ht : t ∈ texts) :
    t ⊆ separator.intercalate texts := by
  induction texts with
  | nil => cases ht
  | cons first rest ih =>
    cases rest with
    | nil =>
      rw [List.mem_singleton.1 ht, List.intercalate_singleton]
      exact List.Subset.refl first
    | cons next others =>
      rw [List.intercalate_cons_cons]
      rcases List.mem_cons.1 ht with rfl | hrest
      · exact List.subset_append_of_subset_left _ (List.subset_append_left _ _)
      · exact List.subset_append_of_subset_right _ (ih hrest)

/-- Each piece of a text stands in it. -/
theorem subset_of_mem_splitOn {c : Char} {t piece : Text} (h : piece ∈ t.splitOn c) :
    piece ⊆ t := by
  calc piece ⊆ [c].intercalate (t.splitOn c) := subset_intercalate h
    _ = t := List.intercalate_splitOn c

/-- A single line holds characters of the text that it is read from. -/
theorem oneLine?_subset {t line : Text} (h : oneLine? t = some line) : line ⊆ t := by
  induction t generalizing line with
  | nil =>
    obtain rfl := Option.some.inj h
    exact List.Subset.refl []
  | cons c rest ih =>
    rw [oneLine?] at h
    split at h
    case isTrue =>
      split at h
      case isTrue =>
        obtain rfl := Option.some.inj h
        exact List.nil_subset _
      case isFalse => cases h
    case isFalse =>
      obtain ⟨others, hothers, rfl⟩ := Option.map_eq_some_iff.1 h
      exact List.cons_subset_cons c (ih hothers)

end Text

open Text

/-- A member is named by characters of its anchor. -/
theorem Member.name_subset_of_ofAnchor? {anchor : Text} {m : Member}
    (h : ofAnchor? anchor = some m) : m.name ⊆ anchor := by
  simp only [ofAnchor?, Option.bind_eq_bind, Option.bind_eq_some_iff] at h
  obtain ⟨kind, -, name, hname, h⟩ := h
  split at h
  case isTrue => cases h
  case isFalse =>
    obtain rfl := Option.some.inj h
    calc name ⊆ (anchor.dropWhile (· ≠ '.')).drop 1 := oneLine?_subset hname
      _ ⊆ anchor.dropWhile (· ≠ '.') := List.drop_subset 1 _
      _ ⊆ anchor := List.dropWhile_subset _

/-! ### The text of a link -/

namespace Target

variable {t : Target}

/-- Without white space in the names and the fragment there is none in the link. -/
theorem isSolid_render (hpath : ∀ name ∈ t.path, IsSolid name)
    (hfragment : ∀ f ∈ t.fragment, IsSolid f) : IsSolid t.render := by
  have hroot : IsSolid crateRoot := isSolid_iff_all.2 (by decide)
  have hseparator : IsSolid separator := isSolid_iff_all.2 (by decide)
  rw [render, isSolid_append]
  refine ⟨isSolid_intercalate hseparator (List.forall_mem_cons.2 ⟨hroot, hpath⟩), ?_⟩
  cases h : t.fragment with
  | none => exact nofun
  | some f => exact List.forall_mem_cons.2 ⟨by decide, hfragment f h⟩

/-- A link starts with the name that the crate has within itself. -/
theorem exists_render_eq (t : Target) : ∃ rest, t.render = crateRoot ++ rest := by
  rw [render]
  cases t.path with
  | nil => exact ⟨_, rfl⟩
  | cons name names => exact ⟨_, by rw [List.intercalate_cons_cons, List.append_assoc,
      List.append_assoc]⟩

theorem render_ne_nil (t : Target) : t.render ≠ [] := by
  obtain ⟨rest, hrest⟩ := t.exists_render_eq
  rw [hrest]
  exact List.cons_ne_nil _ _

end Target

/-- A link within the crate is no address of a package's documentation. -/
theorem Url.isOfPackage_render (package : Text) (t : Target) :
    Url.isOfPackage package t.render = false := by
  cases h : Url.remainder? package t.render with
  | none => rw [Url.isOfPackage, h]; rfl
  | some remainder =>
    obtain ⟨rest, hrest⟩ := t.exists_render_eq
    obtain ⟨haddress, -⟩ := Url.remainder?_eq_some_iff.1 h
    rw [hrest] at haddress
    -- The first letters differ.
    cases haddress

/-! ### Where the text comes from -/

namespace Captures

/-- All pieces that are found. -/
def pieces (c : Captures) : List Text :=
  [c.version, c.crate, c.modules, c.index, c.kind, c.name, c.fragment].reduceOption

variable {c : Captures} {package : Text} {kind : Option ItemKind} {t : Target}

/-- The names and the fragment of a target are found in the pieces. -/
theorem parts_of_target (h : c.target package kind = .ok t) :
    t.modules = c.moduleNames ∧ (∀ i ∈ t.item, c.name = some i.name) ∧
      (∀ m ∈ t.member, ∃ f ∈ c.fragment, m.name ⊆ f) ∧ ∀ f ∈ t.fragment, c.fragment = some f := by
  cases kind with
  | none =>
    obtain ⟨-, rfl⟩ := target_none_eq_ok_iff.1 h
    exact ⟨rfl, by simp [page], by simp [page], fun f hf => hf⟩
  | some kind =>
    obtain ⟨i, rfl, hname, hne⟩ := exists_item_of_target h
    rw [target_some_eq hname hne] at h
    obtain rfl := Target.eq_of_check h
    have hitem : ∀ j ∈ some i, c.name = some j.name := by
      rintro j ⟨⟩
      exact hname
    cases hanchor : Member.ofAnchor? (c.fragment.getD []) with
    | none =>
      have hkept : handOver c.fragment = (none, c.fragment) := by rw [handOver, hanchor]
      exact ⟨rfl, hitem, by simp [hkept], by simp [hkept]⟩
    | some member =>
      have hgiven : handOver c.fragment = (some member, none) := by rw [handOver, hanchor]
      refine ⟨rfl, hitem, ?_, by simp [hgiven]⟩
      rw [hgiven]
      rintro m ⟨⟩
      cases hfragment : c.fragment with
      | none =>
        rw [hfragment] at hanchor
        cases hanchor
      | some f =>
        rw [hfragment] at hanchor
        exact ⟨f, rfl, Member.name_subset_of_ofAnchor? hanchor⟩

/-- The names of the modules stand in their piece. -/
theorem subset_of_mem_moduleNames {name : Text} (h : name ∈ c.moduleNames) :
    name ⊆ c.modules.getD [] :=
  subset_of_mem_splitOn (List.mem_filter.1 h).1

theorem mem_pieces {piece : Text} : piece ∈ c.pieces ↔
    some piece ∈ [c.version, c.crate, c.modules, c.index, c.kind, c.name, c.fragment] :=
  List.reduceOption_mem_iff

/-- Without white space in the pieces there is none in the link. -/
theorem isSolid_render (hc : ∀ piece ∈ c.pieces, IsSolid piece)
    (h : c.target package kind = .ok t) : IsSolid t.render := by
  obtain ⟨hmodules, hitem, hmember, hfragment⟩ := parts_of_target h
  have hpiece : ∀ f ∈ c.fragment, IsSolid f := by
    intro f hf
    exact hc f (mem_pieces.2 (by simp [Option.mem_def.1 hf]))
  refine Target.isSolid_render ?_ fun f hf => hpiece f (hfragment f hf)
  intro name hname
  simp only [Target.path, List.mem_append, Option.mem_toList, Option.map_eq_some_iff] at hname
  rcases hname with (hname | ⟨i, hi, rfl⟩) | ⟨m, hm, rfl⟩
  · rw [hmodules] at hname
    refine IsSolid.of_subset ?_ (subset_of_mem_moduleNames hname)
    cases hc' : c.modules with
    | none => exact nofun
    | some modules => exact hc modules (mem_pieces.2 (by simp [hc']))
  · exact hc i.name (mem_pieces.2 (by simp [hitem i hi]))
  · obtain ⟨f, hf, hname⟩ := hmember m hm
    exact (hpiece f hf).of_subset hname

end Captures

/-! ### Shapes that cut -/

/-- A shape whose pieces are cut out of the remainder: they hold no other characters. -/
def Shape.Cuts (s : Shape) : Prop :=
  ∀ (remainder : Text) (c : Captures), s.captures? remainder = some c →
    ∀ piece ∈ c.pieces, piece ⊆ remainder

/-- A registry of shapes whose pieces are cut out of the remainder. -/
def Registry.Cuts (r : Registry) : Prop := ∀ s ∈ r.shapes, s.Cuts

namespace Page

/-- A page cuts a remainder if it takes the fragment as it is and cuts the path. -/
theorem cuts_shape {name description : String}
    {captures? : Text → Option Text → Option Captures}
    (h : ∀ path fragment c, '#' ∉ path → captures? path fragment = some c →
      c.fragment = fragment ∧ ∀ piece ∈ { c with fragment := none }.pieces, piece ⊆ path) :
    (shape name description captures?).Cuts := by
  intro remainder c hc piece hpiece
  obtain ⟨path, fragment, hsplit, hpieces⟩ := captures?_shape_eq_some_iff.1 hc
  obtain ⟨rfl, hmark, -⟩ := Url.splitFragment?_eq_some_iff.1 hsplit
  obtain ⟨hfragment, hpath⟩ := h path fragment c hmark hpieces
  by_cases hlast : c.fragment = some piece
  · rw [← hfragment, hlast]
    exact List.subset_append_of_subset_right path (List.subset_cons_self '#' piece)
  · refine List.subset_append_of_subset_left _ (hpath piece ?_)
    rw [Captures.mem_pieces] at hpiece ⊢
    simp only [List.mem_cons, List.not_mem_nil, or_false] at hpiece ⊢
    tauto

/-- The spelling of an index is the end of its path. -/
theorem raw_eq_pathOf {s : Option IndexSpelling} {piece : Text}
    (h : s.map IndexSpelling.raw = some piece) : piece = pathOf (IndexSpelling.steps s) := by
  obtain ⟨spelling, rfl, rfl⟩ := Option.map_eq_some_iff.1 h
  simp [IndexSpelling.steps, IndexSpelling.raw]

theorem cuts_package : Page.package.Cuts := by
  refine cuts_shape fun path fragment c _ hc => ?_
  obtain ⟨s, -, rfl, rfl⟩ := packageCaptures?_eq_some_iff.1 hc
  refine ⟨rfl, fun piece hpiece => ?_⟩
  simp only [Captures.mem_pieces, List.mem_cons, List.not_mem_nil, reduceCtorEq, false_or,
    or_false] at hpiece
  rw [raw_eq_pathOf hpiece.symm]
  exact List.Subset.refl _

theorem cuts_version : Page.version.Cuts := by
  refine cuts_shape fun path fragment c hmark hc => ?_
  obtain ⟨version, s, -, rfl, rfl⟩ := (versionCaptures?_eq_some_iff hmark).1 hc
  refine ⟨rfl, fun piece hpiece => ?_⟩
  simp only [Captures.mem_pieces, List.mem_cons, List.not_mem_nil, reduceCtorEq, false_or,
    or_false, Option.some.injEq] at hpiece
  rcases hpiece with rfl | hindex
  · intro a ha
    simp [ha]
  · rw [raw_eq_pathOf hindex.symm]
    intro a ha
    simp [ha]

theorem cuts_modules : Page.modules.Cuts := by
  refine cuts_shape fun path fragment c hmark hc => ?_
  obtain ⟨version, crate, names, s, -, -, rfl, rfl⟩ := (moduleCaptures?_eq_some_iff hmark).1 hc
  refine ⟨rfl, fun piece hpiece => ?_⟩
  simp only [Captures.mem_pieces, List.mem_cons, List.not_mem_nil, reduceCtorEq, or_false,
    Option.some.injEq] at hpiece
  rw [List.cons_append, List.cons_append, pathOf_cons, pathOf_cons, pathOf_append]
  rcases hpiece with rfl | rfl | rfl | hindex
  case inr.inr.inr =>
    rw [raw_eq_pathOf hindex.symm]
    intro a ha
    simp [ha]
  all_goals
    intro a ha
    simp [ha]

theorem cuts_item : Page.item.Cuts := by
  refine cuts_shape fun path fragment c hmark hc => ?_
  obtain ⟨version, crate, names, i, -, -, -, rfl, rfl⟩ := (itemCaptures?_eq_some_iff hmark).1 hc
  refine ⟨rfl, fun piece hpiece => ?_⟩
  simp only [Captures.mem_pieces, List.mem_cons, List.not_mem_nil, reduceCtorEq, false_or,
    or_false, Option.some.injEq] at hpiece
  rw [List.cons_append, List.cons_append, pathOf_cons, pathOf_cons, pathOf_append]
  rcases hpiece with rfl | rfl | rfl | rfl | rfl <;> intro a ha <;> simp [Item.file, ha]

end Page

namespace Registry

/-- The pieces of the pages are cut out of the remainder. -/
theorem cuts_default : Registry.default.Cuts := by
  intro s hs
  simp only [default, Page.all, List.mem_cons, List.not_mem_nil, or_false] at hs
  rcases hs with rfl | rfl | rfl | rfl
  · exact Page.cuts_item
  · exact Page.cuts_modules
  · exact Page.cuts_version
  · exact Page.cuts_package

end Registry

/-! ### What is found in an address -/

/-- What a shape finds is a target of its pieces. -/
theorem Shape.exists_target_of_parse {s : Shape} {package remainder : Text} {t : Target}
    (h : (s.parse package remainder).result = .ok (some t)) :
    ∃ c kind, s.captures? remainder = some c ∧ c.target package kind = .ok t := by
  unfold parse at h
  split at h
  case h_1 => cases h
  case h_2 c hc =>
    rw [Report.result_bind] at h
    obtain ⟨kind, -, h⟩ := bind_eq_ok_iff.1 h
    refine ⟨c, kind, hc, ?_⟩
    cases htarget : c.target package kind with
    | error issues =>
      rw [htarget] at h
      cases h
    | ok target =>
      rw [htarget] at h
      cases h
      rfl

namespace Registry

variable {r : Registry} {shapes : List Shape} {package url remainder : Text} {t : Target}

/-- What is found is what one of the shapes finds. -/
theorem exists_parse_of_findIn
    (h : (findIn package url remainder shapes).result = .ok (some t)) :
    ∃ s ∈ shapes, (s.parse package remainder).result = .ok (some t) := by
  induction shapes with
  | nil => cases h
  | cons s rest ih =>
    rw [findIn, Report.result_bind] at h
    obtain ⟨found, hparse, h⟩ := bind_eq_ok_iff.1 h
    cases found with
    | some target =>
      cases h
      exact ⟨s, List.mem_cons_self, hparse⟩
    | none =>
      obtain ⟨s', hs', hparse'⟩ := ih h
      exact ⟨s', List.mem_cons_of_mem s hs', hparse'⟩

/-- **A link is a single word where the address is one.** -/
theorem isSolid_render (hr : r.Cuts) (hurl : IsSolid url)
    (h : (r.find package url).result = .ok (some t)) : IsSolid t.render := by
  unfold find at h
  split at h
  case h_1 => cases h
  case h_2 remainder hremainder =>
    obtain ⟨s, hs, hparse⟩ := exists_parse_of_findIn h
    obtain ⟨c, kind, hc, htarget⟩ := Shape.exists_target_of_parse hparse
    have haddress : url = Url.host ++ package ++ remainder :=
      (Url.remainder?_eq_some_iff.1 hremainder).1
    rw [haddress, isSolid_append] at hurl
    exact Captures.isSolid_render
      (fun piece hpiece => hurl.2.of_subset (hr s hs remainder c hc piece hpiece)) htarget

/-- Nothing is found in a link within the crate. -/
theorem result_find_render (r : Registry) (package : Text) (t : Target) :
    (r.find package t.render).result = .ok none := by
  have hnone : Url.remainder? package t.render = none := by
    simpa [Url.isOfPackage] using Url.isOfPackage_render package t
  rw [find, hnone]
  rfl

end Registry

end CrateDocs
