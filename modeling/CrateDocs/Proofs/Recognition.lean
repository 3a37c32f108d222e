import CrateDocs.Proofs.Address

namespace CrateDocs

/-!
# The addresses that are recognised

The registry of the pages recognises a language of addresses, and reads each of them in one way.

* `Registry.find_default_eq_some_iff_url` — what is found is a well-formed target, in one of its
  addresses, so that the two determine each other but for how an index is spelled;
* `Url.IsPage` is the grammar of the paths of the pages;
* `Target.WellFormed.isPage` and `Url.IsPage.exists_target` — the paths of well-formed targets are
  those of the grammar.
-/

open Url

/-! ### Addresses of targets -/

namespace Target

variable {t : Target}

/-- A package ends before a path and a fragment. -/
theorem endsPackage_remainder (t : Target) (s : IndexSpelling) :
    endsPackage (t.remainder s) = true := by
  rw [remainder]
  cases t.steps s with
  | cons step steps => rfl
  | nil => cases t.anchor? <;> rfl

/-- The spelling does not matter where there is no index. -/
theorem url_eq_of_index (hindex : t.index = false) (s s' : IndexSpelling) :
    t.url s = t.url s' := by
  simp [url, remainder, steps, hindex]

/-- The anchor of a well-formed target names its member, and no other one. -/
theorem WellFormed.member_of_anchor? (ht : t.WellFormed) {m : Member} (hm : m.name ≠ [])
    (hitem : t.item.isSome) (hanchor : t.anchor? = some m.anchor) : t.member = some m := by
  have hline : '\n' ∉ m.anchor := (ht.isFragment_anchor? _ hanchor).2
  cases hmember : t.member with
  | none =>
    have hbare : t.fragment = some m.anchor := by rw [← hanchor, anchor?, hmember]
    exact absurd rfl ((ht.fragment _ hbare).2 hitem m hm)
  | some m' =>
    have hsame : m'.anchor = m.anchor := by
      rw [anchor?, hmember] at hanchor
      exact Option.some.inj hanchor
    -- Both members are what is read in the one anchor.
    have hm' : m'.name ≠ [] := (ht.member m' hmember).2.1.1
    rw [← (Member.ofAnchor?_eq_some_iff hline).2 ⟨rfl, hm⟩,
      (Member.ofAnchor?_eq_some_iff hline).2 ⟨hsame.symm, hm'⟩]

end Target

namespace Registry

/-- The registry of the pages finds a well-formed target of the package in its addresses. -/
theorem find_default_eq_some_iff_url {package url : Text} {t : Target} :
    (default.find package url).result = .ok (some t) ↔
      t.WellFormed ∧ t.package = package ∧ ∃ s, t.Allows s ∧ url = t.url s := by
  rw [find_default_eq_some_iff]
  simp only [Page.exists_read?_iff]
  constructor
  · rintro ⟨remainder, hremainder, ht, rfl, s, hs, rfl⟩
    exact ⟨ht, rfl, s, hs, (remainder?_eq_some_iff.1 hremainder).1⟩
  · rintro ⟨ht, rfl, s, hs, rfl⟩
    have hremainder : remainder? t.package (t.url s) = some (t.remainder s) :=
      remainder?_eq_some_iff.2 ⟨rfl, t.endsPackage_remainder s⟩
    exact ⟨t.remainder s, hremainder, ht, rfl, s, hs, rfl⟩

/-- **Addresses and well-formed targets determine each other.** A target is found in each of its
addresses, an address in which it is found is one of them, and two such addresses differ at most in
how an index is spelled. -/
theorem find_default_roundtrip :
    (∀ (t : Target) (s : IndexSpelling), t.WellFormed → t.Allows s →
      (default.find t.package (t.url s)).result = .ok (some t)) ∧
    (∀ (package url : Text) (t : Target), (default.find package url).result = .ok (some t) →
      t.WellFormed ∧ t.package = package ∧ ∃ s, t.Allows s ∧ url = t.url s) ∧
    (∀ (package url other : Text) (t : Target),
      (default.find package url).result = .ok (some t) →
      (default.find package other).result = .ok (some t) →
      url = other ∨ t.index = true ∧ t.version.isSome ∧
        ∃ s s' : IndexSpelling, s ≠ s' ∧ url = t.url s ∧ other = t.url s') := by
  refine ⟨?encode, ?decode, ?unique⟩
  case encode =>
    intro t s ht hs
    exact find_default_eq_some_iff_url.2 ⟨ht, rfl, s, hs, rfl⟩
  case decode =>
    intro package url t h
    exact find_default_eq_some_iff_url.1 h
  case unique =>
    intro package url other t h h'
    obtain ⟨-, -, s, hs, rfl⟩ := find_default_eq_some_iff_url.1 h
    obtain ⟨-, -, s', hs', rfl⟩ := find_default_eq_some_iff_url.1 h'
    by_cases hspelling : s = s'
    · exact .inl (by rw [hspelling])
    · cases hindex : t.index with
      | false => exact .inl (Target.url_eq_of_index hindex s s')
      | true =>
        refine .inr ⟨rfl, ?_, s, s', hspelling, rfl, rfl⟩
        -- Without a version both spellings would be the `/`.
        by_contra hversion
        rw [Option.not_isSome_iff_eq_none] at hversion
        exact hspelling ((hs hversion).trans (hs' hversion).symm)

/-- A module that is found in both spellings of its index. -/
theorem find_default_roundtrip_module : ∃ t : Target,
    (default.find "serde".toList "https://docs.rs/serde/1.0/serde/de/".toList).result
      = .ok (some t) ∧
    (default.find "serde".toList "https://docs.rs/serde/1.0/serde/de/index.html".toList).result
      = .ok (some t) ∧
    t.WellFormed ∧ t.index = true ∧ t.version.isSome := by
  obtain ⟨hencode, hdecode, hunique⟩ := find_default_roundtrip
  have ht : Target.WellFormed { package := "serde".toList, version := "1.0".toList,
                                crate := "serde".toList, modules := ["de".toList],
                                index := true } := by
    constructor <;> simp <;> decide
  have hslash := hencode _ .slash ht (fun _ => rfl)
  have hfile := hencode _ .file ht nofun
  obtain ⟨hindex, hversion, -⟩ := (hunique _ _ _ _ hslash hfile).resolve_left (by decide)
  exact ⟨_, hslash, hfile, (hdecode _ _ _ hslash).1, hindex, hversion⟩

end Registry

/-! ### The grammar of the addresses -/

namespace Url

/-- What may stand at the end of the address of a directory. -/
def indexEnds : List Text := ["".toList, "/".toList, "/index.html".toList]

/-- The paths of the pages, before a fragment. The anchor of a member may follow only an item that
can have the member. -/
inductive IsPage (fragment : Option Text) : Text → Prop
  | item {version crate : Text} {modules : List Text} {kind : ItemKind} {name : Text} :
      IsSegment version → IsName crate → (∀ m ∈ modules, IsName m) → IsName name →
      (∀ m : Member, m.name ≠ [] → fragment = some (m.kind.word ++ '.' :: m.name) →
        kind.allows m.kind) →
      IsPage fragment ('/' :: version ++ '/' :: crate ++ modules.flatMap ('/' :: ·) ++
        '/' :: kind.word ++ '.' :: name ++ ".html".toList)
  | module {version crate : Text} {modules : List Text} {ending : Text} :
      IsSegment version → IsName crate → (∀ m ∈ modules, IsName m) → ending ∈ indexEnds →
      IsPage fragment ('/' :: version ++ '/' :: crate ++ modules.flatMap ('/' :: ·) ++ ending)
  | version {version ending : Text} :
      IsSegment version → ending ∈ indexEnds → IsPage fragment ('/' :: version ++ ending)
  | package {ending : Text} :
      ending ∈ ["".toList, "/".toList] → IsPage fragment ending

end Url

/-- The ends of the address of a directory are no index and the spellings of one. -/
theorem IndexSpelling.mem_indexEnds_iff {ending : Text} :
    ending ∈ indexEnds ↔
      ∃ b : Bool, ∃ s : IndexSpelling, ending = Page.pathOf (if b then [s.step] else []) := by
  constructor
  · intro h
    simp only [indexEnds, List.mem_cons, List.not_mem_nil, or_false] at h
    rcases h with rfl | rfl | rfl
    · exact ⟨false, .slash, rfl⟩
    · exact ⟨true, .slash, rfl⟩
    · exact ⟨true, .file, rfl⟩
  · rintro ⟨b, s, rfl⟩
    cases b <;> cases s <;> decide

/-- The path of a well-formed target follows the grammar. -/
theorem Target.WellFormed.isPage {t : Target} (ht : t.WellFormed) {s : IndexSpelling}
    (hs : t.Allows s) : IsPage t.anchor? (Page.pathOf (t.steps s)) := by
  have hending : Page.pathOf (if t.index then [s.step] else []) ∈ indexEnds :=
    IndexSpelling.mem_indexEnds_iff.2 ⟨t.index, s, rfl⟩
  cases hversion : t.version with
  | none =>
    have hcrate := ht.crate_eq_none hversion
    obtain ⟨hmodules, hitem⟩ := ht.inner_eq_nil hcrate
    have hpath : Page.pathOf (t.steps s) = Page.pathOf (if t.index then [s.step] else []) := by
      simp [steps, hversion, hcrate, hmodules, hitem]
    rw [hpath, hs hversion]
    refine .package ?_
    cases t.index <;> decide
  | some version =>
    have hsegment := ht.isSegment_version version hversion
    cases hcrate : t.crate with
    | none =>
      obtain ⟨hmodules, hitem⟩ := ht.inner_eq_nil hcrate
      have hpath : Page.pathOf (t.steps s)
          = '/' :: version ++ Page.pathOf (if t.index then [s.step] else []) := by
        simp [steps, hversion, hcrate, hmodules, hitem]
      rw [hpath]
      exact .version hsegment hending
    | some crate =>
      have hname := ht.isName_crate crate hcrate
      cases hitem : t.item with
      | none =>
        have hpath : Page.pathOf (t.steps s)
            = '/' :: version ++ '/' :: crate ++ t.modules.flatMap ('/' :: ·) ++
                Page.pathOf (if t.index then [s.step] else []) := by
          simp [steps, Page.pathOf, hversion, hcrate, hitem]
        rw [hpath]
        exact .module hsegment hname ht.isName_modules hending
      | some i =>
        have hpath : Page.pathOf (t.steps s)
            = '/' :: version ++ '/' :: crate ++ t.modules.flatMap ('/' :: ·) ++
                '/' :: i.kind.word ++ '.' :: i.name ++ ".html".toList := by
          simp [steps, Page.pathOf, hversion, hcrate, hitem, ht.index_of_item, Item.file,
            Page.fileEnd]
        rw [hpath]
        refine .item hsegment hname ht.isName_modules (ht.isName_item i hitem) ?_
        intro m hm hanchor
        have hmember := ht.member_of_anchor? hm (by simp [hitem]) hanchor
        obtain ⟨i', hi', hallows⟩ := (ht.member m hmember).1
        obtain rfl := Option.some.inj (hitem.symm.trans hi')
        exact hallows

/-- A path that follows the grammar is the one of a well-formed target. -/
theorem Url.IsPage.exists_target {package path : Text} {fragment : Option Text}
    (h : IsPage fragment path) (hpackage : package ≠ [])
    (hfragment : ∀ f ∈ fragment, IsFragment f) :
    ∃ (t : Target) (s : IndexSpelling), t.WellFormed ∧ t.Allows s ∧ t.package = package ∧
      t.anchor? = fragment ∧ Page.pathOf (t.steps s) = path := by
  cases h with
  | package hending =>
    obtain ⟨b, rfl⟩ : ∃ b : Bool, path = Page.pathOf (if b then [[]] else []) := by
      simp only [List.mem_cons, List.not_mem_nil, or_false] at hending
      rcases hending with rfl | rfl
      · exact ⟨false, rfl⟩
      · exact ⟨true, rfl⟩
    refine ⟨{ package, fragment, index := b }, .slash, ?_, fun _ => rfl, rfl, rfl, rfl⟩
    constructor <;> simp [hpackage]
    exact hfragment
  | @version version ending hversion hending =>
    obtain ⟨b, s, rfl⟩ := IndexSpelling.mem_indexEnds_iff.1 hending
    refine ⟨{ package, version, fragment, index := b }, s, ?_, nofun, rfl, rfl, rfl⟩
    constructor <;> simp [hpackage, hversion]
    exact hfragment
  | @module version crate modules ending hversion hcrate hmodules hending =>
    obtain ⟨b, s, rfl⟩ := IndexSpelling.mem_indexEnds_iff.1 hending
    refine ⟨{ package, version, crate, modules, fragment, index := b }, s, ?_, nofun,
      rfl, rfl, ?_⟩
    · constructor <;> simp [hpackage, hversion, hcrate]
      · exact hmodules
      · exact hfragment
    · simp [Target.steps, Page.pathOf]
  | @item version crate modules kind name hversion hcrate hmodules hname hallows =>
    have hpath : ∀ t : Target, t.version = version → t.crate = crate → t.modules = modules →
        t.item = some ⟨kind, name⟩ → t.index = false →
        Page.pathOf (t.steps .slash) = '/' :: version ++ '/' :: crate ++
          modules.flatMap ('/' :: ·) ++ '/' :: kind.word ++ '.' :: name ++ ".html".toList := by
      intro t htversion htcrate htmodules htitem htindex
      simp [Target.steps, Page.pathOf, Item.file, Page.fileEnd, *]
    -- The fragment becomes the member, if it is the anchor of one.
    by_cases hmember : ∃ m : Member, m.name ≠ [] ∧ fragment = some m.anchor
    · obtain ⟨m, hm, rfl⟩ := hmember
      refine ⟨{ package, version, crate, modules, item := some ⟨kind, name⟩, member := some m },
        .slash, ?_, fun _ => rfl, rfl, rfl, hpath _ rfl rfl rfl rfl rfl⟩
      have hline : IsFragment m.name :=
        ⟨hm, fun h => (hfragment _ rfl).2 (by simp [Member.anchor, h])⟩
      constructor <;> simp [hpackage, hversion, hcrate, hname, hline, hallows m hm rfl]
      exact hmodules
    · push Not at hmember
      refine ⟨{ package, version, crate, modules, item := some ⟨kind, name⟩, fragment },
        .slash, ?_, fun _ => rfl, rfl, rfl, hpath _ rfl rfl rfl rfl rfl⟩
      constructor <;> simp [hpackage, hversion, hcrate, hname]
      · exact hmodules
      · rintro f rfl
        exact ⟨hfragment f rfl, fun m hm hf => hmember m hm (by rw [hf])⟩

namespace Registry

/-- **The registry of the pages recognises the addresses of the grammar.** Every other address is
no target of the package, and none of them is a failure. -/
theorem find_default_isSome_iff {package : Text} (hpackage : package ≠ []) (url : Text) :
    ∃ found, (default.find package url).result = .ok found ∧
      (found.isSome ↔ ∃ path fragment, url = host ++ package ++ path ++ fragmentText fragment ∧
        '#' ∉ path ∧ (∀ f ∈ fragment, IsFragment f) ∧ IsPage fragment path) := by
  obtain ⟨found, hfound⟩ : ∃ found, (default.find package url).result = .ok found :=
    ⟨_, result_find_default package url⟩
  refine ⟨found, hfound, ?_⟩
  have hsome : found.isSome ↔ ∃ t, (default.find package url).result = .ok (some t) := by
    simp [hfound, Option.isSome_iff_exists]
  rw [hsome]
  constructor
  · rintro ⟨t, hfind⟩
    obtain ⟨ht, rfl, s, hs, rfl⟩ := find_default_eq_some_iff_url.1 hfind
    refine ⟨Page.pathOf (t.steps s), t.anchor?, ?_, ht.mark_notMem s, ht.isFragment_anchor?,
      ht.isPage hs⟩
    rw [Target.url, Target.remainder, List.append_assoc (host ++ t.package)]
  · rintro ⟨path, fragment, rfl, -, hfragment, hpage⟩
    obtain ⟨t, s, ht, hs, rfl, rfl, rfl⟩ := hpage.exists_target hpackage hfragment
    refine ⟨t, find_default_eq_some_iff_url.2 ⟨ht, rfl, s, hs, ?_⟩⟩
    rw [Target.url, Target.remainder, List.append_assoc (host ++ t.package)]

/-- The page of a trait is recognised at the anchor of a required method. -/
theorem find_default_isSome_iff_trait : ∃ t, (default.find "serde".toList
    "https://docs.rs/serde/1.0/serde/de/trait.Visitor.html#tymethod.expecting".toList).result
      = .ok (some t) := by
  have hpage : IsPage (some "tymethod.expecting".toList)
      "/1.0/serde/de/trait.Visitor.html".toList := by
    refine @IsPage.item _ "1.0".toList "serde".toList ["de".toList] .trait "Visitor".toList
      (by decide) (by decide) (by decide) (by decide) ?_
    intro m hm hanchor
    have hread := (Member.ofAnchor?_eq_some_iff (by decide)).2 ⟨Option.some.inj hanchor, hm⟩
    have hmethod : Member.ofAnchor? "tymethod.expecting".toList
        = some ⟨.tymethod, "expecting".toList⟩ := by decide
    obtain rfl := Option.some.inj (hmethod.symm.trans hread)
    rfl
  obtain ⟨found, hfound, hiff⟩ := find_default_isSome_iff
    (show "serde".toList ≠ [] by decide)
    "https://docs.rs/serde/1.0/serde/de/trait.Visitor.html#tymethod.expecting".toList
  obtain ⟨t, rfl⟩ := Option.isSome_iff_exists.1
    (hiff.2 ⟨_, _, by decide +kernel, by decide +kernel, by decide +kernel, hpage⟩)
  exact ⟨t, hfound⟩

end Registry

end CrateDocs
