import CrateDocs.Link.Registry
import CrateDocs.Proofs.Page

namespace CrateDocs

/-!
# Addresses of targets

The pages of a package and the targets that they stand for determine each other.

* `Target.url` writes a target as an address, and `Target.WellFormed` says which targets have one;
* `Shape.read?` is what a shape finds as a value, and `Registry.result_find_default` says that the
  default registry finds what one of the pages reads;
* `Page.exists_read?_iff` — what the pages read are the addresses of well-formed targets.
-/

open Url

/-! ### Anchors -/

namespace Member

/-- The anchor of a member. -/
def anchor (m : Member) : Text := m.kind.word ++ '.' :: m.name

theorem dot_notMem_word (k : MemberKind) : '.' ∉ k.word := by
  cases k <;> decide

theorem anchor_injective : Function.Injective anchor := by
  intro m n h
  have hword : m.kind.word = n.kind.word := by
    have hbefore := congrArg (List.takeWhile (· ≠ '.')) h
    rwa [anchor, anchor, Text.takeWhile_ne_append_cons (dot_notMem_word _),
      Text.takeWhile_ne_append_cons (dot_notMem_word _)] at hbefore
  have hkind : m.kind = n.kind := by
    rw [← Option.some_inj, ← MemberKind.ofWord?_word, hword, MemberKind.ofWord?_word]
  rw [anchor, anchor, hword, List.append_cancel_left_eq, List.cons.injEq] at h
  obtain ⟨kind, name⟩ := m
  exact congrArg₂ Member.mk hkind h.2

/-- On a single line, an anchor names the member whose anchor it is. -/
theorem ofAnchor?_eq_some_iff {text : Text} {m : Member} (hline : '\n' ∉ text) :
    ofAnchor? text = some m ↔ text = m.anchor ∧ m.name ≠ [] := by
  constructor
  · intro h
    simp only [ofAnchor?, Option.bind_eq_bind, Option.bind_eq_some_iff] at h
    obtain ⟨kind, hkind, name, hname, h⟩ := h
    split at h
    case isTrue => cases h
    case isFalse hne =>
      obtain rfl := Option.some.inj h
      have hword := MemberKind.word_of_ofWord? hkind
      by_cases hdot : '.' ∈ text
      · obtain ⟨before, rest, rfl, hbefore⟩ := List.eq_append_cons_of_mem hdot
        rw [Text.takeWhile_ne_append_cons hbefore] at hword
        rw [Text.dropWhile_ne_append_cons hbefore, List.drop_one, List.tail_cons,
          Text.oneLine?_of_notMem (by simp at hline; exact hline.2)] at hname
        obtain rfl := Option.some.inj hname
        exact ⟨by rw [anchor, hword], hne⟩
      · rw [Text.dropWhile_ne_of_notMem hdot] at hname
        exact absurd (Option.some.inj hname).symm hne
  · rintro ⟨rfl, hne⟩
    have hname : '\n' ∉ m.name := fun h => hline (by simp [anchor, h])
    simp only [ofAnchor?, anchor, Text.takeWhile_ne_append_cons (dot_notMem_word m.kind),
      Text.dropWhile_ne_append_cons (dot_notMem_word m.kind), MemberKind.ofWord?_word,
      List.drop_one, List.tail_cons, Text.oneLine?_of_notMem hname, Option.bind_eq_bind,
      Option.bind_some, if_neg hne]

end Member

/-! ### Targets as addresses -/

namespace Target

/-- What a target must be to have an address: its parts are of the class of their place, each is
there where a further one is, and an item has no index. -/
structure WellFormed (t : Target) : Prop where
  package_ne_nil : t.package ≠ []
  version_of_crate : t.crate.isSome → t.version.isSome
  crate_of_inner : t.modules ≠ [] ∨ t.item.isSome → t.crate.isSome
  isSegment_version : ∀ version ∈ t.version, IsSegment version
  isName_crate : ∀ crate ∈ t.crate, IsName crate
  isName_modules : ∀ name ∈ t.modules, IsName name
  isName_item : ∀ i ∈ t.item, IsName i.name
  index_of_item : t.item.isSome → t.index = false
  /-- a member belongs to an item that can have it, and takes the place of a fragment -/
  member : ∀ m ∈ t.member,
    (∃ i ∈ t.item, i.kind.allows m.kind) ∧ IsFragment m.name ∧ t.fragment = none
  /-- a fragment of an item's page is not the anchor of a member -/
  fragment : ∀ f ∈ t.fragment,
    IsFragment f ∧ (t.item.isSome → ∀ m : Member, m.name ≠ [] → f ≠ m.anchor)

/-- The steps of the path to a target, where an index is spelled as `s`. -/
def steps (s : IndexSpelling) (t : Target) : List Text :=
  t.version.toList ++ t.crate.toList ++ t.modules ++ (t.item.map Item.file).toList ++
    if t.index then [s.step] else []

/-- The anchor of the member, or else the fragment. -/
def anchor? (t : Target) : Option Text :=
  match t.member with
  | some m => some m.anchor
  | none => t.fragment

/-- What follows the package in the address of a target. -/
def remainder (s : IndexSpelling) (t : Target) : Text :=
  Page.pathOf (t.steps s) ++ fragmentText t.anchor?

/-- The address of a target, where an index is spelled as `s`. -/
def url (s : IndexSpelling) (t : Target) : Text := host ++ t.package ++ t.remainder s

/-- Without a version, an index can be spelled only as `/`. -/
def Allows (t : Target) (s : IndexSpelling) : Prop := t.version = none → s = .slash

theorem anchor?_of_member {t : Target} (hmember : t.member = none) : t.anchor? = t.fragment := by
  rw [anchor?, hmember]

/-- A target passes if it has a package and breaks no rule about members. -/
theorem check_eq_ok_iff {t u : Target} :
    t.check = .ok u ↔ t.package ≠ [] ∧ t.memberRefusal? = none ∧ u = t := by
  unfold check
  by_cases hpackage : t.package = []
  · simp [hpackage, Checked.under, Checked.fault, Except.mapError]
  · cases hrefusal : t.memberRefusal? <;> simp [hpackage, Checked.fault, eq_comm]

end Target

/-- An item passes if it has a name. -/
theorem Item.check_eq_ok_iff {kind : ItemKind} {name : Option Text} {i : Item} :
    Item.check kind name = .ok i ↔ i.kind = kind ∧ name = some i.name ∧ i.name ≠ [] := by
  obtain ⟨kind', name'⟩ := i
  rcases name with _ | _ | ⟨a, rest⟩
  · simp [Item.check, Checked.under, Checked.fault, Except.mapError]
  · simp +contextual [Item.check, Checked.under, Checked.fault, Except.mapError, eq_comm]
  · simp +contextual [Item.check, eq_comm]

/-! ### What a shape reads -/

/-- What a shape reads in a remainder. -/
def Shape.read? (s : Shape) (package remainder : Text) : Option Target := do
  let c ← s.captures? remainder
  (c.target package (c.kind.bind ItemKind.ofWord?)).toOption

/-- A shape whose pieces name only kinds that there are finds what it reads. -/
theorem Shape.result_parse {s : Shape} {package remainder : Text}
    (hkind : ∀ c, s.captures? remainder = some c →
      c.kind = none ∨ ∃ kind : ItemKind, c.kind = some kind.word) :
    (s.parse package remainder).result = .ok (s.read? package remainder) := by
  unfold parse read?
  cases hcaptures : s.captures? remainder with
  | none => rfl
  | some c =>
    -- A kind that is named is one that there is, so this is no failure.
    have hresult : (itemKind c).result = .ok (c.kind.bind ItemKind.ofWord?) := by
      rcases hkind c hcaptures with hnone | ⟨kind, hword⟩
      · simp [itemKind, hnone]
      · cases kind <;> rw [itemKind, hword] <;> rfl
    simp only [Report.result_bind_of_ok hresult, Option.bind_eq_bind, Option.bind_some]
    cases c.target package (c.kind.bind ItemKind.ofWord?) <;> rfl

/-- The first of the shapes that reads something decides. -/
theorem Registry.result_findIn {package url remainder : Text} {shapes : List Shape}
    (hparse : ∀ s ∈ shapes,
      (s.parse package remainder).result = .ok (s.read? package remainder)) :
    (findIn package url remainder shapes).result
      = .ok (shapes.findSome? (·.read? package remainder)) := by
  induction shapes with
  | nil => rfl
  | cons s rest ih =>
    obtain ⟨hs, hrest⟩ := List.forall_mem_cons.1 hparse
    rw [findIn, Report.result_bind, hs, List.findSome?_cons]
    cases s.read? package remainder with
    | none => exact ih hrest
    | some target => rfl

namespace Page

/-- The pieces of a page name no kind, or one that there is. -/
theorem kind_of_captures? {s : Shape} (hs : s ∈ all) {remainder : Text} {c : Captures}
    (h : s.captures? remainder = some c) :
    c.kind = none ∨ ∃ kind : ItemKind, c.kind = some kind.word := by
  simp only [all, List.mem_cons, List.not_mem_nil, or_false] at hs
  rcases hs with rfl | rfl | rfl | rfl <;>
    obtain ⟨path, fragment, hsplit, hpieces⟩ := captures?_shape_eq_some_iff.1 h <;>
    have hmark : '#' ∉ path := (splitFragment?_eq_some_iff.1 hsplit).2.1
  · obtain ⟨_, _, _, i, -, -, -, -, rfl⟩ := (itemCaptures?_eq_some_iff hmark).1 hpieces
    exact .inr ⟨i.kind, rfl⟩
  · obtain ⟨_, _, _, _, -, -, -, rfl⟩ := (moduleCaptures?_eq_some_iff hmark).1 hpieces
    exact .inl rfl
  · obtain ⟨_, _, -, -, rfl⟩ := (versionCaptures?_eq_some_iff hmark).1 hpieces
    exact .inl rfl
  · obtain ⟨_, -, -, rfl⟩ := packageCaptures?_eq_some_iff.1 hpieces
    exact .inl rfl

/-- A page finds what it reads, without a failure. -/
theorem result_parse {s : Shape} (hs : s ∈ all) {package remainder : Text} :
    (s.parse package remainder).result = .ok (s.read? package remainder) :=
  Shape.result_parse fun _ => kind_of_captures? hs

/-- Among pages, the first that reads something is the only one. -/
theorem findSome?_read?_eq_some_iff {shapes : List Shape} (hshapes : ∀ s ∈ shapes, s ∈ all)
    {package remainder : Text} {t : Target} :
    shapes.findSome? (·.read? package remainder) = some t ↔
      ∃ s ∈ shapes, s.read? package remainder = some t := by
  constructor
  · exact List.exists_of_findSome?_eq_some
  · rintro ⟨s, hs, hread⟩
    cases hfound : shapes.findSome? (·.read? package remainder) with
    | none =>
      have hnone := List.findSome?_eq_none_iff.1 hfound s hs
      rw [hread] at hnone
      cases hnone
    | some u =>
      obtain ⟨s', hs', hread'⟩ := List.exists_of_findSome?_eq_some hfound
      have hcaptures := Option.bind_eq_some_iff.1 hread
      have hcaptures' := Option.bind_eq_some_iff.1 hread'
      obtain ⟨c, hc, -⟩ := hcaptures
      obtain ⟨c', hc', -⟩ := hcaptures'
      -- Both pages have the address, so they are the same.
      obtain rfl := captures?_unique (hshapes s hs) (hshapes s' hs') hc hc'
      exact hread'.symm.trans hread

end Page

namespace Registry

/-- A registry of pages finds what the first of them reads, without a failure. -/
theorem result_find_of_pages {shapes : List Shape} (hshapes : ∀ s ∈ shapes, s ∈ Page.all)
    (package url : Text) :
    (find ⟨shapes⟩ package url).result
      = .ok ((remainder? package url).bind fun remainder =>
          shapes.findSome? (·.read? package remainder)) := by
  unfold find
  cases remainder? package url with
  | none => rfl
  | some remainder => exact result_findIn fun s hs => Page.result_parse (hshapes s hs)

theorem result_find_default (package url : Text) :
    (default.find package url).result
      = .ok ((remainder? package url).bind fun remainder =>
          Page.all.findSome? (·.read? package remainder)) :=
  result_find_of_pages (fun _ hs => hs) package url

/-- The registry of the pages finds a target that one of the pages reads. -/
theorem find_default_eq_some_iff {package url : Text} {t : Target} :
    (default.find package url).result = .ok (some t) ↔
      ∃ remainder, remainder? package url = some remainder ∧
        ∃ s ∈ Page.all, s.read? package remainder = some t := by
  rw [result_find_default, Except.ok.injEq, Option.bind_eq_some_iff]
  refine exists_congr fun remainder => and_congr_right fun _ => ?_
  exact Page.findSome?_read?_eq_some_iff fun s hs => hs

end Registry

/-! ### The targets of the pieces -/

namespace IndexSpelling

theorem isPresent_raw (s : Option IndexSpelling) : isPresent (s.map raw) = s.isSome := by
  rcases s with _ | s
  · rfl
  · simp [isPresent, raw]

theorem steps_ite (b : Bool) (s : IndexSpelling) :
    steps (if b then some s else none) = if b then [s.step] else [] := by
  cases b <;> rfl

theorem isPresent_ite (b : Bool) (s : IndexSpelling) :
    isPresent (Option.map raw (if b then some s else none)) = b := by
  rw [isPresent_raw]
  cases b <;> rfl

/-- An index that is there is spelled as it is, and any spelling does for one that is not. -/
theorem steps_eq_ite (s : Option IndexSpelling) :
    steps s = if s.isSome then [(s.getD slash).step] else [] := by
  cases s <;> rfl

end IndexSpelling

namespace Captures

/-- The modules of a path are its names again. -/
theorem moduleNames_pathOf {c : Captures} {names : List Text}
    (hc : c.modules = some (Page.pathOf names)) (hnames : ∀ name ∈ names, IsName name) :
    c.moduleNames = names := by
  have hsplit : (Page.pathOf names).splitOn '/' = [] :: names := by
    refine Text.splitOn_eq_iff.2 ⟨by simp, ?_, ?_⟩
    · exact List.forall_mem_cons.2 ⟨by simp, fun name hname => (hnames name hname).1.2.1⟩
    · cases names with
      | nil => rfl
      | cons name names => rw [Page.pathOf_eq_cons_intercalate (by simp)]; simp
  have hfilter : names.filter (· ≠ []) = names :=
    List.filter_eq_self.2 fun name hname => by simpa using (hnames name hname).1.1
  rw [moduleNames, hc, Option.getD_some, hsplit, List.filter_cons_of_neg (by simp), hfilter]

/-- The pieces of a target without an item name it. -/
theorem page_eq {c : Captures} {t : Target} (hversion : c.version = t.version)
    (hcrate : c.crate = t.crate) (hmodules : c.moduleNames = t.modules)
    (hfragment : c.fragment = t.fragment) (hindex : isPresent c.index = t.index)
    (hitem : t.item = none) (hmember : t.member = none) : t = c.page t.package := by
  obtain ⟨package, version, crate, modules, item, member, fragment, index⟩ := t
  simp_all [page]

/-- Pieces of the right classes name a well-formed target. -/
theorem wellFormed_page {c : Captures} {package : Text} (hpackage : package ≠ [])
    (hversion : ∀ version ∈ c.version, IsSegment version)
    (hcrate : ∀ crate ∈ c.crate, IsName crate ∧ c.version.isSome)
    (hmodules : ∀ name ∈ c.moduleNames, IsName name ∧ c.crate.isSome)
    (hfragment : ∀ f ∈ c.fragment, IsFragment f) : (c.page package).WellFormed where
  package_ne_nil := hpackage
  version_of_crate h := by
    obtain ⟨crate, hc⟩ := Option.isSome_iff_exists.1 h
    exact (hcrate crate hc).2
  crate_of_inner h := by
    obtain ⟨name, hname⟩ := List.exists_mem_of_ne_nil _ (h.resolve_right nofun)
    exact (hmodules name hname).2
  isSegment_version := hversion
  isName_crate crate hc := (hcrate crate hc).1
  isName_modules name hname := (hmodules name hname).1
  isName_item := nofun
  index_of_item := nofun
  member := nofun
  fragment f hf := ⟨hfragment f hf, nofun⟩

/-- The address of a target without an item is made of its pieces. -/
theorem exists_remainder_page {c : Captures} {s : Option IndexSpelling} (package : Text)
    (hindex : c.index = s.map IndexSpelling.raw) (hs : c.version = none → s ≠ some .file) :
    ∃ s', (c.page package).Allows s' ∧
      Page.pathOf (c.version.toList ++ c.crate.toList ++ c.moduleNames ++ IndexSpelling.steps s) ++
        fragmentText c.fragment = (c.page package).remainder s' := by
  have hpresent : isPresent c.index = s.isSome := by rw [hindex, IndexSpelling.isPresent_raw]
  refine ⟨s.getD .slash, fun hversion => ?_, ?_⟩
  · rcases s with _ | _ | _
    · rfl
    · rfl
    · exact absurd rfl (hs hversion)
  · simp only [Target.remainder, Target.steps, Target.anchor?, page, hpresent,
      IndexSpelling.steps_eq_ite, Option.map_none, Option.toList_none, List.append_nil]

/-- Without an item, the pieces name a target of any package that has a name. -/
theorem target_none_eq_ok_iff {c : Captures} {package : Text} {t : Target} :
    c.target package none = .ok t ↔ package ≠ [] ∧ t = c.page package := by
  rw [target, Target.check_eq_ok_iff]
  simp [page, Target.memberRefusal?]

/-- The member that a fragment names on the page of an item, and what is left of the fragment. -/
def handOver (fragment : Option Text) : Option Member × Option Text :=
  match Member.ofAnchor? (fragment.getD []) with
  | some member => (some member, none)
  | none => (none, fragment)

/-- A fragment is handed over exactly if it is the anchor of a member. -/
theorem handOver_eq_iff {fragment rest : Option Text} {member : Option Member}
    (hline : ∀ f ∈ fragment, '\n' ∉ f) :
    handOver fragment = (member, rest) ↔
      (∃ m, m.name ≠ [] ∧ fragment = some m.anchor ∧ member = some m ∧ rest = none) ∨
      ((∀ f ∈ fragment, ∀ m : Member, m.name ≠ [] → f ≠ m.anchor) ∧ member = none ∧
        rest = fragment) := by
  have hread : ∀ f ∈ fragment, ∀ m, Member.ofAnchor? f = some m ↔ f = m.anchor ∧ m.name ≠ [] :=
    fun f hf m => Member.ofAnchor?_eq_some_iff (hline f hf)
  cases fragment with
  | none =>
    have hnone : handOver none = (none, none) := rfl
    simp [hnone, eq_comm]
  | some f =>
    cases hanchor : Member.ofAnchor? f with
    | none =>
      have hno : ∀ m : Member, m.name ≠ [] → f ≠ m.anchor := by
        intro m hm hf
        rw [(hread f rfl m).2 ⟨hf, hm⟩] at hanchor
        cases hanchor
      have hrest : handOver (some f) = (none, some f) := by
        rw [handOver, Option.getD_some, hanchor]
      grind
    | some m =>
      obtain ⟨hf, hm⟩ := (hread f rfl m).1 hanchor
      have hrest : handOver (some f) = (some m, none) := by
        rw [handOver, Option.getD_some, hanchor]
      grind

/-- With a kind, the pieces name a target with an item, which has the name that is found. -/
theorem exists_item_of_target {c : Captures} {package : Text} {kind : ItemKind} {t : Target}
    (h : c.target package (some kind) = .ok t) :
    ∃ i : Item, i.kind = kind ∧ c.name = some i.name ∧ i.name ≠ [] := by
  rw [target] at h
  cases hitem : Item.check kind c.name with
  | error issues =>
    rw [hitem] at h
    cases h
  | ok i => exact ⟨i, Item.check_eq_ok_iff.1 hitem⟩

/-- With an item, the pieces name a target that must keep the rule about members. -/
theorem target_some_eq {c : Captures} {package : Text} {i : Item} (hname : c.name = some i.name)
    (hne : i.name ≠ []) :
    c.target package (some i.kind) = Target.check { c.page package with
      item := some i
      member := (handOver c.fragment).1
      fragment := (handOver c.fragment).2 } := by
  rw [target, Item.check_eq_ok_iff.2 ⟨rfl, hname, hne⟩, handOver]
  simp only [bind, Except.bind]
  cases Member.ofAnchor? (c.fragment.getD []) <;> rfl

/-- An item has a member if the fragment is its anchor, and then must be able to have it. -/
theorem target_some_eq_ok_iff {c : Captures} {package : Text} {i : Item} {t : Target}
    (hname : c.name = some i.name) (hne : i.name ≠ []) (hline : ∀ f ∈ c.fragment, '\n' ∉ f) :
    c.target package (some i.kind) = .ok t ↔
      package ≠ [] ∧ c.fragment = t.anchor? ∧
      (∀ m ∈ t.member, i.kind.allows m.kind ∧ m.name ≠ [] ∧ t.fragment = none) ∧
      (∀ f ∈ t.fragment, ∀ m : Member, m.name ≠ [] → f ≠ m.anchor) ∧
      t = { c.page package with item := some i, member := t.member, fragment := t.fragment } := by
  rw [target_some_eq hname hne, Target.check_eq_ok_iff]
  constructor
  · rintro ⟨hpackage, hrefusal, ht⟩
    have hmember : handOver c.fragment = (t.member, t.fragment) := by rw [ht]
    rw [hmember] at hrefusal ht
    rcases (handOver_eq_iff hline).1 hmember with ⟨m, hm, hfragment, hsome, hrest⟩ |
      ⟨hno, hnone, hrest⟩
    · have hallows : i.kind.allows m.kind := by
        by_contra hforeign
        rw [Bool.not_eq_true] at hforeign
        simp [Target.memberRefusal?, hsome, hforeign] at hrefusal
      refine ⟨hpackage, by rw [hfragment, Target.anchor?, hsome], ?_, by simp [hrest], ht⟩
      intro m' hm'
      obtain rfl := Option.some.inj (hsome.symm.trans hm')
      exact ⟨hallows, hm, hrest⟩
    · refine ⟨hpackage, by rw [Target.anchor?, hnone, hrest], by simp [hnone], ?_, ht⟩
      rw [hrest]
      exact hno
  · rintro ⟨hpackage, hfragment, hmember, hbare, ht⟩
    have hhanded : handOver c.fragment = (t.member, t.fragment) := by
      refine (handOver_eq_iff hline).2 ?_
      cases htmember : t.member with
      | none =>
        have hrest : c.fragment = t.fragment := by rw [hfragment, Target.anchor?, htmember]
        exact .inr ⟨hrest ▸ hbare, rfl, hrest.symm⟩
      | some m =>
        have hanchor : c.fragment = some m.anchor := by rw [hfragment, Target.anchor?, htmember]
        obtain ⟨-, hm, hrest⟩ := hmember m htmember
        exact .inl ⟨m, hm, hanchor, rfl, hrest⟩
    rw [hhanded]
    refine ⟨hpackage, ?_, ht⟩
    cases htmember : t.member with
    | none => rfl
    | some m =>
      obtain ⟨hallows, -, hrest⟩ := hmember m htmember
      simp [Target.memberRefusal?, hallows, hrest]

end Captures

/-! ### Reading and writing addresses -/

namespace Page

/-- A page of the given pieces reads a target in an address that has a path and a fragment. -/
theorem read?_shape_eq_some_iff {name description : String}
    {captures? : Text → Option Text → Option Captures} {package remainder : Text} {t : Target} :
    (shape name description captures?).read? package remainder = some t ↔
      ∃ path fragment, remainder = path ++ fragmentText fragment ∧ '#' ∉ path ∧
        (∀ f ∈ fragment, IsFragment f) ∧ ∃ c, captures? path fragment = some c ∧
          c.target package (c.kind.bind ItemKind.ofWord?) = .ok t := by
  have hok : ∀ x : Checked Target, x.toOption = some t ↔ x = .ok t := by
    intro x
    cases x <;> simp [Except.toOption]
  simp only [Shape.read?, Option.bind_eq_bind, Option.bind_eq_some_iff, captures?_shape_eq_some_iff,
    splitFragment?_eq_some_iff, hok]
  grind

variable {package remainder : Text} {t : Target}

theorem wellFormed_of_read?_package (h : Page.package.read? package remainder = some t) :
    t.WellFormed ∧ t.package = package ∧ ∃ s, t.Allows s ∧ remainder = t.remainder s := by
  obtain ⟨path, fragment, rfl, -, hfragment, c, hpieces, htarget⟩ := read?_shape_eq_some_iff.1 h
  obtain ⟨s, hs, rfl, rfl⟩ := packageCaptures?_eq_some_iff.1 hpieces
  obtain ⟨hpackage, rfl⟩ := Captures.target_none_eq_ok_iff.1 htarget
  refine ⟨Captures.wellFormed_page hpackage ?_ ?_ ?_ hfragment, rfl,
    Captures.exists_remainder_page package rfl fun _ => hs⟩ <;> simp [Captures.moduleNames]

theorem wellFormed_of_read?_version (h : Page.version.read? package remainder = some t) :
    t.WellFormed ∧ t.package = package ∧ ∃ s, t.Allows s ∧ remainder = t.remainder s := by
  obtain ⟨path, fragment, rfl, hmark, hfragment, c, hpieces, htarget⟩ :=
    read?_shape_eq_some_iff.1 h
  obtain ⟨version, s, hversion, rfl, rfl⟩ := (versionCaptures?_eq_some_iff hmark).1 hpieces
  obtain ⟨hpackage, rfl⟩ := Captures.target_none_eq_ok_iff.1 htarget
  refine ⟨Captures.wellFormed_page hpackage ?_ ?_ ?_ hfragment, rfl,
    Captures.exists_remainder_page package rfl nofun⟩ <;> simp [Captures.moduleNames, hversion]

theorem wellFormed_of_read?_modules (h : Page.modules.read? package remainder = some t) :
    t.WellFormed ∧ t.package = package ∧ ∃ s, t.Allows s ∧ remainder = t.remainder s := by
  obtain ⟨path, fragment, rfl, hmark, hfragment, c, hpieces, htarget⟩ :=
    read?_shape_eq_some_iff.1 h
  obtain ⟨version, crate, names, s, hversion, hnames, rfl, hc⟩ :=
    (moduleCaptures?_eq_some_iff hmark).1 hpieces
  obtain ⟨hcrate, hmodules⟩ := List.forall_mem_cons.1 hnames
  have hmoduleNames : c.moduleNames = names := Captures.moduleNames_pathOf (by rw [hc]) hmodules
  have hremainder := Captures.exists_remainder_page (c := c) (s := s) package (by rw [hc])
    (by simp [hc])
  rw [hmoduleNames] at hremainder
  subst hc
  obtain ⟨hpackage, rfl⟩ := Captures.target_none_eq_ok_iff.1 htarget
  refine ⟨Captures.wellFormed_page hpackage ?_ ?_ ?_ hfragment, rfl, hremainder⟩
  · simp [hversion]
  · simp [hcrate]
  · rw [hmoduleNames]
    exact fun name hname => ⟨hmodules name hname, rfl⟩

theorem wellFormed_of_read?_item (h : Page.item.read? package remainder = some t) :
    t.WellFormed ∧ t.package = package ∧ ∃ s, t.Allows s ∧ remainder = t.remainder s := by
  obtain ⟨path, fragment, rfl, hmark, hfragment, c, hpieces, htarget⟩ :=
    read?_shape_eq_some_iff.1 h
  obtain ⟨version, crate, names, i, hversion, hnames, hname, rfl, hc⟩ :=
    (itemCaptures?_eq_some_iff hmark).1 hpieces
  obtain ⟨hcrate, hmodules⟩ := List.forall_mem_cons.1 hnames
  have hmoduleNames : c.moduleNames = names := Captures.moduleNames_pathOf (by rw [hc]) hmodules
  subst hc
  rw [Option.bind_some, ItemKind.ofWord?_word] at htarget
  obtain ⟨hpackage, hanchor, hmember, hbare, ht⟩ :=
    (Captures.target_some_eq_ok_iff rfl hname.1.1 fun f hf => (hfragment f hf).2).1 htarget
  -- `ht` has the target on both sides, so its parts are read off one by one.
  have htpackage : t.package = package := by rw [ht]; rfl
  have htversion : t.version = some version := by rw [ht]; rfl
  have htcrate : t.crate = some crate := by rw [ht]; rfl
  have htmodules : t.modules = names := by rw [ht]; exact hmoduleNames
  have htitem : t.item = some i := by rw [ht]
  have htindex : t.index = false := by rw [ht]; rfl
  simp only at hanchor
  refine ⟨?_, htpackage, .slash, fun _ => rfl, ?_⟩
  · constructor
    case member =>
      intro m hm
      obtain ⟨hallows, hne, hnone⟩ := hmember m hm
      have hline : IsFragment m.anchor :=
        hfragment m.anchor (by rw [hanchor, Target.anchor?, hm]; rfl)
      exact ⟨⟨i, htitem, hallows⟩, ⟨hne, fun h => hline.2 (by simp [Member.anchor, h])⟩, hnone⟩
    case fragment =>
      intro f hf
      refine ⟨hfragment f ?_, fun _ => hbare f hf⟩
      cases hm : t.member with
      | none => rw [hanchor, Target.anchor?, hm, hf]; rfl
      | some m =>
        rw [(hmember m hm).2.2] at hf
        cases hf
    all_goals simp [htpackage, htversion, htcrate, htmodules, htitem, htindex, hpackage, hversion,
      hcrate, hname]
    exact hmodules
  · simp [Target.remainder, Target.steps, htversion, htcrate, htmodules, htitem, htindex, hanchor]

/-- What a page reads is a well-formed target, and its address the one read. -/
theorem wellFormed_of_read? {s : Shape} (hs : s ∈ all)
    (h : s.read? package remainder = some t) :
    t.WellFormed ∧ t.package = package ∧ ∃ s, t.Allows s ∧ remainder = t.remainder s := by
  simp only [all, List.mem_cons, List.not_mem_nil, or_false] at hs
  rcases hs with rfl | rfl | rfl | rfl
  · exact wellFormed_of_read?_item h
  · exact wellFormed_of_read?_modules h
  · exact wellFormed_of_read?_version h
  · exact wellFormed_of_read?_package h

end Page

namespace Target

variable {t : Target}

theorem WellFormed.isFragment_anchor? (ht : t.WellFormed) : ∀ f ∈ t.anchor?, IsFragment f := by
  intro f hf
  cases hm : t.member with
  | none =>
    rw [anchor?, hm] at hf
    exact (ht.fragment f hf).1
  | some m =>
    rw [anchor?, hm] at hf
    obtain rfl := Option.some.inj hf
    have hline : '\n' ∉ m.name := (ht.member m hm).2.1.2
    have hword : '\n' ∉ m.kind.word := by cases m.kind <;> decide
    exact ⟨by simp [Member.anchor], by simp [Member.anchor, hline, hword]⟩

theorem WellFormed.areSteps (ht : t.WellFormed) (s : IndexSpelling) :
    Page.AreSteps (t.steps s) := by
  have hversion : Page.AreSteps t.version.toList := fun step hstep =>
    (ht.isSegment_version step (by simpa using hstep)).2
  have hcrate : Page.AreSteps t.crate.toList :=
    Page.areSteps_of_isName fun step hstep => ht.isName_crate step (by simpa using hstep)
  have hitem : Page.AreSteps (t.item.map Item.file).toList := by
    cases hi : t.item with
    | none => simp [Page.AreSteps]
    | some i => exact Page.areSteps_file (ht.isName_item i hi)
  rw [steps, ← IndexSpelling.steps_ite]
  simp only [Page.areSteps_append]
  exact ⟨⟨⟨⟨hversion, hcrate⟩, Page.areSteps_of_isName ht.isName_modules⟩, hitem⟩,
    Page.areSteps_index _⟩

theorem WellFormed.mark_notMem (ht : t.WellFormed) (s : IndexSpelling) :
    '#' ∉ Page.pathOf (t.steps s) := fun hmark => by
  obtain ⟨step, hstep, hmem⟩ := (Page.mem_pathOf (by decide)).1 hmark
  exact (ht.areSteps s step hstep).2 hmem

theorem WellFormed.crate_eq_none (ht : t.WellFormed) (hversion : t.version = none) :
    t.crate = none := by
  have h := ht.version_of_crate
  rw [hversion] at h
  simpa using h

theorem WellFormed.inner_eq_nil (ht : t.WellFormed) (hcrate : t.crate = none) :
    t.modules = [] ∧ t.item = none := by
  have h := ht.crate_of_inner
  rw [hcrate] at h
  simpa using h

theorem WellFormed.member_eq_none (ht : t.WellFormed) (hitem : t.item = none) :
    t.member = none := by
  have h := ht.member
  rw [hitem] at h
  simpa [Option.eq_none_iff_forall_not_mem] using h

end Target

namespace Page

variable {t : Target} {s : IndexSpelling}

theorem read?_package_remainder (ht : t.WellFormed) (hs : t.Allows s)
    (hversion : t.version = none) :
    Page.package.read? t.package (t.remainder s) = some t := by
  have hcrate := ht.crate_eq_none hversion
  obtain ⟨hmodules, hitem⟩ := ht.inner_eq_nil hcrate
  have hmember := ht.member_eq_none hitem
  refine read?_shape_eq_some_iff.2 ⟨_, _, rfl, ht.mark_notMem s, ht.isFragment_anchor?, _,
    packageCaptures?_eq_some_iff.2 ⟨if t.index then some s else none, ?_, ?_, rfl⟩,
    Captures.target_none_eq_ok_iff.2 ⟨ht.package_ne_nil, ?_⟩⟩
  · rw [hs hversion]
    split <;> simp
  · rw [IndexSpelling.steps_ite]
    simp [Target.steps, hversion, hcrate, hmodules, hitem]
  · have hfragment := Target.anchor?_of_member hmember
    have hindex := IndexSpelling.isPresent_ite t.index s
    exact Captures.page_eq hversion.symm hcrate.symm hmodules.symm hfragment hindex hitem hmember

theorem read?_version_remainder (ht : t.WellFormed) {version : Text}
    (hversion : t.version = some version) (hcrate : t.crate = none) :
    Page.version.read? t.package (t.remainder s) = some t := by
  obtain ⟨hmodules, hitem⟩ := ht.inner_eq_nil hcrate
  have hmember := ht.member_eq_none hitem
  have hmark := ht.mark_notMem s
  refine read?_shape_eq_some_iff.2 ⟨_, _, rfl, hmark, ht.isFragment_anchor?, _,
    (versionCaptures?_eq_some_iff hmark).2 ⟨version, if t.index then some s else none,
      ht.isSegment_version version hversion, ?_, rfl⟩,
    Captures.target_none_eq_ok_iff.2 ⟨ht.package_ne_nil, ?_⟩⟩
  · rw [IndexSpelling.steps_ite]
    simp [Target.steps, hversion, hcrate, hmodules, hitem]
  · have hfragment := Target.anchor?_of_member hmember
    have hindex := IndexSpelling.isPresent_ite t.index s
    exact Captures.page_eq hversion.symm hcrate.symm hmodules.symm hfragment hindex hitem hmember

theorem read?_modules_remainder (ht : t.WellFormed) {version crate : Text}
    (hversion : t.version = some version) (hcrate : t.crate = some crate) (hitem : t.item = none) :
    Page.modules.read? t.package (t.remainder s) = some t := by
  have hmember := ht.member_eq_none hitem
  have hmark := ht.mark_notMem s
  have hnames : ∀ name ∈ crate :: t.modules, IsName name :=
    List.forall_mem_cons.2 ⟨ht.isName_crate crate hcrate, ht.isName_modules⟩
  refine read?_shape_eq_some_iff.2 ⟨_, _, rfl, hmark, ht.isFragment_anchor?, _,
    (moduleCaptures?_eq_some_iff hmark).2 ⟨version, crate, t.modules,
      if t.index then some s else none, ht.isSegment_version version hversion, hnames, ?_, rfl⟩,
    Captures.target_none_eq_ok_iff.2 ⟨ht.package_ne_nil, ?_⟩⟩
  · rw [IndexSpelling.steps_ite]
    simp [Target.steps, hversion, hcrate, hitem]
  · have hfragment := Target.anchor?_of_member hmember
    have hindex := IndexSpelling.isPresent_ite t.index s
    exact Captures.page_eq hversion.symm hcrate.symm
      (Captures.moduleNames_pathOf rfl ht.isName_modules) hfragment hindex hitem hmember

theorem read?_item_remainder (ht : t.WellFormed) {version crate : Text} {i : Item}
    (hversion : t.version = some version) (hcrate : t.crate = some crate)
    (hitem : t.item = some i) : Page.item.read? t.package (t.remainder s) = some t := by
  have hindex : t.index = false := ht.index_of_item (by simp [hitem])
  have hmark := ht.mark_notMem s
  have hnames : ∀ name ∈ crate :: t.modules, IsName name :=
    List.forall_mem_cons.2 ⟨ht.isName_crate crate hcrate, ht.isName_modules⟩
  have hname := ht.isName_item i hitem
  have hmember : ∀ m ∈ t.member, i.kind.allows m.kind ∧ m.name ≠ [] ∧ t.fragment = none := by
    intro m hm
    obtain ⟨⟨i', hi', hallows⟩, hline, hnone⟩ := ht.member m hm
    obtain rfl := Option.some.inj (hitem.symm.trans hi')
    exact ⟨hallows, hline.1, hnone⟩
  have hbare : ∀ f ∈ t.fragment, ∀ m : Member, m.name ≠ [] → f ≠ m.anchor := fun f hf =>
    (ht.fragment f hf).2 (by simp [hitem])
  refine read?_shape_eq_some_iff.2 ⟨_, _, rfl, hmark, ht.isFragment_anchor?, _,
    (itemCaptures?_eq_some_iff hmark).2 ⟨version, crate, t.modules, i,
      ht.isSegment_version version hversion, hnames, hname, ?_, rfl⟩, ?_⟩
  · simp [Target.steps, hversion, hcrate, hitem, hindex]
  · rw [Option.bind_some, ItemKind.ofWord?_word]
    have hline : ∀ f ∈ t.anchor?, '\n' ∉ f := fun f hf => (ht.isFragment_anchor? f hf).2
    refine (Captures.target_some_eq_ok_iff rfl hname.1.1 hline).2
      ⟨ht.package_ne_nil, rfl, hmember, hbare, ?_⟩
    rw [Captures.page, Captures.moduleNames_pathOf rfl ht.isName_modules]
    obtain ⟨package, version, crate, modules, item, member, fragment, index⟩ := t
    simp only at hversion hcrate hitem hindex
    subst hversion hcrate hitem hindex
    rfl

/-- One of the pages reads the address of a well-formed target. -/
theorem exists_read?_remainder (ht : t.WellFormed) (hs : t.Allows s) :
    ∃ page ∈ all, page.read? t.package (t.remainder s) = some t := by
  cases hversion : t.version with
  | none => exact ⟨Page.package, by simp [all], read?_package_remainder ht hs hversion⟩
  | some version =>
    cases hcrate : t.crate with
    | none => exact ⟨Page.version, by simp [all], read?_version_remainder ht hversion hcrate⟩
    | some crate =>
      cases hitem : t.item with
      | none =>
        exact ⟨modules, by simp [all], read?_modules_remainder ht hversion hcrate hitem⟩
      | some i => exact ⟨item, by simp [all], read?_item_remainder ht hversion hcrate hitem⟩

/-- What the pages read are the addresses of well-formed targets. -/
theorem exists_read?_iff {package remainder : Text} :
    (∃ page ∈ all, page.read? package remainder = some t) ↔
      t.WellFormed ∧ t.package = package ∧ ∃ s, t.Allows s ∧ remainder = t.remainder s := by
  constructor
  · rintro ⟨page, hpage, h⟩
    exact wellFormed_of_read? hpage h
  · rintro ⟨ht, rfl, s, hs, rfl⟩
    exact exists_read?_remainder ht hs

end Page

end CrateDocs
