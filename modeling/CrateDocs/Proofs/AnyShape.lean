import CrateDocs.Link.Layout
import CrateDocs.Proofs.InnerLink

namespace CrateDocs

/-!
# Targets of any shape

Whatever pieces a shape finds, what it makes of them keeps the rules of targets.

* `Captures.Yields` — what the pieces tell about a target that is made of them;
* `Captures.yields_of_target` — it holds of each of them, because of how a target is put together
  and of what is checked then;
* `Captures.target_of_anchor` — the anchor of a member becomes this member, or there is no target;
* `Shape.parse_yields` — both of what any shape finds in any remainder.
-/

namespace Captures

/-- What the pieces `c` tell about a target of `package` that is made of them. -/
structure Yields (c : Captures) (package : Text) (t : Target) : Prop where
  package_eq : t.package = package
  package_ne_nil : t.package ≠ []
  /-- the modules are what stands between the slashes, without the empty steps -/
  modules : ∃ steps : List Text, steps ≠ [] ∧ (∀ step ∈ steps, '/' ∉ step) ∧
    c.modules.getD [] = ['/'].intercalate steps ∧ t.modules = steps.filter (· ≠ [])
  step_of_modules : ∀ name ∈ t.modules, name ≠ [] ∧ '/' ∉ name
  name_of_item : ∀ i ∈ t.item, i.name ≠ []
  member : ∀ m ∈ t.member,
    m.name ≠ [] ∧ (∃ i ∈ t.item, i.kind.allows m.kind) ∧ t.fragment = none
  /-- what is left as a fragment is not the anchor of a member -/
  fragment : t.item.isSome → ∀ m : Member, m.name ≠ [] → t.fragment ≠ some m.anchor
  /-- the anchor of a member has become this member -/
  member_of_anchor : t.item.isSome → ∀ m : Member, m.name ≠ [] → c.fragment = some m.anchor →
    t.member = some m

variable {c : Captures} {package : Text} {kind : Option ItemKind} {t : Target}

/-! ### Modules -/

theorem exists_steps_moduleNames (c : Captures) :
    ∃ steps : List Text, steps ≠ [] ∧ (∀ step ∈ steps, '/' ∉ step) ∧
      c.modules.getD [] = ['/'].intercalate steps ∧ c.moduleNames = steps.filter (· ≠ []) := by
  obtain ⟨hne, hsteps, hjoin⟩ := Text.splitOn_eq_iff.1 (rfl : (c.modules.getD []).splitOn '/' = _)
  exact ⟨_, hne, hsteps, hjoin, rfl⟩

theorem step_of_mem_moduleNames {name : Text} (h : name ∈ c.moduleNames) :
    name ≠ [] ∧ '/' ∉ name := by
  obtain ⟨steps, -, hsteps, -, hnames⟩ := c.exists_steps_moduleNames
  rw [hnames, List.mem_filter, decide_eq_true_iff] at h
  exact ⟨h.2, hsteps name h.1⟩

/-! ### Items and members -/

/-- Without an item, the pieces tell about the modules and nothing more. -/
theorem yields_page (h : package ≠ []) : c.Yields package (c.page package) where
  package_eq := rfl
  package_ne_nil := h
  modules := c.exists_steps_moduleNames
  step_of_modules _ := step_of_mem_moduleNames
  name_of_item := nofun
  member := nofun
  fragment := nofun
  member_of_anchor := nofun

/-- What is made of the pieces keeps the rules, whatever the pieces are. -/
theorem yields_of_target (hline : ∀ f ∈ c.fragment, '\n' ∉ f)
    (h : c.target package kind = .ok t) : c.Yields package t := by
  cases kind with
  | none =>
    obtain ⟨hpackage, rfl⟩ := target_none_eq_ok_iff.1 h
    exact yields_page hpackage
  | some kind =>
    obtain ⟨i, rfl, hname, hne⟩ := exists_item_of_target h
    obtain ⟨hpackage, hanchor, hmember, hbare, ht⟩ := (target_some_eq_ok_iff hname hne hline).1 h
    have hitem : t.item = some i := by rw [ht]
    have hmodules : t.modules = c.moduleNames := by rw [ht]; rfl
    have heq : t.package = package := by rw [ht]; rfl
    refine
      { package_eq := heq
        package_ne_nil := heq ▸ hpackage
        modules := hmodules ▸ c.exists_steps_moduleNames
        step_of_modules := fun _ hmem => step_of_mem_moduleNames (hmodules ▸ hmem)
        name_of_item := ?_
        member := ?_
        fragment := fun _ m hm hf => hbare _ hf m hm rfl
        member_of_anchor := ?_ }
    · intro j hj
      obtain rfl := Option.some.inj (hitem.symm.trans hj)
      exact hne
    · intro m hm
      obtain ⟨hallows, hmne, hrest⟩ := hmember m hm
      exact ⟨hmne, ⟨i, hitem, hallows⟩, hrest⟩
    · intro _ m hm hf
      have htext : t.anchor? = some m.anchor := hanchor ▸ hf
      cases htmember : t.member with
      | none =>
        rw [Target.anchor?_of_member htmember] at htext
        exact absurd rfl (hbare _ htext m hm)
      | some m' =>
        rw [Target.anchor?, htmember, Option.some.injEq] at htext
        rw [Member.anchor_injective htext]

/-- An item whose name is found is a target with the member that the fragment is the anchor of, if
it can have this member. -/
theorem target_eq_ok_of_anchor {i : Item} {m : Member} (hpackage : package ≠ [])
    (hname : c.name = some i.name) (hne : i.name ≠ []) (hfragment : c.fragment = some m.anchor)
    (hline : '\n' ∉ m.anchor) (hm : m.name ≠ []) (hallows : i.kind.allows m.kind) :
    c.target package (some i.kind) = .ok { c.page package with
      item := some i
      member := some m
      fragment := none } := by
  refine (target_some_eq_ok_iff hname hne ?_).2 ⟨hpackage, hfragment, ?_, nofun, rfl⟩
  · rintro f hf
    obtain rfl := Option.some.inj (hfragment.symm.trans hf)
    exact hline
  · rintro n ⟨⟩
    exact ⟨hallows, hm, rfl⟩

/-- The anchor of a member becomes this member, or else there is no target: the package or the item
has no name, or the item cannot have the member. -/
theorem target_of_anchor {kind : ItemKind} {m : Member} (hfragment : c.fragment = some m.anchor)
    (hline : '\n' ∉ m.anchor) (hm : m.name ≠ []) :
    (∃ t, c.target package (some kind) = .ok t ∧ t.item.map (·.kind) = some kind ∧
      t.member = some m ∧ t.fragment = none) ∨
    ((c.target package (some kind)).toOption = none ∧
      (package = [] ∨ isPresent c.name = false ∨ kind.allows m.kind = false)) := by
  cases htarget : c.target package (some kind) with
  | ok t =>
    have hyields : c.Yields package t := yields_of_target (by simpa [hfragment] using hline) htarget
    obtain ⟨i, rfl, hname, hne⟩ := exists_item_of_target htarget
    -- There is an item, so the anchor is not left as a fragment.
    rw [target_some_eq hname hne] at htarget
    have hitem : t.item = some i := by rw [Target.eq_of_check htarget]
    have hmember := hyields.member_of_anchor (by simp [hitem]) m hm hfragment
    exact .inl ⟨t, rfl, by rw [hitem]; rfl, hmember, (hyields.member m hmember).2.2⟩
  | error issues =>
    refine .inr ⟨rfl, ?_⟩
    by_contra hrefused
    simp only [not_or, Bool.not_eq_false] at hrefused
    obtain ⟨hpackage, hpresent, hallows⟩ := hrefused
    obtain ⟨name, hname⟩ : ∃ name, c.name = some name := by
      cases h : c.name <;> simp_all [isPresent]
    have hne : name ≠ [] := by simpa [isPresent, hname] using hpresent
    rw [target_eq_ok_of_anchor (i := ⟨kind, name⟩) hpackage hname hne hfragment hline hm hallows]
      at htarget
    cases htarget

end Captures

namespace Shape

variable {s : Shape} {package remainder : Text}

/-- **The targets of every shape keep the rules.** If the fragments that it finds are on a single
line, what it makes of the pieces has the package and the modules that they name, items with names,
members on items that can have them and no anchor of a member left as the fragment of an item. The
anchor of a member on the page of an item becomes this member, or nothing is found. -/
theorem parse_yields
    (hline : ∀ c, s.captures? remainder = some c → ∀ f ∈ c.fragment, '\n' ∉ f) :
    (∀ t, (s.parse package remainder).result = .ok (some t) →
      ∃ c, s.captures? remainder = some c ∧ c.Yields package t) ∧
    ∀ (c : Captures) (kind : ItemKind) (m : Member), s.captures? remainder = some c →
      c.kind = some kind.word → c.fragment = some m.anchor → m.name ≠ [] →
      (∃ t, (s.parse package remainder).result = .ok (some t) ∧ t.item.map (·.kind) = some kind ∧
        t.member = some m ∧ t.fragment = none) ∨
      ((s.parse package remainder).result = .ok none ∧
        (package = [] ∨ isPresent c.name = false ∨ kind.allows m.kind = false)) := by
  constructor
  · intro t h
    obtain ⟨c, kind, hc, htarget⟩ := exists_target_of_parse h
    exact ⟨c, hc, Captures.yields_of_target (hline c hc) htarget⟩
  · intro c kind m hc hkind hfragment hm
    have hparse : (s.parse package remainder).result =
        .ok (c.target package (some kind)).toOption := by
      rw [result_parse, read?, hc]
      · simp [hkind, ItemKind.ofWord?_word]
      · intro c' hc'
        obtain rfl := Option.some.inj (hc.symm.trans hc')
        exact .inr ⟨kind, hkind⟩
    rw [hparse]
    rcases Captures.target_of_anchor hfragment (hline c hc _ hfragment) hm with
      ⟨t, htarget, hparts⟩ | ⟨hnone, hwhy⟩
    · exact .inl ⟨t, by rw [htarget]; rfl, hparts⟩
    · exact .inr ⟨by rw [hnone], hwhy⟩

/-- A layout that captures no version and no crate finds a variant below the package. -/
theorem parse_yields_variant :
    (∀ c, Layout.bareItem.captures? "/enum.Foo.html#variant.Bar".toList = some c →
      ∀ f ∈ c.fragment, '\n' ∉ f) ∧
    ∃ t c, (Layout.bareItem.parse "foo".toList "/enum.Foo.html#variant.Bar".toList).result
        = .ok (some t) ∧
      Layout.bareItem.captures? "/enum.Foo.html#variant.Bar".toList = some c ∧
      c.Yields "foo".toList t ∧ t.member = some ⟨.variant, "Bar".toList⟩ ∧ t.fragment = none := by
  have hc : Layout.bareItem.captures? "/enum.Foo.html#variant.Bar".toList = some
      { kind := some "enum".toList
        name := some "Foo".toList
        fragment := some "variant.Bar".toList } := by decide
  have hline : ∀ c, Layout.bareItem.captures? "/enum.Foo.html#variant.Bar".toList = some c →
      ∀ f ∈ c.fragment, '\n' ∉ f := by
    intro c h
    obtain rfl := Option.some.inj (hc.symm.trans h)
    decide
  refine ⟨hline, ?_⟩
  have hyields := @parse_yields _ "foo".toList _ hline
  rcases hyields.2 _ .enum ⟨.variant, "Bar".toList⟩ hc (by decide) (by decide) (by decide) with
    ⟨t, hparse, -, hmember, hfragment⟩ | ⟨-, hwhy⟩
  · obtain ⟨c, hc', hparts⟩ := hyields.1 t hparse
    exact ⟨t, c, hparse, hc', hparts, hmember, hfragment⟩
  · exact absurd hwhy (by decide)

end Shape

end CrateDocs
