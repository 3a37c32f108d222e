import CrateDocs.Proofs.Relinking

namespace CrateDocs

/-!
# Links of different packages

An address belongs to one package at most. Policies of different packages therefore do not get in
each other's way: a line becomes the same, and the same is told of it, in whichever order they
relink it.

* `Url.isOfPackage_of_ne` — the package of an address is all that stands between the host and the
  next `/` or `#`, so `serde` has no part in the addresses of `serde_json`;
* `Policy.IsForeign.relinked` — a line without a link to the package has none after another policy
  has relinked it either;
* `Policy.relink_comm_of_foreign` — with such a line the one policy does nothing;
* `Policy.relink_comm` — policies of different packages can relink a line in either order.
-/

namespace Url

variable {package other url rest : Text}

/-! ### The package of an address -/

/-- Whether a segment goes on with a character. -/
def goesOn (c : Char) : Bool := c ≠ '/' && c ≠ '#'

theorem IsSegment.goesOn (h : IsSegment package) : ∀ c ∈ package, goesOn c = true := by
  intro c hc
  have hslash : c ≠ '/' := ne_of_mem_of_not_mem hc h.2.1
  have hmark : c ≠ '#' := ne_of_mem_of_not_mem hc h.2.2
  simp [Url.goesOn, hslash, hmark]

/-- A segment does not go on where a package ends. -/
theorem goesOn_of_endsPackage (h : endsPackage rest = true) :
    ∀ c ∈ rest.head?, goesOn c = false := by
  cases rest with
  | nil => exact nofun
  | cons first others =>
    rintro c ⟨⟩
    simpa [goesOn, endsPackage, or_iff_not_imp_left] using h

/-- An address of one package is none of another, though the name of the one may be how that of the
other starts. -/
theorem isOfPackage_of_ne (hpackage : IsSegment package) (hother : IsSegment other)
    (hne : package ≠ other) (h : isOfPackage package url = true) :
    isOfPackage other url = false := by
  by_contra h'
  rw [Bool.not_eq_false] at h'
  obtain ⟨rest, hrest⟩ := Option.isSome_iff_exists.1 h
  obtain ⟨rest', hrest'⟩ := Option.isSome_iff_exists.1 h'
  obtain ⟨hurl, hend⟩ := remainder?_eq_some_iff.1 hrest
  obtain ⟨hurl', hend'⟩ := remainder?_eq_some_iff.1 hrest'
  have hjoin : package ++ rest = other ++ rest' := by
    rw [hurl, List.append_assoc, List.append_assoc] at hurl'
    exact List.append_cancel_left hurl'
  exact hne (Text.cut_unique hpackage.goesOn (goesOn_of_endsPackage hend) hother.goesOn
    (goesOn_of_endsPackage hend') hjoin).1

end Url

namespace Policy

variable {p q : Policy} {line : Text} {d : LinkDefinition} {number number' : Int}

/-! ### Lines without a link to the package -/

/-- Whether `line` defines no link to the package. -/
def IsForeign (p : Policy) (line : Text) : Prop :=
  ∀ d, LinkDefinition.ofLine? line = some d → Url.isOfPackage p.package d.url = false

/-- What a policy puts in the place of an address belongs to no package. -/
theorem isOfPackage_inner {package : Text} (h : Url.isOfPackage package d.url = false) :
    Url.isOfPackage package (q.inner d).url = false := by
  cases htarget : q.target? d.url with
  | none =>
    rw [inner_of_target?_eq_none htarget]
    exact h
  | some t =>
    rw [inner_of_target?_eq_some htarget]
    exact Url.isOfPackage_render package t

theorem IsForeign.relinked (h : p.IsForeign line) (hq : q.registry.Cuts) (hline : '\n' ∉ line) :
    p.IsForeign (q.relinked line) := by
  intro d' hd'
  rw [ofLine?_relinked hq hline, Option.map_eq_some_iff] at hd'
  obtain ⟨d, hd, rfl⟩ := hd'
  exact isOfPackage_inner (h d hd)

/-! ### Two policies on a line -/

/-- On a line without a link to its package, a policy does nothing before or after another one. -/
theorem relink_comm_of_foreign (h : p.IsForeign line) (hq : q.registry.Cuts)
    (hline : '\n' ∉ line) :
    p.relink number line >>= q.relink number' = q.relink number' line >>= p.relink number := by
  have hafter : ∀ out, (q.relink number' line).result = .ok out →
      p.relink number out = pure out := by
    intro out hout
    rw [eq_relinked_of_relink hout]
    exact relink_of_not_isOfPackage number (h.relinked hq hline)
  calc p.relink number line >>= q.relink number'
      = pure line >>= q.relink number' := by rw [relink_of_not_isOfPackage number h]
    _ = q.relink number' line := Report.pure_bind line (q.relink number')
    _ = q.relink number' line >>= pure := (Report.bind_pure _).symm
    _ = q.relink number' line >>= p.relink number :=
        Report.bind_congr fun out hout => (hafter out hout).symm

/-- A line links to one of two packages at most. -/
theorem isForeign_or_isForeign (hp : Url.IsSegment p.package) (hq : Url.IsSegment q.package)
    (hne : p.package ≠ q.package) (line : Text) : p.IsForeign line ∨ q.IsForeign line := by
  by_cases hforeign : p.IsForeign line
  · exact .inl hforeign
  · right
    unfold IsForeign at hforeign
    push Not at hforeign
    obtain ⟨d, hd, hpackage⟩ := hforeign
    rw [ne_eq, Bool.not_eq_false] at hpackage
    intro d' hd'
    obtain rfl := Option.some.inj (hd.symm.trans hd')
    exact Url.isOfPackage_of_ne hp hq hne hpackage

/-- **Policies of different packages do not get in each other's way.** No address belongs to both
packages, and a line can be relinked by the two policies in either order: it becomes the same line
or is refused with the same error, and the same is told on the way. -/
theorem relink_comm (hp : Url.IsSegment p.package) (hq : Url.IsSegment q.package)
    (hne : p.package ≠ q.package) (hpcuts : p.registry.Cuts) (hqcuts : q.registry.Cuts) :
    (∀ url, Url.isOfPackage p.package url = true → Url.isOfPackage q.package url = false) ∧
    ∀ line, '\n' ∉ line → ∀ number number' : Int,
      p.relink number line >>= q.relink number' = q.relink number' line >>= p.relink number := by
  refine ⟨fun url => Url.isOfPackage_of_ne hp hq hne, fun line hline number number' => ?_⟩
  rcases isForeign_or_isForeign hp hq hne line with hforeign | hforeign
  · exact relink_comm_of_foreign hforeign hqcuts hline
  · exact (relink_comm_of_foreign hforeign hpcuts hline).symm

/-- A link to `serde_json` is relinked before the policy of `serde` comes to the line, and after
it. -/
theorem relink_comm_underscore :
    let serde : Policy :=
      ⟨"serde".toList, by decide, some (Text.spelling "2.0".toList), none, true, .default⟩
    let json : Policy := ⟨"serde_json".toList, by decide, none, none, true, .default⟩
    let line := "[v]: https://docs.rs/serde_json/1.0/serde_json/enum.Value.html".toList
    (serde.relink 1 line >>= json.relink 1).result = .ok "[v]: crate::Value".toList ∧
      (json.relink 1 line >>= serde.relink 1).result = .ok "[v]: crate::Value".toList := by
  intro serde json line
  have hcomm : serde.relink 1 line >>= json.relink 1 = json.relink 1 line >>= serde.relink 1 :=
    (relink_comm (p := serde) (q := json) (by decide) (by decide) (by decide)
      Registry.cuts_default Registry.cuts_default).2 line (by decide +kernel) 1 1
  have hjson : (json.relink 1 line >>= serde.relink 1).result = .ok "[v]: crate::Value".toList := by
    decide +kernel
  rw [hcomm]
  exact ⟨hjson, hjson⟩

end Policy

end CrateDocs
