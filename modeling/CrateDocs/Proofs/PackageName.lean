import CrateDocs.Command.Run
import CrateDocs.Proofs.Packages
import CrateDocs.Proofs.Recognition
import CrateDocs.Proofs.SameLink

namespace CrateDocs

/-!
# Package names in link definitions

The settings take a name for that of a package if it is not empty, has no `/` in it and no white
space at its ends. White space within it is let through, though no address of a link definition can
hold any: the links of such a package are never recognised.

* `PackageName.address_of_ofValue` — the name that was let through is the one that is looked for;
* `Policy.convert_link` — what becomes of the definition of a link that is recognised;
* `Policy.isForeign_of_not_isSolid` — no line links to a package whose name has white space in it;
* `Policy.prefix_of_convert` — a document that starts as such a definition then starts like that
  when it was converted;
* `Policy.convert_link_iff` — the names whose links are recognised.
-/

/-- The name that was let through is the one that is looked for in addresses. -/
theorem PackageName.address_of_ofValue {name : Text} {accepted : PackageName}
    (h : ofValue (.text name) = .ok accepted) : accepted.address = name := by
  have hread : (Value.text name).toSpelling = .ok (Text.spelling name) := rfl
  have hspelling : accepted.spelling = Text.spelling name := by
    rw [ofValue, hread] at h
    simp only [make?, bind, Except.bind] at h
    by_cases hname : Text.spelling name ≠ [] ∧ .char '/' ∉ Text.spelling name ∧
        Text.trim (Text.spelling name).shown = (Text.spelling name).shown
    · rw [dif_pos hname] at h
      cases h
      rfl
    · rw [dif_neg hname] at h
      cases h
  rw [address, hspelling, Spelling.text?_spelling, Option.getD_some]

/-- A line that gives an address without white space to a label is the definition of that link. -/
theorem LinkDefinition.ofLine?_of_isSolid {url : Text} (hne : url ≠ []) (hurl : Text.IsSolid url) :
    '\n' ∉ "[x]: ".toList ++ url ∧
      ofLine? ("[x]: ".toList ++ url) = some ⟨"[x]: ".toList, url, []⟩ := by
  have hline : '\n' ∉ "[x]: ".toList ++ url := by
    rw [List.mem_append, not_or]
    exact ⟨by decide, hurl.lf_notMem⟩
  have hhead : IsHead "[x]: ".toList :=
    ⟨[], ['x'], [' '], List.forall_mem_nil _, by decide, by decide, by decide, rfl⟩
  refine ⟨hline, (ofLine?_eq_some_iff hline).2 ⟨⟨hhead, hne, hurl, ?_⟩, (List.append_nil _).symm⟩⟩
  intro c hc
  cases hc

namespace Policy

open Text Context Line

variable {p : Policy} {line name remainder : Text} {l : Line} {t : Target}

/-- No line links to a package whose name has white space in it. -/
theorem isForeign_of_not_isSolid (hname : ¬ IsSolid p.package) (hline : '\n' ∉ line) :
    p.IsForeign line := by
  intro d hd
  obtain ⟨hcut, -⟩ := (LinkDefinition.ofLine?_eq_some_iff hline).1 hd
  by_contra hpackage
  rw [Bool.not_eq_false] at hpackage
  obtain ⟨rest, hrest⟩ := Option.isSome_iff_exists.1 hpackage
  obtain ⟨hurl, -⟩ := Url.remainder?_eq_some_iff.1 hrest
  -- The name is a part of the address, which has no white space in it.
  have hsubset : p.package ⊆ d.url := by
    rw [hurl]
    exact List.subset_append_of_subset_left rest (List.subset_append_right _ _)
  exact hname (hcut.url_solid.of_subset hsubset)

/-- A first line that starts with a bracket is no code and no header. -/
theorem part_nil_of_bracket (hl : l.body.head? = some '[') :
    p.part [] l = (p.relink 1 l.body).result.map (· ++ l.ending.raw) := by
  obtain ⟨rest, hbody⟩ := List.head?_eq_some_iff.1 hl
  have hfence : Fence.isFence l.body = false := by
    rw [hbody, Fence.isFence, trimStart, List.dropWhile_cons_of_neg (by decide)]
    rfl
  have hcode : isCode [] l.body = false := by
    rw [← Position.isVerbatim_after, Fence.isVerbatim, hfence]
    rfl
  have hdepth : Header.depth? l.body = none := by
    simp [hbody, Header.depth?]
  have hgap : (isAllBlank l.body && endsInTitle []) = false := Bool.and_false _
  rw [part, hcode, hdepth]
  simp only [hgap]
  rfl

/-- The address of what a page reads in its remainder is recognised. -/
theorem recognises_of_parse (hp : p.registry = .default) {s : Shape} (hs : s ∈ Page.all)
    (hparse : (s.parse p.package remainder).result = .ok (some t)) :
    p.Recognises (Url.host ++ p.package ++ remainder) t := by
  rw [Page.result_parse hs, Except.ok.injEq] at hparse
  obtain ⟨-, -, spelling, -, hremainder⟩ := Page.wellFormed_of_read? hs hparse
  have hend : Url.endsPackage remainder = true := by
    rw [hremainder]
    exact t.endsPackage_remainder spelling
  unfold Recognises
  rw [hp, Registry.find_default_eq_some_iff]
  exact ⟨remainder, Url.remainder?_eq_some_iff.2 ⟨rfl, hend⟩, s, hs, hparse⟩

/-- The definition of a link to an address without white space is a document of one line, which is
relinked. -/
theorem convert_link {url : Text} (hversion : p.version = none) (hcrate : p.crate = none)
    (hne : url ≠ []) (hurl : IsSolid url) (ht : p.Recognises url t) :
    (p.convert ("[x]: ".toList ++ url)).result = .ok ("[x]: ".toList ++ t.render) := by
  obtain ⟨hline, hd⟩ := LinkDefinition.ofLine?_of_isSolid hne hurl
  have hlines : ofText ("[x]: ".toList ++ url) = [⟨"[x]: ".toList ++ url, .none⟩] :=
    ofText_of_notMem hline (List.append_ne_nil_of_left_ne_nil (by decide) url)
  have hbracket : ("[x]: ".toList ++ url).head? = some '[' := by
    rw [List.head?_append]
    rfl
  have hpart : p.part [] ⟨"[x]: ".toList ++ url, .none⟩ = .ok ("[x]: ".toList ++ t.render) := by
    rw [part_nil_of_bracket hbracket, result_relink_of_recognises hversion hcrate hd ht]
    simp [Except.map, LinkDefinition.withUrl, Ending.raw]
  rw [result_convert, hlines, parts_cons, parts_nil, hpart, joinParts_ok_cons_eq_ok_iff]
  exact ⟨[], rfl, (List.append_nil _).symm⟩

/-- The start of a link definition to an address stays where it is if no line links to the
package. -/
theorem prefix_of_convert {start rest out : Text} (hname : ¬ IsSolid p.package)
    (hbracket : start.head? = some '[') (hlf : '\n' ∉ start) (hcr : '\r' ∉ start)
    (h : (p.convert (start ++ rest)).result = .ok out) : start <+: out := by
  have hne : start ≠ [] := by
    rintro rfl
    cases hbracket
  obtain ⟨first, others, hlines, hstarts⟩ := exists_ofText_append hne hlf hcr rest
  have hfits : first.Fits := (areLines_ofText (start ++ rest)).fits first (by simp [hlines])
  have hrelink : p.relink 1 first.body = pure first.body :=
    relink_of_not_isOfPackage 1 (isForeign_of_not_isSolid hname hfits.lf_notMem)
  have hhead : first.body.head? = some '[' := by
    obtain ⟨more, hmore⟩ := hstarts
    rw [← hmore, List.head?_append, hbracket]
    rfl
  have hpart : p.part [] first = .ok first.raw := by
    rw [part_nil_of_bracket hhead, hrelink]
    rfl
  rw [result_convert, hlines, parts_cons, hpart, joinParts_ok_cons_eq_ok_iff] at h
  obtain ⟨texts, -, rfl⟩ := h
  have hraw : first.body <+: first.raw := List.prefix_append first.body _
  exact (hstarts.trans hraw).trans (List.prefix_append first.raw texts)

/-- **The names of packages whose links are recognised.** Of the names that the settings let
through, these are the ones without white space: what a page reads after such a name becomes the
link to it, without expectations. To a package of another name no line links, and each stays as it
is. -/
theorem convert_link_iff {accepted : PackageName} {s : Shape}
    (haccepted : PackageName.ofValue (.text name) = .ok accepted)
    (hpackage : p.package = accepted.address) (hregistry : p.registry = .default)
    (hversion : p.version = none) (hcrate : p.crate = none) (hs : s ∈ Page.all)
    (hremainder : IsSolid remainder)
    (hparse : (s.parse name remainder).result = .ok (some t)) :
    ((p.convert ("[x]: ".toList ++ (Url.host ++ name ++ remainder))).result
        = .ok ("[x]: ".toList ++ t.render) ↔ IsSolid name) ∧
      (¬ IsSolid name → ∀ line, '\n' ∉ line → ∀ number : Int,
        p.relink number line = pure line) := by
  obtain rfl : p.package = name := hpackage.trans (PackageName.address_of_ofValue haccepted)
  refine ⟨⟨fun hconvert => ?_, fun hname => ?_⟩, fun hname line hline number => ?_⟩
  · by_contra hname
    have hstart : "[x]: ".toList ++ (Url.host ++ p.package ++ remainder)
        = ("[x]: ".toList ++ Url.host) ++ (p.package ++ remainder) := by
      simp only [List.append_assoc]
    rw [hstart] at hconvert
    have hstarts : "[x]: ".toList ++ Url.host <+: "[x]: ".toList ++ t.render :=
      prefix_of_convert hname (by decide) (by decide) (by decide) hconvert
    -- A link within the crate does not start as an address does.
    obtain ⟨link, hlink⟩ := t.exists_render_eq
    rw [List.prefix_append_right_inj, hlink] at hstarts
    obtain ⟨more, hmore⟩ := hstarts
    cases hmore
  · have hhost : IsSolid Url.host := by decide +kernel
    have hurl : IsSolid (Url.host ++ p.package ++ remainder) :=
      isSolid_append.2 ⟨isSolid_append.2 ⟨hhost, hname⟩, hremainder⟩
    exact convert_link hversion hcrate (List.cons_ne_nil _ _) hurl
      (recognises_of_parse hregistry hs hparse)
  · exact relink_of_not_isOfPackage number (isForeign_of_not_isSolid hname hline)

/-- A `#` in the name does not hide the package. -/
theorem convert_link_iff_mark :
    (convert ⟨"a#b".toList, by decide, none, none, false, .default⟩
        ("[x]: ".toList ++ (Url.host ++ "a#b".toList ++ "/#f".toList))).result
      = .ok ("[x]: ".toList ++ "crate#f".toList) := by
  have haccepted : PackageName.ofValue (.text "a#b".toList)
      = .ok ⟨Text.spelling "a#b".toList, by decide, by decide, by decide +kernel⟩ := rfl
  have hpage : Page.package ∈ Page.all := by simp [Page.all]
  have hparse : (Page.package.parse "a#b".toList "/#f".toList).result
      = .ok (some { package := "a#b".toList, fragment := some "f".toList, index := true }) := by
    decide +kernel
  have hsolid : IsSolid "a#b".toList := by decide +kernel
  exact (convert_link_iff (p := ⟨"a#b".toList, by decide, none, none, false, .default⟩) haccepted
    rfl rfl rfl rfl hpage (by decide +kernel) hparse).1.2 hsolid

/-- The settings let a name through with a space in it, and the page of the package reads what
follows it, but the link stays as it is. -/
theorem convert_link_space :
    (PackageName.ofValue (.text "a b".toList)).isOk = true ∧
      (Page.package.parse "a b".toList "/".toList).result
        = .ok (some { package := "a b".toList, index := true }) ∧
      (convert ⟨"a b".toList, by decide, none, none, false, .default⟩
          "[x]: https://docs.rs/a b/".toList).result = .ok "[x]: https://docs.rs/a b/".toList ∧
      Target.render { package := "a b".toList, index := true } = "crate".toList :=
  ⟨by decide +kernel, by decide +kernel, by decide +kernel, by decide +kernel⟩

end Policy

end CrateDocs
