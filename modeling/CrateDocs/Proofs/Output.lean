import CrateDocs.Proofs.Reading

namespace CrateDocs

/-!
# The output of a conversion

What is read in a document that was converted, against what is read in the document.

* `Policy.code_of_convert` — the same code, with the same fences;
* `Policy.definitions_of_convert` — the same link definitions, with the links within the crate in
  the place of the addresses that are recognised;
* `Policy.headers_of_convert` — the same headers one level up, without those of the top level.
-/

namespace Policy

open Context Fence Line

variable {p : Policy} {before lines : List Line} {l l' : Line} {content out : Text}

/-! ### Code -/

theorem rendered_of_isCode (h : isCode before l.body = true) : p.rendered before l = some l := by
  rw [rendered, Position.role_after, if_pos h]

/-- A line that is not code becomes none. -/
theorem code_rendered (before : List Line) (l : Line) :
    ((p.rendered before l).bind fun l' => if isCode before l.body then some l' else none)
      = (if isCode before l.body then some l else none).bind some := by
  by_cases hcode : isCode before l.body = true
  · rw [rendered_of_isCode hcode, Option.bind_some]
    simp [hcode]
  · simp [hcode]

/-- The fences among lines are fences among those that are code. -/
theorem filter_isFence_scan (isOpen : Bool) (lines : List Line) :
    (scan (fun isCode l => if isCode then some l else none) isOpen lines).filter (isFence ·.body)
      = lines.filter (isFence ·.body) := by
  induction lines generalizing isOpen with
  | nil => rfl
  | cons l rest ih =>
    rw [scan, List.filter_append, ih]
    cases hfence : isFence l.body with
    | true => simp [isVerbatim, hfence]
    | false => cases isOpen <;> simp [isVerbatim, hfence]

/-- **The code of the output is the code of the input**, line by line and with all endings. So the
fences are the same, and a block is open at the end of both or of neither. -/
theorem code_of_convert (hp : p.registry = .default) (h : (p.convert content).result = .ok out) :
    Document.code out = Document.code content ∧
      (ofText out).filter (isFence ·.body) = (ofText content).filter (isFence ·.body) ∧
      endsOpen false (ofText out) = endsOpen false (ofText content) := by
  have hr : p.registry.Cuts := hp ▸ Registry.cuts_default
  have hcode : Document.code out = Document.code content := by
    rw [Document.code, scan_of_convert hr h fun before l _ => code_rendered before l,
      List.filterMap_some, ← Document.code]
  refine ⟨hcode, ?_, ?_⟩
  · -- A fence is code, so the fences are found in the code.
    have hfences := congrArg (List.filter (isFence ·.body)) hcode
    rwa [Document.code, filter_isFence_scan, Document.code, filter_isFence_scan] at hfences
  · rw [ofText_of_convert hr h, endsOpen_rendering hr (areLines_ofText content).fits]

/-- An indented block, a line of code that looks like a header, and a block that is not closed. -/
theorem code_of_convert_blocks :
    Document.code "  ```rust\n# code\n  ```\n# Use\n[de]: crate::de\n```\r\nopen".toList
        = [⟨"  ```rust".toList, .lf⟩, ⟨"# code".toList, .lf⟩, ⟨"  ```".toList, .lf⟩,
          ⟨"```".toList, .crlf⟩, ⟨"open".toList, .none⟩] ∧
      endsOpen false
        (ofText "  ```rust\n# code\n  ```\n# Use\n[de]: crate::de\n```\r\nopen".toList) = true := by
  have h : (convert ⟨"serde".toList, by decide, none, none, true, .default⟩
      ("# Serde\n\n  ```rust\n# code\n  ```\n## Use\n" ++
        "[de]: https://docs.rs/serde/1.0/serde/de/\n```\r\nopen").toList).result
      = .ok "  ```rust\n# code\n  ```\n# Use\n[de]: crate::de\n```\r\nopen".toList := by
    decide +kernel
  obtain ⟨hcode, -, hopen⟩ := code_of_convert rfl h
  exact ⟨hcode, hopen⟩

/-! ### Link definitions -/

/-- A line of text becomes one that defines its link, perhaps with another address. -/
theorem definition_rendered (hr : p.registry.Cuts) (before : List Line) (hl : l.Fits) :
    (p.rendered before l).bind
        (onText (fun l => LinkDefinition.ofLine? l.body) (isCode before l.body))
      = (onText (fun l => LinkDefinition.ofLine? l.body) (isCode before l.body) l).bind
          (some ∘ p.inner) := by
  refine onText_rendered ?gap ?title ?header ?text before hl
  case gap =>
    intro l hblank
    rw [LinkDefinition.ofLine?_of_isAllBlank hblank, Option.bind_none]
  case title =>
    intro l hdepth
    rw [Header.ofLine?_of_depth? hdepth, Option.bind_none]
  case header =>
    intro l rest n _ hdepth hraised
    rw [Header.ofLine?_of_depth? hdepth, Header.ofLine?_of_depth? hraised, Option.bind_none]
  case text =>
    intro l hl _
    rw [ofLine?_relinked hr hl.lf_notMem, Option.map_eq_bind]

/-- A link definition that is read stands on a line of text. -/
theorem exists_of_mem_definitions {d : LinkDefinition} (h : d ∈ Document.definitions content) :
    ∃ i l, (ofText content)[i]? = some l ∧ isCode ((ofText content).take i) l.body = false ∧
      LinkDefinition.ofLine? l.body = some d := by
  obtain ⟨i, l, hl, hread⟩ := exists_of_mem_scan h
  rw [onText] at hread
  split at hread
  case isTrue => cases hread
  case isFalse hcode => exact ⟨i, l, hl, by simpa using hcode, hread⟩

/-- A strict policy that does not refuse a document recognises all its links to the package. -/
theorem exists_recognises_of_strict (hp : p.registry = .default)
    (h : (p.convert content).result = .ok out) (hstrict : p.strict = true) {d : LinkDefinition}
    (hd : d ∈ Document.definitions content) (hpackage : Url.isOfPackage p.package d.url = true) :
    ∃ t, p.Recognises d.url t := by
  by_contra hnone
  rw [not_exists] at hnone
  obtain ⟨i, l, hl, hcode, hline⟩ := exists_of_mem_definitions hd
  have hlink : p.LinksTo ((ofText content).take i) l.body d.url :=
    ⟨hcode, LinkDefinition.depth?_of_ofLine? hline, hpackage, d, hline, rfl⟩
  exact not_offends_of_convert_eq_ok hp h hl (.unrecognized hlink hstrict hnone)

/-- The link definition that a link definition becomes is not recognised, and its address is that of
a link that is not recognised or none of the package. -/
theorem not_recognises_inner (p : Policy) (d : LinkDefinition) :
    (∀ t, ¬ p.Recognises (p.inner d).url t) ∧
      (Url.isOfPackage p.package (p.inner d).url = true →
        Url.isOfPackage p.package d.url = true ∧ ∀ t, ¬ p.Recognises d.url t) := by
  cases htarget : p.target? d.url with
  | none =>
    have hnone : ∀ t, ¬ p.Recognises d.url t := target?_eq_none_iff.1 htarget
    rw [inner_of_target?_eq_none htarget]
    exact ⟨hnone, fun hpackage => ⟨hpackage, hnone⟩⟩
  | some t =>
    rw [inner_of_target?_eq_some htarget]
    refine ⟨fun t' ht' => ?_, fun hpackage => ?_⟩
    · rw [Recognises, Registry.result_find_render] at ht'
      cases ht'
    · rw [Url.isOfPackage_render] at hpackage
      cases hpackage

/-- **The link definitions of the output are those of the input**, in order, each with the link
within the crate in the place of its address if that is recognised. None of them is recognised any
more, and none of a strict policy is an address of the package. -/
theorem definitions_of_convert (hp : p.registry = .default)
    (h : (p.convert content).result = .ok out) :
    Document.definitions out = (Document.definitions content).map p.inner ∧
      (∀ d ∈ Document.definitions out, ∀ t, ¬ p.Recognises d.url t) ∧
      (p.strict = true →
        ∀ d ∈ Document.definitions out, Url.isOfPackage p.package d.url = false) := by
  have hr : p.registry.Cuts := hp ▸ Registry.cuts_default
  have hmap : Document.definitions out = (Document.definitions content).map p.inner := by
    rw [Document.definitions,
      scan_of_convert hr h fun before l hl => definition_rendered hr before hl,
      List.filterMap_eq_map, ← Document.definitions]
  rw [hmap]
  refine ⟨rfl, ?_, ?_⟩
  · intro d hd
    obtain ⟨d', -, rfl⟩ := List.mem_map.1 hd
    exact (p.not_recognises_inner d').1
  · intro hstrict d hd
    obtain ⟨d', hd', rfl⟩ := List.mem_map.1 hd
    by_contra hpackage
    rw [Bool.not_eq_false] at hpackage
    -- The address would be one that the document has and that is not recognised.
    obtain ⟨hpackage', hnone⟩ := (p.not_recognises_inner d').2 hpackage
    obtain ⟨t, ht⟩ := exists_recognises_of_strict hp h hstrict hd' hpackage'
    exact hnone t ht

/-- A link with a title, and one in a block. -/
theorem definitions_of_convert_title :
    Document.definitions "[de]: crate::de \"Docs\"\n```\n[x]: https://docs.rs/serde/".toList
        = [⟨"[de]: ".toList, "crate::de".toList, " \"Docs\"".toList⟩] ∧
      Url.isOfPackage "serde".toList "crate::de".toList = false := by
  have h : (convert ⟨"serde".toList, by decide, none, none, true, .default⟩
      ("[de]: https://docs.rs/serde/1.0/serde/de/ \"Docs\"\n```\n" ++
        "[x]: https://docs.rs/serde/").toList).result
      = .ok "[de]: crate::de \"Docs\"\n```\n[x]: https://docs.rs/serde/".toList := by
    decide +kernel
  obtain ⟨hmap, -, hpackage⟩ := definitions_of_convert rfl h
  have hdefinitions : Document.definitions
      "[de]: crate::de \"Docs\"\n```\n[x]: https://docs.rs/serde/".toList
        = [⟨"[de]: ".toList, "crate::de".toList, " \"Docs\"".toList⟩] := by
    rw [hmap]
    decide +kernel
  have hmem : ⟨"[de]: ".toList, "crate::de".toList, " \"Docs\"".toList⟩ ∈ Document.definitions
      "[de]: crate::de \"Docs\"\n```\n[x]: https://docs.rs/serde/".toList := by
    rw [hdefinitions]
    exact List.mem_singleton_self _
  exact ⟨hdefinitions, hpackage rfl _ hmem⟩

/-! ### Headers -/

/-- A header one level up. There is none above the top level. -/
def raise? : Nat × Text → Option (Nat × Text)
  | (depth, title) => if depth = 1 then none else some (depth - 1, title)

/-- A line becomes a header if it is one, and then the header one level up. -/
theorem header_rendered (hr : p.registry.Cuts) (before : List Line) (hl : l.Fits) :
    (p.rendered before l).bind (onText Header.read? (isCode before l.body))
      = (onText Header.read? (isCode before l.body) l).bind raise? := by
  refine onText_rendered ?gap ?title ?header ?text before hl
  case gap =>
    intro l hblank
    rw [Header.read?, Header.depth?_of_isAllBlank hblank]
    rfl
  case title =>
    intro l hdepth
    rw [Header.read?, hdepth]
    rfl
  case header =>
    intro l rest n hbody hdepth hraised
    have htitle : Header.title l.body = Header.title ('#' :: rest) := by
      rw [hbody, Header.title_cons]
    rw [Header.read?, Header.read?, hdepth, hraised, htitle]
    rfl
  case text =>
    intro l hl hdepth
    rw [Header.read?, Header.read?, depth?_relinked hr hl.lf_notMem, hdepth]
    rfl

/-- The outline of raised headers is the outline without each 1 and one less everywhere else. -/
theorem map_fst_filterMap_raise? (headers : List (Nat × Text)) :
    (headers.filterMap raise?).map Prod.fst
      = ((headers.map Prod.fst).filter (· ≠ 1)).map (· - 1) := by
  induction headers with
  | nil => rfl
  | cons header rest ih =>
    obtain ⟨depth, title⟩ := header
    by_cases htop : depth = 1
    · have hraise : raise? (depth, title) = none := if_pos htop
      rw [List.filterMap_cons_none hraise, ih]
      simp [htop]
    · have hraise : raise? (depth, title) = some (depth - 1, title) := if_neg htop
      rw [List.filterMap_cons_some hraise, List.map_cons, ih]
      simp [htop]

/-- **The headers of the output are those of the input one level up**, in order and without those of
the top level, and so is the outline. Line by line, what is kept is a header if it was one, with the
same text after its `#`. -/
theorem headers_of_convert (hr : p.registry.Cuts) (h : (p.convert content).result = .ok out) :
    Document.outline out = ((Document.outline content).filter (· ≠ 1)).map (· - 1) ∧
      Document.headers out = (Document.headers content).filterMap raise? ∧
      ∃ kept : List (Option Line),
        (ofText content).mapIdx (fun i l => p.part ((ofText content).take i) l)
          = kept.map (fun o => .ok (join o.toList)) ∧
        ofText out = kept.reduceOption ∧
        ∀ i l l', (ofText content)[i]? = some l → kept[i]? = some (some l') →
          header? (kept.take i).reduceOption l'
            = (header? ((ofText content).take i) l).bind raise? := by
  have hlines := (areLines_ofText content).fits
  have hheaders : Document.headers out = (Document.headers content).filterMap raise? := by
    rw [Document.headers, scan_of_convert hr h fun before l hl => header_rendered hr before hl,
      ← Document.headers]
  refine ⟨?_, hheaders, p.kept (ofText content), ?_, ofText_of_convert hr h, ?_⟩
  · rw [Document.outline, hheaders, map_fst_filterMap_raise?, ← Document.outline]
  · rw [result_convert] at h
    exact parts_eq_of_joinParts_eq_ok h
  · intro i l l' hl hkept
    have hbefore : ∀ x ∈ (ofText content).take i, x.Fits := fun x hx =>
      hlines x (List.mem_of_mem_take hx)
    have hfits := hlines l (List.mem_of_getElem? hl)
    rw [getElem?_kept, hl, Option.map_some, Option.some.injEq] at hkept
    have hread := header_rendered hr ((ofText content).take i) hfits
    rw [hkept, Option.bind_some] at hread
    -- The line is read after what the lines before it became, where the same blocks are open.
    rw [take_kept, ← rendering, header?, isCode_rendering hr hbefore hfits hkept, hread, header?]

/-- Two titles, a line of seven `#` and one without white space after its `#`. -/
theorem headers_of_convert_titles :
    Document.outline "# B\r\n####### no\n```\n# code\n```\n## D\n#E".toList = [1, 2] ∧
      Document.headers "# B\r\n####### no\n```\n# code\n```\n## D\n#E".toList
        = [(1, " B".toList), (2, " D".toList)] := by
  have h : (convert ⟨"serde".toList, by decide, none, none, false, .default⟩
      "# A\n\n## B\r\n####### no\n```\n# code\n```\n# C\n### D\n#E".toList).result
      = .ok "# B\r\n####### no\n```\n# code\n```\n## D\n#E".toList := by
    decide +kernel
  obtain ⟨houtline, hheaders, -⟩ := headers_of_convert Registry.cuts_default h
  exact ⟨houtline, hheaders⟩

end Policy

end CrateDocs
