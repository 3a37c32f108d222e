import CrateDocs.Proofs.Output

namespace CrateDocs

/-!
# Relinking a line again

Of a line that is relinked only the address changes, and what it became stays as it is when it is
relinked again.

* `Policy.Accepts` says that a policy has nothing against a link definition, and
  `Policy.relink_eq_ok_iff` that a line is relinked, whatever its number, if that is so;
* `Policy.accepts_inner` — a policy has nothing against its own links;
* `Policy.relink_idempotent` — a line without a link to the package stays as it is; of any other
  line only the address changes; and relinking it again changes nothing.
-/

/-! ### Lines without a link to the package -/

/-- Nothing is looked for in an address that is none of the package. -/
theorem Registry.find_of_not_isOfPackage (r : Registry) {package url : Text}
    (h : Url.isOfPackage package url = false) : r.find package url = pure none := by
  have hnone : Url.remainder? package url = none := by
    simpa [Url.isOfPackage] using h
  rw [find, hnone]

namespace Policy

variable {p : Policy} {number : Int} {line out : Text} {d : LinkDefinition}

/-- A line that does not link to the package stays as it is, without a word. -/
theorem relink_of_not_isOfPackage (number : Int)
    (h : ∀ d, LinkDefinition.ofLine? line = some d → Url.isOfPackage p.package d.url = false) :
    p.relink number line = pure line := by
  cases hline : LinkDefinition.ofLine? line with
  | none => rw [relink, hline]
  | some d =>
    have hpackage : Url.isOfPackage p.package d.url = false := h d hline
    have hrelink : p.relink number line = p.relinkDefinition number line d := by
      rw [relink, hline]
    rw [hrelink, relinkDefinition, Registry.find_of_not_isOfPackage p.registry hpackage]
    show (if Url.isOfPackage p.package d.url = false then pure line else _) = pure line
    rw [if_pos hpackage]

/-! ### Lines that are not refused -/

/-- Whether the policy has nothing against a link definition: its address is read, there is
nothing wrong with the target if it is recognised, and it is no address of the package that a
strict policy does not recognise. -/
structure Accepts (p : Policy) (d : LinkDefinition) : Prop where
  isRead : ∃ found, (p.registry.find p.package d.url).result = .ok found
  offence?_eq_none : ∀ t, p.Recognises d.url t → p.offence? d.url t = none
  not_isOfPackage : p.strict = true → (∀ t, ¬ p.Recognises d.url t) →
    Url.isOfPackage p.package d.url = false

/-- A link definition is relinked if the policy has nothing against it. -/
theorem exists_relinkDefinition_eq_ok_iff :
    (∃ out, (p.relinkDefinition number line d).result = .ok out) ↔ p.Accepts d := by
  -- Each way in which a link definition is refused breaks one part of `Accepts`.
  cases hfind : (p.registry.find p.package d.url).result with
  | error reason =>
    have herror : (p.relinkDefinition number line d).result = .error reason := by
      rw [relinkDefinition, Report.result_bind_of_error hfind]
    rw [herror]
    refine iff_of_false (by rintro ⟨out, ⟨⟩⟩) fun haccepts => ?_
    obtain ⟨found, hfound⟩ := haccepts.isRead
    rw [hfind] at hfound
    cases hfound
  | ok found =>
    cases found with
    | some t =>
      have ht : p.Recognises d.url t := hfind
      rw [result_relinkDefinition_of_recognises ht]
      cases hoffence : p.offence? d.url t with
      | some o =>
        refine iff_of_false (by rintro ⟨out, ⟨⟩⟩) fun haccepts => ?_
        have hnone := haccepts.offence?_eq_none t ht
        rw [hoffence] at hnone
        cases hnone
      | none =>
        refine iff_of_true ⟨_, rfl⟩ ⟨⟨some t, hfind⟩, ?_, fun _ hno => absurd ht (hno t)⟩
        intro t' ht'
        rw [← ht.unique ht', hoffence]
    | none =>
      have hno : ∀ t, ¬ p.Recognises d.url t := by
        intro t ht
        rw [Recognises, hfind] at ht
        cases ht
      rw [result_relinkDefinition_of_none hfind]
      by_cases hrefused : (Url.isOfPackage p.package d.url && p.strict) = true
      · rw [if_pos hrefused]
        obtain ⟨hpackage, hstrict⟩ := Bool.and_eq_true_iff.1 hrefused
        refine iff_of_false (by rintro ⟨out, ⟨⟩⟩) fun haccepts => ?_
        have hforeign := haccepts.not_isOfPackage hstrict hno
        rw [hpackage] at hforeign
        cases hforeign
      · rw [if_neg hrefused]
        refine iff_of_true ⟨_, rfl⟩ ⟨⟨none, hfind⟩, fun t ht => absurd ht (hno t), ?_⟩
        intro hstrict _
        simpa [hstrict] using hrefused

/-- A line is relinked if the policy has nothing against the link that it defines. The number of
the line has no part in it. -/
theorem relink_eq_ok_iff : (p.relink number line).result = .ok out ↔
    (∀ d, LinkDefinition.ofLine? line = some d → p.Accepts d) ∧ out = p.relinked line := by
  have hexists : (∃ out, (p.relink number line).result = .ok out) ↔
      ∀ d, LinkDefinition.ofLine? line = some d → p.Accepts d := by
    cases hline : LinkDefinition.ofLine? line with
    | none =>
      have hok : (p.relink number line).result = .ok line := by
        rw [relink, hline, Report.result_pure]
      refine iff_of_true ⟨line, hok⟩ fun d hd => ?_
      cases hd
    | some d =>
      have hrelink : p.relink number line = p.relinkDefinition number line d := by
        rw [relink, hline]
      rw [hrelink, exists_relinkDefinition_eq_ok_iff]
      simp
  rw [← hexists]
  constructor
  · intro h
    exact ⟨⟨out, h⟩, eq_relinked_of_relink h⟩
  · rintro ⟨⟨out', h⟩, rfl⟩
    rw [h, eq_relinked_of_relink h]

/-! ### The line again -/

/-- A policy has nothing against the link that it puts in the place of an address. -/
theorem accepts_inner (h : p.Accepts d) : p.Accepts (p.inner d) := by
  cases htarget : p.target? d.url with
  | none =>
    rw [inner_of_target?_eq_none htarget]
    exact h
  | some t =>
    have hno : ∀ t', ¬ p.Recognises (p.inner d).url t' := (p.not_recognises_inner d).1
    -- The link within the crate is none of the package, so there is nothing to refuse it for.
    rw [inner_of_target?_eq_some htarget] at hno ⊢
    refine ⟨⟨none, ?_⟩, fun t' ht' => absurd ht' (hno t'), ?_⟩
    · show (p.registry.find p.package t.render).result = .ok none
      rw [Registry.result_find_render]
    · intro _ _
      show Url.isOfPackage p.package t.render = false
      rw [Url.isOfPackage_render]

theorem relinked_relinked (hr : p.registry.Cuts) (hline : '\n' ∉ line) :
    p.relinked (p.relinked line) = p.relinked line := by
  rcases p.relinked_cases (p.relinked line) with ⟨hsame, -⟩ | ⟨d', t, hd', ht, -, -⟩
  · exact hsame
  · -- The address would be recognised once more.
    rw [ofLine?_relinked hr hline, Option.map_eq_some_iff] at hd'
    obtain ⟨d, -, rfl⟩ := hd'
    exact absurd ht ((p.not_recognises_inner d).1 t)

/-- **Relinking touches only the address, and is idempotent.** A line that does not define a link
to the package stays as it is. A line that becomes another one is a link definition, and the link
within the crate takes the place of its address. And what a line became stays as it is when it is
relinked again, under any number. -/
theorem relink_idempotent (hr : p.registry.Cuts) (hline : '\n' ∉ line) (number : Int) :
    ((∀ d, LinkDefinition.ofLine? line = some d → Url.isOfPackage p.package d.url = false) →
      p.relink number line = pure line) ∧
    ∀ out, (p.relink number line).result = .ok out →
      (out ≠ line → ∃ d t, LinkDefinition.ofLine? line = some d ∧ p.Recognises d.url t ∧
        line = d.head ++ d.url ++ d.tail ∧ out = d.head ++ t.render ++ d.tail) ∧
      ∀ number', (p.relink number' out).result = .ok out := by
  refine ⟨relink_of_not_isOfPackage number, fun out hout => ?_⟩
  obtain ⟨haccepts, rfl⟩ := relink_eq_ok_iff.1 hout
  constructor
  · intro hne
    rcases p.relinked_cases line with ⟨hsame, -⟩ | ⟨d, t, hd, ht, hnew, -⟩
    · exact absurd hsame hne
    · obtain ⟨-, hjoin⟩ := (LinkDefinition.ofLine?_eq_some_iff hline).1 hd
      exact ⟨d, t, hd, ht, hjoin, hnew⟩
  · intro number'
    apply relink_eq_ok_iff.2
    refine ⟨fun d' hd' => ?_, (relinked_relinked hr hline).symm⟩
    -- The new line defines the link of the old one, with the new address.
    rw [ofLine?_relinked hr hline, Option.map_eq_some_iff] at hd'
    obtain ⟨d, hd, rfl⟩ := hd'
    exact accepts_inner (haccepts d hd)

/-- A link with a title, held to its version by a strict policy. -/
theorem relink_idempotent_title :
    (relink ⟨"serde".toList, by decide, some (Text.spelling "1.0".toList), none, true, .default⟩
        7 "\t[a [b]: crate::de \"Docs\"".toList).result
      = .ok "\t[a [b]: crate::de \"Docs\"".toList := by
  have h : (relink
      ⟨"serde".toList, by decide, some (Text.spelling "1.0".toList), none, true, .default⟩
      (-2) "\t[a [b]: https://docs.rs/serde/1.0/serde/de/ \"Docs\"".toList).result
        = .ok "\t[a [b]: crate::de \"Docs\"".toList := by
    decide +kernel
  exact ((relink_idempotent Registry.cuts_default (by decide +kernel) (-2)).2 _ h).2 7

end Policy

end CrateDocs
