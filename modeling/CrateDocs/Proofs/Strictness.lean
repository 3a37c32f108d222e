import CrateDocs.Proofs.Rendering

namespace CrateDocs

/-!
# Stricter policies

What a policy holds a document to decides whether the document is refused, and never what it
becomes.

* `Policy.IsLaxer` compares two policies, and `Policy.unchecked` is the laxest for a package;
* `Policy.Offends.mono` — what offends a policy offends every stricter one;
* `Policy.rendering_congr` — what lines become depends on the package and the registry alone;
* `Policy.convert_mono` — a stricter policy converts a document to the same, or refuses it, and
  then no later than the laxer one does.
-/

namespace Policy

open Context Line

variable {p q : Policy} {before lines : List Line} {l : Line} {body url out content : Text}
  {t : Target} {o : Offence}

/-- Whether `p` holds documents to no more than `q` does, for the same package. -/
structure IsLaxer (p q : Policy) : Prop where
  package : p.package = q.package
  registry : p.registry = q.registry
  version : p.version = none ∨ p.version = q.version
  crate : p.crate = none ∨ p.crate = q.crate
  strict : p.strict = true → q.strict = true

/-- The policy for the same package that holds documents to nothing. -/
def unchecked (p : Policy) : Policy := { p with version := none, crate := none, strict := false }

theorem isLaxer_unchecked (p : Policy) : p.unchecked.IsLaxer p where
  package := rfl
  registry := rfl
  version := .inl rfl
  crate := .inl rfl
  strict := nofun

/-! ### Offences -/

theorem IsLaxer.linksTo (h : p.IsLaxer q) (hlink : p.LinksTo before body url) :
    q.LinksTo before body url := by
  obtain ⟨hcode, hdepth, hpackage, hline⟩ := hlink
  rw [h.package] at hpackage
  exact ⟨hcode, hdepth, hpackage, hline⟩

theorem IsLaxer.recognises_iff (h : p.IsLaxer q) : p.Recognises url t ↔ q.Recognises url t := by
  rw [Recognises, Recognises, h.package, h.registry]

/-- An expectation of a laxer policy is one of the stricter policy. -/
theorem expectation_mono {x y : Option Spelling} {expected : Spelling} (h : x = none ∨ x = y)
    (hx : x = some expected) : y = some expected := by
  rcases h with hnone | hsame
  · rw [hnone] at hx
    cases hx
  · rw [← hsame, hx]

/-- What offends a policy offends every stricter one. -/
theorem Offends.mono (h : p.IsLaxer q) (ho : p.Offends before body o) :
    q.Offends before body o := by
  cases ho with
  | repeatedTitle hstrict hlevel hheader => exact .repeatedTitle (h.strict hstrict) hlevel hheader
  | unrecognized hlink hstrict hnone =>
    exact .unrecognized (h.linksTo hlink) (h.strict hstrict)
      fun t ht => hnone t (h.recognises_iff.2 ht)
  | version hlink ht hexpected hfound hne =>
    exact .version (h.linksTo hlink) (h.recognises_iff.1 ht) (expectation_mono h.version hexpected)
      hfound hne
  | noVersion hlink ht hexpected hfound hstrict =>
    exact .noVersion (h.linksTo hlink) (h.recognises_iff.1 ht)
      (expectation_mono h.version hexpected) hfound (h.strict hstrict)
  | crate hlink ht hexpected hfound hne =>
    exact .crate (h.linksTo hlink) (h.recognises_iff.1 ht) (expectation_mono h.crate hexpected)
      hfound hne

/-- Nothing offends a policy that holds documents to nothing. -/
theorem not_offends_unchecked (p : Policy) : ¬ p.unchecked.Offends before body o := by
  intro ho
  cases ho with
  | repeatedTitle hstrict _ _ => cases hstrict
  | unrecognized _ hstrict _ => cases hstrict
  | version _ _ hexpected _ _ => cases hexpected
  | noVersion _ _ hexpected _ _ => cases hexpected
  | crate _ _ hexpected _ _ => cases hexpected

/-! ### What lines become -/

theorem rendering_congr (hpackage : p.package = q.package) (hregistry : p.registry = q.registry)
    (lines : List Line) : p.rendering lines = q.rendering lines := by
  simp only [rendering, kept, rendered, relinked, target?, hpackage, hregistry]

/-- Two policies for a package that do not refuse a document convert it to the same. -/
theorem eq_of_convert_eq_ok (h : p.IsLaxer q) {out out' : Text}
    (hp : (p.convert content).result = .ok out) (hq : (q.convert content).result = .ok out') :
    out = out' := by
  rw [result_convert] at hp hq
  rw [eq_join_of_joinParts_eq_ok hp, eq_join_of_joinParts_eq_ok hq,
    rendering_congr h.package h.registry]

/-! ### Refusals -/

section Default

variable (hq : q.registry = .default)

include hq

/-- A document that a policy refuses is refused by every stricter one, at the same line or before
it. -/
theorem exists_error_le_of_isLaxer (h : p.IsLaxer q) {reason : Failure}
    (herror : (p.convert content).result = .error reason) :
    ∃ e e', reason = .refused e ∧ (q.convert content).result = .error (.refused e') ∧
      e'.number ≤ e.number := by
  have hp : p.registry = .default := h.registry.trans hq
  rw [result_convert] at herror ⊢
  obtain ⟨i, l, o, hl, ho, rfl, -⟩ := (joinParts_parts_eq_error_iff hp).1 herror
  have hoffends : q.Offends ((ofText content).take i) l.body o := ho.1.mono h
  obtain ⟨reason', herror'⟩ := (exists_joinParts_parts_eq_error_iff hq).2 ⟨i, l, hl, o, hoffends⟩
  obtain ⟨k, l', o', -, -, rfl, hfirst⟩ := (joinParts_parts_eq_error_iff hq).1 herror'
  refine ⟨_, _, rfl, herror', ?_⟩
  -- The line offends the stricter policy, so the first one that does is not after it.
  have hle : k ≤ i := by
    by_contra hlt
    exact hfirst i (by omega) l hl o hoffends
  show (k : Int) + 1 ≤ (i : Int) + 1
  omega

/-- **Validation only refuses.** What a stricter policy converts, a laxer one converts to the same;
and what a laxer policy refuses, a stricter one refuses at the same line or before it. The policy
that holds documents to nothing refuses none, and every other one that does not refuse a document
converts it to the same. -/
theorem convert_mono (h : p.IsLaxer q) (content : Text) :
    (∀ out, (q.convert content).result = .ok out → (p.convert content).result = .ok out) ∧
      (∀ reason, (p.convert content).result = .error reason →
        ∃ e e', reason = .refused e ∧ (q.convert content).result = .error (.refused e') ∧
          e'.number ≤ e.number) ∧
      ∃ out, (q.unchecked.convert content).result = .ok out ∧
        ∀ found, (q.convert content).result = .ok found → found = out := by
  have hp : p.registry = .default := h.registry.trans hq
  refine ⟨?same, fun reason => exists_error_le_of_isLaxer hq h, ?unchecked⟩
  case same =>
    intro out hout
    -- What would offend the laxer policy would have offended the stricter one.
    obtain ⟨out', hout'⟩ := exists_convert_eq_ok hp fun i l hl o ho =>
      not_offends_of_convert_eq_ok hq hout hl (ho.mono h)
    rw [hout', eq_of_convert_eq_ok h hout' hout]
  case unchecked =>
    obtain ⟨out, hout⟩ := exists_convert_eq_ok (p := q.unchecked) hq
      fun _ _ _ _ => q.not_offends_unchecked
    refine ⟨out, hout, fun found hfound => ?_⟩
    exact (eq_of_convert_eq_ok q.isLaxer_unchecked hout hfound).symm

end Default

/-- A link to another version, and before it one that only a strict policy refuses. -/
theorem convert_mono_version : ∃ e, (convert
    ⟨"serde".toList, by decide, some (Text.spelling "1.0".toList), none, true, .default⟩
    ("[src]: https://docs.rs/serde/1.0/src.html\n" ++
      "[de]: https://docs.rs/serde/2.0/serde/").toList).result = .error (.refused e) ∧
    e.number ≤ 2 := by
  have h : IsLaxer
      ⟨"serde".toList, by decide, some (Text.spelling "1.0".toList), none, false, .default⟩
      ⟨"serde".toList, by decide, some (Text.spelling "1.0".toList), none, true, .default⟩ :=
    ⟨rfl, rfl, .inr rfl, .inl rfl, nofun⟩
  have herror : (convert
      ⟨"serde".toList, by decide, some (Text.spelling "1.0".toList), none, false, .default⟩
      ("[src]: https://docs.rs/serde/1.0/src.html\n" ++
        "[de]: https://docs.rs/serde/2.0/serde/").toList).result
      = .error (.refused ⟨2, "[de]: https://docs.rs/serde/2.0/serde/".toList,
          .version "https://docs.rs/serde/2.0/serde/".toList (Text.spelling "1.0".toList)
            "2.0".toList⟩) := by
    decide +kernel
  obtain ⟨e, e', he, he', hle⟩ := (convert_mono rfl h _).2.1 _ herror
  cases he
  exact ⟨e', he', hle⟩

end Policy

end CrateDocs
