import CrateDocs.Link.Layout
import CrateDocs.Proofs.Refusal

namespace CrateDocs

/-!
# Items of unknown kinds

A registry may know shapes that read any word in the place of an item's kind. A word that is no
kind is the one failure of a conversion that is not the refusal of a line.

* `Shape.Misnames` and `Registry.Misnames` say where such a word is found;
* `Shape.result_parse_eq_error_iff` and `Registry.result_find_eq_error_iff` — reading an address
  fails exactly there;
* `Policy.Stumbles` says on which lines it happens, and `Policy.convert_eq_unknownKind_iff` that a
  conversion fails at the first of them, unless a line before it is refused.
-/

namespace Shape

variable {s : Shape} {c : Captures} {package remainder : Text} {reason : Failure}

/-- Whether the shape finds `word` in the place of an item's kind, and it is none. -/
def Misnames (s : Shape) (remainder word : Text) : Prop :=
  ∃ c, s.captures? remainder = some c ∧ c.kind = some word ∧ word ≠ [] ∧
    ItemKind.ofWord? word = none

theorem result_itemKind_eq_error_iff :
    (itemKind c).result = .error reason ↔
      ∃ word, c.kind = some word ∧ word ≠ [] ∧ ItemKind.ofWord? word = none ∧
        reason = .unknownKind word := by
  unfold itemKind
  split
  case h_1 hkind => simp [hkind]
  case h_2 hkind => simp [hkind]
  case h_3 word hne hkind =>
    rw [hkind]
    cases hword : ItemKind.ofWord? word with
    | none =>
      constructor
      · intro h
        exact ⟨word, rfl, hne, hword, (Except.error.inj h).symm⟩
      · rintro ⟨word', hword', -, -, rfl⟩
        obtain rfl := Option.some.inj hword'
        rfl
    | some kind =>
      refine iff_of_false nofun ?_
      rintro ⟨word', hword', -, hnone, -⟩
      obtain rfl := Option.some.inj hword'
      rw [hword] at hnone
      cases hnone

/-- A shape fails exactly at a word that is no kind. -/
theorem result_parse_eq_error_iff :
    (s.parse package remainder).result = .error reason ↔
      ∃ word, s.Misnames remainder word ∧ reason = .unknownKind word := by
  unfold parse
  cases hcaptures : s.captures? remainder with
  | none => simp [Misnames, hcaptures]
  | some c =>
    have hmisnames : (∃ word, s.Misnames remainder word ∧ reason = .unknownKind word) ↔
        (itemKind c).result = .error reason := by
      simp [Misnames, hcaptures, result_itemKind_eq_error_iff, and_assoc]
    rw [hmisnames]
    cases hkind : (itemKind c).result with
    | error found =>
      simp only [Report.result_bind_of_error hkind, Except.error.injEq]
    | ok kind =>
      -- Once the kind is read, pieces that break a rule are no failure.
      simp only [Report.result_bind_of_ok hkind]
      cases c.target package kind with
      | ok t => simp
      | error issues => simp [Report.result_tell_bind, -Report.result_bind]

theorem misnames_iff (package : Text) {word : Text} :
    s.Misnames remainder word ↔
      (s.parse package remainder).result = .error (.unknownKind word) := by
  rw [result_parse_eq_error_iff]
  simp

end Shape

/-- No page takes a word for a kind that is none. -/
theorem Page.not_misnames {s : Shape} (hs : s ∈ Page.all) {remainder word : Text} :
    ¬ s.Misnames remainder word := by
  rintro ⟨c, hc, hkind, hne, hnone⟩
  rcases kind_of_captures? hs hc with hno | ⟨kind, hword⟩
  · rw [hno] at hkind
    cases hkind
  · obtain rfl := Option.some.inj (hkind.symm.trans hword)
    rw [ItemKind.ofWord?_word] at hnone
    cases hnone

namespace Registry

variable {package url remainder word : Text} {shapes : List Shape} {reason : Failure}

/-- Whether the first of the shapes that does not pass `remainder` on finds `word` in the place of
an item's kind, and it is none. -/
def MisnamesIn (package remainder word : Text) (shapes : List Shape) : Prop :=
  ∃ tried s rest, shapes = tried ++ s :: rest ∧
    (∀ t ∈ tried, (t.parse package remainder).result = .ok none) ∧ s.Misnames remainder word

/-- Whether the registry finds `word` in the address `url` of the package, in the place of an
item's kind, and it is none. -/
def Misnames (r : Registry) (package url word : Text) : Prop :=
  ∃ remainder, Url.remainder? package url = some remainder ∧
    MisnamesIn package remainder word r.shapes

theorem not_misnamesIn_nil : ¬ MisnamesIn package remainder word [] := by
  rintro ⟨tried, s, rest, hshapes, -⟩
  simp at hshapes

/-- A shape that fails is the first one, or comes after one that passes the address on. -/
theorem misnamesIn_cons {s : Shape} :
    MisnamesIn package remainder word (s :: shapes) ↔ s.Misnames remainder word ∨
      (s.parse package remainder).result = .ok none ∧
        MisnamesIn package remainder word shapes := by
  constructor
  · rintro ⟨_ | ⟨t, tried⟩, s', rest, hshapes, htried, hword⟩
    · obtain ⟨rfl, rfl⟩ := List.cons.inj hshapes
      exact .inl hword
    · obtain ⟨rfl, rfl⟩ := List.cons.inj hshapes
      obtain ⟨hs, htried⟩ := List.forall_mem_cons.1 htried
      exact .inr ⟨hs, tried, s', rest, rfl, htried, hword⟩
  · rintro (hword | ⟨hs, tried, s', rest, rfl, htried, hword⟩)
    · exact ⟨[], s, shapes, rfl, nofun, hword⟩
    · exact ⟨s :: tried, s', rest, rfl, List.forall_mem_cons.2 ⟨hs, htried⟩, hword⟩

theorem result_findIn_eq_error_iff :
    (findIn package url remainder shapes).result = .error reason ↔
      ∃ word, MisnamesIn package remainder word shapes ∧ reason = .unknownKind word := by
  induction shapes with
  | nil => simp [findIn, not_misnamesIn_nil]
  | cons s rest ih =>
    have hfails : ∀ found, (s.parse package remainder).result = .error found ↔
        ∃ word, s.Misnames remainder word ∧ found = .unknownKind word :=
      fun _ => Shape.result_parse_eq_error_iff
    simp only [misnamesIn_cons, findIn]
    cases hparse : (s.parse package remainder).result with
    | error found =>
      rw [Report.result_bind_of_error hparse, ← hparse, hfails]
      simp [hparse]
    | ok found =>
      have hno : ∀ word, ¬ s.Misnames remainder word := by
        intro word hword
        have herror := (hfails _).2 ⟨word, hword, rfl⟩
        rw [hparse] at herror
        cases herror
      rw [Report.result_bind_of_ok hparse]
      cases found with
      | none => simp [hno, ih]
      | some t => simp [hno, Report.result_tell_bind, -Report.result_bind]

/-- A registry fails exactly at a word that is no kind. -/
theorem result_find_eq_error_iff {r : Registry} :
    (r.find package url).result = .error reason ↔
      ∃ word, r.Misnames package url word ∧ reason = .unknownKind word := by
  unfold find
  cases hremainder : Url.remainder? package url with
  | none => simp [Misnames, hremainder]
  | some remainder =>
    rw [result_findIn_eq_error_iff]
    simp [Misnames, hremainder]

theorem misnames_iff {r : Registry} :
    r.Misnames package url word ↔ (r.find package url).result = .error (.unknownKind word) := by
  rw [result_find_eq_error_iff]
  simp

end Registry

namespace Policy

open Context

variable {p : Policy} {before : List Line} {body word : Text} {l : Line}

/-- Whether the line `body` after the lines `before` is text that defines a link, and `word` stands
in its address in the place of an item's kind and is none. -/
def Stumbles (p : Policy) (before : List Line) (body word : Text) : Prop :=
  isCode before body = false ∧ Header.depth? body = none ∧
    ∃ d, LinkDefinition.ofLine? body = some d ∧ p.registry.Misnames p.package d.url word

theorem result_relinkDefinition_eq_unknownKind_iff {number : Int} {line : Text}
    {d : LinkDefinition} :
    (p.relinkDefinition number line d).result = .error (.unknownKind word) ↔
      p.registry.Misnames p.package d.url word := by
  rw [Registry.misnames_iff]
  unfold relinkDefinition
  cases hfind : (p.registry.find p.package d.url).result with
  | error reason =>
    rw [Report.result_bind_of_error hfind]
    simp only [Except.error.injEq]
  | ok found =>
    rw [Report.result_bind_of_ok hfind]
    -- What is found may be refused, but no word is read any more.
    cases found with
    | some t =>
      cases hoffence : p.offence? d.url t <;>
        simp [hoffence, Report.result_tell_bind, -Report.result_bind]
    | none =>
      cases Url.isOfPackage p.package d.url <;> cases p.strict <;>
        simp [Report.result_tell_bind, -Report.result_bind]

theorem part_eq_unknownKind_iff :
    p.part before l = .error (.unknownKind word) ↔ p.Stumbles before l.body word := by
  rw [part, Stumbles]
  by_cases hcode : isCode before l.body = true
  · simp [hcode]
  · rw [Bool.not_eq_true] at hcode
    simp only [hcode, Bool.false_eq_true, if_false]
    cases hdepth : Header.depth? l.body with
    | none =>
      by_cases hgap : (Text.isAllBlank l.body && endsInTitle before) = true
      · have hline := LinkDefinition.ofLine?_of_isAllBlank (Bool.and_eq_true_iff.1 hgap).1
        simp [hgap, hline]
      · simp only [hgap, Bool.false_eq_true, if_false, true_and]
        cases hline : LinkDefinition.ofLine? l.body with
        | none => simp [relink, hline, Except.map]
        | some d =>
          have hrelink : (p.relinkDefinition (before.length + 1) l.body d).result
                = .error (.unknownKind word) ↔ p.registry.Misnames p.package d.url word :=
            result_relinkDefinition_eq_unknownKind_iff
          simp only [relink, hline, Option.some.injEq, exists_eq_left']
          rw [← hrelink]
          cases (p.relinkDefinition (before.length + 1) l.body d).result <;> simp [Except.map]
    | some depth =>
      -- A header can only be refused.
      rcases depth with _ | _ | depth
      · simp
      · cases p.strict && hasHeader before <;> simp
      · simp

/-- A line stumbles only over a shape that takes a word for a kind that is none. -/
theorem Stumbles.exists_misnames (h : p.Stumbles before body word) :
    ∃ s ∈ p.registry.shapes, ∃ remainder, s.Misnames remainder word := by
  obtain ⟨-, -, d, -, remainder, -, tried, s, rest, hshapes, -, hword⟩ := h
  refine ⟨s, ?_, remainder, hword⟩
  rw [hshapes]
  simp

/-- **A conversion gives a document, refuses a line, or fails at a kind that is none.** A shape
fails exactly at such a word, and a document at its first line with one, if all lines before it give
their parts. Where no shape takes a word for a kind that is none, as no page of a package does,
nothing fails. All this is about shapes that have a place for a name where they have one for a kind:
without it the name of an item could not be asked for. -/
theorem convert_eq_unknownKind_iff (p : Policy) (content : Text) :
    (∀ (s : Shape) (package remainder : Text),
      (∃ found, (s.parse package remainder).result = .ok found) ↔
        ∀ word, ¬ s.Misnames remainder word) ∧
    (∀ word, (p.convert content).result = .error (.unknownKind word) ↔
      ∃ (i : Nat) (l : Line), (Line.ofText content)[i]? = some l ∧
        p.Stumbles ((Line.ofText content).take i) l.body word ∧
        ∀ j < i, ∀ l', (Line.ofText content)[j]? = some l' →
          ∃ text, p.part ((Line.ofText content).take j) l' = .ok text) ∧
    ((∀ s ∈ p.registry.shapes, ∀ remainder word, ¬ s.Misnames remainder word) →
      (∃ out, (p.convert content).result = .ok out) ∨
        ∃ e, (p.convert content).result = .error (.refused e)) ∧
    ∀ s ∈ Page.all, ∀ remainder word, ¬ s.Misnames remainder word := by
  have hstumble : ∀ word, (p.convert content).result = .error (.unknownKind word) ↔
      ∃ (i : Nat) (l : Line), (Line.ofText content)[i]? = some l ∧
        p.Stumbles ((Line.ofText content).take i) l.body word ∧
        ∀ j < i, ∀ l', (Line.ofText content)[j]? = some l' →
          ∃ text, p.part ((Line.ofText content).take j) l' = .ok text := by
    intro word
    rw [result_convert, joinParts_eq_error_iff_part]
    simp only [part_eq_unknownKind_iff]
  refine ⟨?parse, hstumble, ?known, fun s hs remainder word => Page.not_misnames hs⟩
  case parse =>
    intro s package remainder
    simp only [Shape.misnames_iff package]
    cases hparse : (s.parse package remainder).result with
    | ok found => simp
    | error reason =>
      obtain ⟨word, -, rfl⟩ := Shape.result_parse_eq_error_iff.1 hparse
      simp
  case known =>
    intro hknown
    cases hresult : (p.convert content).result with
    | ok out => exact .inl ⟨out, rfl⟩
    | error reason =>
      cases reason with
      | refused e => exact .inr ⟨e, rfl⟩
      | unknownKind word =>
        obtain ⟨i, l, -, hline, -⟩ := (hstumble word).1 hresult
        obtain ⟨s, hs, remainder, hword⟩ := hline.exists_misnames
        exact absurd hword (hknown s hs remainder word)

/-- A link to the page of a macro, for a shape that takes any word for a kind. -/
theorem convert_unknownKind_macro :
    (convert ⟨"foo".toList, by decide, none, none, false, ⟨[Layout.anyKind]⟩⟩
        "[x]: https://docs.rs/foo/macro.bar.html\n".toList).result
      = .error (.unknownKind "macro".toList) := by
  decide +kernel

end Policy

end CrateDocs
