import CrateDocs.Proofs.Address
import CrateDocs.Proofs.Context

namespace CrateDocs

/-!
# Refused documents

A conversion with the registry of the pages refuses a document at its first line that offends.

* `Policy.LinksTo` and `Policy.Recognises` say which address of the package a line links to, and as
  what it is recognised;
* `Policy.Offends` are the offences of a line after the lines before it, and `Policy.RefusedFor` is
  the one that is told;
* `Policy.part_eq_error_iff` — a line is refused for that offence;
* `Policy.joinParts_parts_eq_error_iff` — lines are refused at the first of them that has one.
-/

/-- A blank line defines no link. -/
theorem LinkDefinition.ofLine?_of_isAllBlank {line : Text} (h : Text.isAllBlank line = true) :
    ofLine? line = none := by
  have hrest : line.dropWhile Text.isBlank = [] :=
    List.dropWhile_eq_nil_iff.2 (List.all_eq_true.1 h)
  rw [ofLine?, hrest]

namespace Policy

open Context

variable {p : Policy} {before : List Line} {url : Text} {t : Target} {o : Offence}

/-! ### Offences -/

/-- Whether the line `body` after the lines `before` is text that defines a link to the address
`url` of the package. -/
def LinksTo (p : Policy) (before : List Line) (body url : Text) : Prop :=
  isCode before body = false ∧ Header.depth? body = none ∧
    Url.isOfPackage p.package url = true ∧ ∃ d, LinkDefinition.ofLine? body = some d ∧ d.url = url

/-- Whether an address is recognised as a target. -/
def Recognises (p : Policy) (url : Text) (t : Target) : Prop :=
  (p.registry.find p.package url).result = .ok (some t)

/-- The offences of the line `body` after the lines `before`. -/
inductive Offends (p : Policy) (before : List Line) (body : Text) : Offence → Prop
  | repeatedTitle : p.strict = true → level? before body = some 1 → hasHeader before = true →
      Offends p before body .repeatedTitle
  | unrecognized {url : Text} : p.LinksTo before body url → p.strict = true →
      (∀ t, ¬ p.Recognises url t) → Offends p before body (.unrecognized url)
  | version {url found : Text} {t : Target} {expected : Spelling} :
      p.LinksTo before body url → p.Recognises url t → p.version = some expected →
      t.version = some found → Text.spelling found ≠ expected →
      Offends p before body (.version url expected found)
  | noVersion {url : Text} {t : Target} {expected : Spelling} :
      p.LinksTo before body url → p.Recognises url t → p.version = some expected →
      t.version = none → p.strict = true → Offends p before body (.noVersion url expected)
  | crate {url found : Text} {t : Target} {expected : Spelling} :
      p.LinksTo before body url → p.Recognises url t → p.crate = some expected →
      t.crate = some found → Text.spelling found ≠ expected →
      Offends p before body (.crate url expected found)

/-- The offence that a line is refused for. That of the crate is told only if the version is
right. -/
def RefusedFor (p : Policy) (before : List Line) (body : Text) (o : Offence) : Prop :=
  p.Offends before body o ∧
    ∀ url expected found, o = .crate url expected found →
      ∀ other, p.Offends before body other → other = o

theorem LinksTo.level?_eq_none {body : Text} (h : p.LinksTo before body url) :
    level? before body = none := by
  simp [level?, h.1, h.2.1]

theorem LinksTo.unique {body url' : Text} (h : p.LinksTo before body url)
    (h' : p.LinksTo before body url') : url = url' := by
  obtain ⟨-, -, -, d, hd, rfl⟩ := h
  obtain ⟨-, -, -, d', hd', rfl⟩ := h'
  rw [Option.some.inj (hd.symm.trans hd')]

theorem Recognises.unique {t' : Target} (h : p.Recognises url t) (h' : p.Recognises url t') :
    t = t' :=
  Option.some.inj (Except.ok.inj (h.symm.trans h'))

/-! ### The verdict on a target -/

theorem versionOffence?_eq_some_iff {found : Option Text} :
    p.versionOffence? url found = some o ↔ ∃ expected, p.version = some expected ∧
      ((∃ version, found = some version ∧ Text.spelling version ≠ expected ∧
          o = .version url expected version) ∨
        found = none ∧ p.strict = true ∧ o = .noVersion url expected) := by
  unfold versionOffence?
  split
  case h_1 hexpected => simp [hexpected]
  case h_2 hexpected => grind
  case h_3 hexpected => grind

theorem crateOffence?_eq_some_iff {found : Option Text} :
    p.crateOffence? url found = some o ↔ ∃ expected crate, p.crate = some expected ∧
      found = some crate ∧ Text.spelling crate ≠ expected ∧ o = .crate url expected crate := by
  unfold crateOffence?
  split
  case h_1 hexpected => grind
  case h_2 hnone => grind

/-- What is wrong with a version is never the crate. -/
theorem versionOffence?_ne_crate {found : Option Text} {url' crate : Text} {expected : Spelling} :
    p.versionOffence? url found ≠ some (.crate url' expected crate) := by
  intro h
  obtain ⟨_, -, ⟨_, -, -, h⟩ | ⟨-, -, h⟩⟩ := versionOffence?_eq_some_iff.1 h <;> cases h

/-- Without expectations there is nothing wrong with a target. -/
theorem offence?_of_eq_none (hversion : p.version = none) (hcrate : p.crate = none) :
    p.offence? url t = none := by
  have hnone : p.versionOffence? url t.version = none := by simp only [versionOffence?, hversion]
  have hnone' : p.crateOffence? url t.crate = none := by simp only [crateOffence?, hcrate]
  rw [offence?, hnone, hnone']
  rfl

/-- The offences of a link that is recognised are those of its version and its crate. -/
theorem offends_iff_of_recognises {body : Text} (hlink : p.LinksTo before body url)
    (ht : p.Recognises url t) :
    p.Offends before body o ↔
      p.versionOffence? url t.version = some o ∨ p.crateOffence? url t.crate = some o := by
  rw [versionOffence?_eq_some_iff, crateOffence?_eq_some_iff]
  constructor
  · intro h
    cases h with
    | repeatedTitle _ hlevel _ => simp [hlink.level?_eq_none] at hlevel
    | unrecognized hlink' _ hnone =>
      obtain rfl := hlink.unique hlink'
      exact absurd ht (hnone t)
    | version hlink' ht' hexpected hfound hne =>
      obtain rfl := hlink.unique hlink'
      obtain rfl := ht.unique ht'
      exact .inl ⟨_, hexpected, .inl ⟨_, hfound, hne, rfl⟩⟩
    | noVersion hlink' ht' hexpected hfound hstrict =>
      obtain rfl := hlink.unique hlink'
      obtain rfl := ht.unique ht'
      exact .inl ⟨_, hexpected, .inr ⟨hfound, hstrict, rfl⟩⟩
    | crate hlink' ht' hexpected hfound hne =>
      obtain rfl := hlink.unique hlink'
      obtain rfl := ht.unique ht'
      exact .inr ⟨_, _, hexpected, hfound, hne, rfl⟩
  · rintro (⟨expected, hexpected, ⟨found, hfound, hne, rfl⟩ | ⟨hfound, hstrict, rfl⟩⟩ |
      ⟨expected, found, hexpected, hfound, hne, rfl⟩)
    · exact .version hlink ht hexpected hfound hne
    · exact .noVersion hlink ht hexpected hfound hstrict
    · exact .crate hlink ht hexpected hfound hne

/-- A link that is recognised is refused for what is wrong with its target. -/
theorem refusedFor_iff_of_recognises {body : Text} (hlink : p.LinksTo before body url)
    (ht : p.Recognises url t) : p.RefusedFor before body o ↔ p.offence? url t = some o := by
  simp only [RefusedFor, offends_iff_of_recognises hlink ht, offence?, Option.orElse_eq_orElse,
    Option.orElse_eq_or, Option.or_eq_some_iff]
  constructor
  · rintro ⟨hversion | hcrate, honly⟩
    · exact .inl hversion
    · refine .inr ⟨?_, hcrate⟩
      obtain ⟨expected, found, -, -, -, rfl⟩ := crateOffence?_eq_some_iff.1 hcrate
      cases hversion : p.versionOffence? url t.version with
      | none => rfl
      | some other =>
        -- The other offence would be that of the crate.
        obtain rfl := honly url expected found rfl other (.inl hversion)
        exact absurd hversion versionOffence?_ne_crate
  · rintro (hversion | ⟨hversion, hcrate⟩)
    · refine ⟨.inl hversion, ?_⟩
      rintro _ _ _ rfl
      exact absurd hversion versionOffence?_ne_crate
    · refine ⟨.inr hcrate, ?_⟩
      rintro _ _ _ - other (hother | hother)
      · rw [hversion] at hother
        cases hother
      · exact Option.some.inj (hother.symm.trans hcrate)

/-- A link that is not recognised offends a strict policy. -/
theorem refusedFor_iff_of_not_recognises {body : Text} (hlink : p.LinksTo before body url)
    (ht : ∀ t, ¬ p.Recognises url t) :
    p.RefusedFor before body o ↔ p.strict = true ∧ o = .unrecognized url := by
  constructor
  · rintro ⟨h, -⟩
    cases h with
    | repeatedTitle _ hlevel _ => simp [hlink.level?_eq_none] at hlevel
    | unrecognized hlink' hstrict _ => exact ⟨hstrict, by rw [hlink.unique hlink']⟩
    | version hlink' ht' => exact absurd (hlink.unique hlink' ▸ ht') (ht _)
    | noVersion hlink' ht' => exact absurd (hlink.unique hlink' ▸ ht') (ht _)
    | crate hlink' ht' => exact absurd (hlink.unique hlink' ▸ ht') (ht _)
  · rintro ⟨hstrict, rfl⟩
    exact ⟨.unrecognized hlink hstrict ht, by simp⟩

/-- A line that offends is a top-level header or links to the package. -/
theorem Offends.title_or_link {body : Text} (h : p.Offends before body o) :
    (o = .repeatedTitle ∧ p.strict = true ∧ level? before body = some 1 ∧
      hasHeader before = true) ∨ ∃ url, p.LinksTo before body url := by
  cases h with
  | repeatedTitle hstrict hlevel hheader => exact .inl ⟨rfl, hstrict, hlevel, hheader⟩
  | unrecognized hlink _ _ => exact .inr ⟨_, hlink⟩
  | version hlink => exact .inr ⟨_, hlink⟩
  | noVersion hlink => exact .inr ⟨_, hlink⟩
  | crate hlink => exact .inr ⟨_, hlink⟩

/-- A line that is no top-level header and does not link to the package does not offend. -/
theorem not_refusedFor {body : Text} (htitle : level? before body ≠ some 1)
    (hlink : ∀ url, ¬ p.LinksTo before body url) : ¬ p.RefusedFor before body o := by
  rintro ⟨ho, -⟩
  rcases ho.title_or_link with ⟨-, -, h, -⟩ | ⟨url, h⟩
  · exact htitle h
  · exact hlink url h

/-- A line that offends is refused for one of its offences. -/
theorem exists_refusedFor_iff {body : Text} :
    (∃ o, p.RefusedFor before body o) ↔ ∃ o, p.Offends before body o := by
  constructor
  · rintro ⟨o, ho, -⟩
    exact ⟨o, ho⟩
  · rintro ⟨o, ho⟩
    rcases ho.title_or_link with ⟨rfl, -⟩ | ⟨url, hlink⟩
    · exact ⟨.repeatedTitle, ho, by simp⟩
    · by_cases hrecognised : ∃ t, p.Recognises url t
      · obtain ⟨t, ht⟩ := hrecognised
        cases hoffence : p.offence? url t with
        | some told => exact ⟨told, (refusedFor_iff_of_recognises hlink ht).2 hoffence⟩
        | none =>
          -- Without a verdict on the target there is nothing to offend.
          rw [offence?, Option.orElse_eq_orElse, Option.orElse_eq_or, Option.or_eq_none_iff]
            at hoffence
          have hverdict := (offends_iff_of_recognises hlink ht).1 ho
          rw [hoffence.1, hoffence.2] at hverdict
          rcases hverdict with h | h <;> cases h
      · refine ⟨o, ho, ?_⟩
        rintro _ _ _ rfl
        cases ho with
        | crate hlink' ht' =>
          obtain rfl := hlink.unique hlink'
          exact absurd ⟨_, ht'⟩ hrecognised

/-! ### Lines that are refused -/

/-- A link that is recognised is replaced, unless there is something wrong with its target. -/
theorem result_relinkDefinition_of_recognises {number : Int} {line : Text} {d : LinkDefinition}
    (ht : p.Recognises d.url t) :
    (p.relinkDefinition number line d).result =
      match p.offence? d.url t with
      | some o => .error (.refused ⟨number, line, o⟩)
      | none => .ok (d.withUrl t.render) := by
  rw [relinkDefinition, Report.result_bind_of_ok ht]
  cases hoffence : p.offence? d.url t with
  | some o => simp only [hoffence, Report.result_refuse]
  | none =>
    simp only [hoffence]
    rfl

/-- A link that is not recognised is kept, unless it is one of the package and the policy is
strict. -/
theorem result_relinkDefinition_of_none {number : Int} {line : Text} {d : LinkDefinition}
    (hnone : (p.registry.find p.package d.url).result = .ok none) :
    (p.relinkDefinition number line d).result =
      if Url.isOfPackage p.package d.url && p.strict then
        .error (.refused ⟨number, line, .unrecognized d.url⟩)
      else .ok line := by
  rw [relinkDefinition, Report.result_bind_of_ok hnone]
  cases Url.isOfPackage p.package d.url <;> cases p.strict <;> rfl

section Default

variable (hp : p.registry = Registry.default)

include hp

/-- The pages recognise only addresses of the package. -/
theorem Recognises.isOfPackage (h : p.Recognises url t) :
    Url.isOfPackage p.package url = true := by
  rw [Recognises, hp, Registry.find_default_eq_some_iff] at h
  obtain ⟨remainder, hremainder, -⟩ := h
  rw [Url.isOfPackage, hremainder]
  rfl

theorem result_find_of_not_recognises (h : ∀ t, ¬ p.Recognises url t) :
    (p.registry.find p.package url).result = .ok none := by
  obtain ⟨found, hfound⟩ : ∃ found, (p.registry.find p.package url).result = .ok found :=
    ⟨_, by rw [hp, Registry.result_find_default]⟩
  cases found with
  | none => exact hfound
  | some t => exact absurd hfound (h t)

/-- A line of text is refused for its offence. -/
theorem relink_eq_error_iff {body : Text} {number : Int} {reason : Failure}
    (hcode : isCode before body = false) (hdepth : Header.depth? body = none) :
    (p.relink number body).result = .error reason ↔
      ∃ o, p.RefusedFor before body o ∧ reason = .refused ⟨number, body, o⟩ := by
  have hlevel : level? before body ≠ some 1 := by simp [level?, hcode, hdepth]
  cases hline : LinkDefinition.ofLine? body with
  | none =>
    have hok : (p.relink number body).result = .ok body := by rw [relink, hline]; rfl
    have hnone : ∀ url, ¬ p.LinksTo before body url := by
      rintro url ⟨-, -, -, d, hd, -⟩
      rw [hline] at hd
      cases hd
    simp [hok, not_refusedFor hlevel hnone]
  | some d =>
    have hrelink : p.relink number body = p.relinkDefinition number body d := by rw [relink, hline]
    rw [hrelink]
    by_cases hrecognised : ∃ t, p.Recognises d.url t
    · obtain ⟨t, ht⟩ := hrecognised
      have hlink : p.LinksTo before body d.url :=
        ⟨hcode, hdepth, Recognises.isOfPackage hp ht, d, hline, rfl⟩
      simp only [refusedFor_iff_of_recognises hlink ht]
      rw [result_relinkDefinition_of_recognises ht]
      cases p.offence? d.url t <;> simp [eq_comm]
    · rw [not_exists] at hrecognised
      rw [result_relinkDefinition_of_none (result_find_of_not_recognises hp hrecognised)]
      cases hpackage : Url.isOfPackage p.package d.url with
      | true =>
        have hlink : p.LinksTo before body d.url := ⟨hcode, hdepth, hpackage, d, hline, rfl⟩
        simp only [refusedFor_iff_of_not_recognises hlink hrecognised]
        cases p.strict <;> simp [eq_comm]
      | false =>
        have hnone : ∀ url, ¬ p.LinksTo before body url := by
          rintro url ⟨-, -, hof, d', hd', rfl⟩
          obtain rfl := Option.some.inj (hline.symm.trans hd')
          rw [hpackage] at hof
          cases hof
        simp [not_refusedFor hlevel hnone]

/-- **A line is refused for its offence.** The error has the number of the line and the line
without its ending. -/
theorem part_eq_error_iff {l : Line} {reason : Failure} :
    p.part before l = .error reason ↔ ∃ o, p.RefusedFor before l.body o ∧
      reason = .refused ⟨before.length + 1, l.body, o⟩ := by
  rw [part]
  by_cases hcode : isCode before l.body = true
  · -- Code is neither a header nor a link.
    have htitle : level? before l.body ≠ some 1 := by simp [level?, hcode]
    have hnone : ∀ url, ¬ p.LinksTo before l.body url := by
      rintro url ⟨htext, -⟩
      rw [hcode] at htext
      cases htext
    simp [hcode, not_refusedFor htitle hnone]
  · rw [Bool.not_eq_true] at hcode
    rw [hcode]
    cases hdepth : Header.depth? l.body with
    | none =>
      rw [← relink_eq_error_iff hp hcode hdepth]
      by_cases hgap : (Text.isAllBlank l.body && endsInTitle before) = true
      · have hline := LinkDefinition.ofLine?_of_isAllBlank (Bool.and_eq_true_iff.1 hgap).1
        have hok : (p.relink (before.length + 1) l.body).result = .ok l.body := by
          rw [relink, hline]
          rfl
        simp [hgap, hok]
      · simp only [hgap, Bool.false_eq_true, if_false]
        cases (p.relink (before.length + 1) l.body).result <;> simp [Except.map]
    | some depth =>
      have hlevel : level? before l.body = some depth := by simp [level?, hcode, hdepth]
      -- A header can offend only as a repeated title.
      have hrefused : ∀ o, p.RefusedFor before l.body o ↔
          o = .repeatedTitle ∧ p.strict = true ∧ depth = 1 ∧ hasHeader before = true := by
        intro o
        constructor
        · rintro ⟨ho, -⟩
          rcases ho.title_or_link with ⟨htold, hstrict, htitle, hheader⟩ | ⟨url, -, htext, -⟩
          · exact ⟨htold, hstrict, Option.some.inj (hlevel.symm.trans htitle), hheader⟩
          · rw [hdepth] at htext
            cases htext
        · rintro ⟨rfl, hstrict, rfl, hheader⟩
          exact ⟨.repeatedTitle hstrict hlevel hheader, by simp⟩
      simp only [hrefused]
      rcases depth with _ | _ | depth
      · simp
      · cases p.strict <;> cases hasHeader before <;> simp [eq_comm]
      · simp

/-- A line without an offence gives its part. -/
theorem exists_part_eq_ok_iff {l : Line} :
    (∃ text, p.part before l = .ok text) ↔ ∀ o, ¬ p.Offends before l.body o := by
  rw [← not_exists, ← exists_refusedFor_iff, not_exists]
  cases hpart : p.part before l with
  | ok text =>
    refine iff_of_true ⟨text, rfl⟩ fun o ho => ?_
    have herror := (part_eq_error_iff hp).2 ⟨o, ho, rfl⟩
    rw [hpart] at herror
    cases herror
  | error reason =>
    obtain ⟨o, ho, -⟩ := (part_eq_error_iff hp).1 hpart
    refine iff_of_false ?_ fun h => h o ho
    rintro ⟨text, htext⟩
    cases htext

/-- Lines are refused at the first of them that offends. -/
theorem joinParts_parts_eq_error_iff {lines : List Line} {reason : Failure} :
    joinParts (p.parts [] lines) = .error reason ↔
      ∃ (i : Nat) (l : Line) (o : Offence), lines[i]? = some l ∧
        p.RefusedFor (lines.take i) l.body o ∧ reason = .refused ⟨i + 1, l.body, o⟩ ∧
        ∀ j < i, ∀ l', lines[j]? = some l' →
          ∀ other, ¬ p.Offends (lines.take j) l'.body other := by
  have hnumber : ∀ (i : Nat) (l : Line), lines[i]? = some l → (lines.take i).length = i := by
    intro i l hl
    obtain ⟨hi, -⟩ := List.getElem?_eq_some_iff.1 hl
    exact List.length_take_of_le (by omega)
  rw [joinParts_eq_error_iff_part]
  constructor
  · rintro ⟨i, l, hl, herror, hok⟩
    obtain ⟨o, ho, rfl⟩ := (part_eq_error_iff hp).1 herror
    rw [hnumber i l hl]
    refine ⟨i, l, o, hl, ho, rfl, fun j hj l' hl' => ?_⟩
    exact (exists_part_eq_ok_iff hp).1 (hok j hj l' hl')
  · rintro ⟨i, l, o, hl, ho, rfl, hnone⟩
    have herror := (part_eq_error_iff hp).2 ⟨o, ho, rfl⟩
    rw [hnumber i l hl] at herror
    refine ⟨i, l, hl, herror, fun j hj l' hl' => ?_⟩
    exact (exists_part_eq_ok_iff hp).2 (hnone j hj l' hl')

/-- Lines are refused if one of them offends. -/
theorem exists_joinParts_parts_eq_error_iff {lines : List Line} :
    (∃ reason, joinParts (p.parts [] lines) = .error reason) ↔
      ∃ (i : Nat) (l : Line), lines[i]? = some l ∧ ∃ o, p.Offends (lines.take i) l.body o := by
  constructor
  · rintro ⟨reason, hreason⟩
    obtain ⟨i, l, o, hl, ho, -⟩ := (joinParts_parts_eq_error_iff hp).1 hreason
    exact ⟨i, l, hl, o, ho.1⟩
  · rintro ⟨i, l, hl, o, ho⟩
    cases hresult : joinParts (p.parts [] lines) with
    | error reason => exact ⟨reason, rfl⟩
    | ok out =>
      -- All parts would be there, also that of the line that offends.
      obtain ⟨texts, htexts, -⟩ := joinParts_eq_ok_iff.1 hresult
      have hpart : (p.parts [] lines)[i]? = some (p.part (lines.take i) l) := by
        rw [getElem?_parts, hl]
        rfl
      rw [htexts, List.getElem?_map, Option.map_eq_some_iff] at hpart
      obtain ⟨text, -, htext⟩ := hpart
      exact absurd ho ((exists_part_eq_ok_iff hp).1 ⟨text, htext.symm⟩ o)

/-- A document without offences is converted. -/
theorem exists_convert_eq_ok {content : Text}
    (h : ∀ i l, (Line.ofText content)[i]? = some l →
      ∀ o, ¬ p.Offends ((Line.ofText content).take i) l.body o) :
    ∃ out, (p.convert content).result = .ok out := by
  cases hresult : (p.convert content).result with
  | ok out => exact ⟨out, rfl⟩
  | error reason =>
    rw [result_convert] at hresult
    obtain ⟨i, l, hl, o, ho⟩ := (exists_joinParts_parts_eq_error_iff hp).1 ⟨reason, hresult⟩
    exact absurd ho (h i l hl o)

/-- A document that is converted has no offences. -/
theorem not_offends_of_convert_eq_ok {content out : Text}
    (h : (p.convert content).result = .ok out) {i : Nat} (hl : (Line.ofText content)[i]? = some l) :
    ¬ p.Offends ((Line.ofText content).take i) l.body o := by
  intro ho
  obtain ⟨reason, hreason⟩ := (exists_joinParts_parts_eq_error_iff hp).2 ⟨i, l, hl, o, ho⟩
  rw [← result_convert, h] at hreason
  cases hreason

/-- **A document is refused at its first line that offends.** There is an error if and only if a
line has an offence after the lines before it; and it is the one that the first such line is
refused for, with the number of the line, counted from one, and the line without its ending. -/
theorem convert_eq_error_iff (content : Text) :
    ((∃ reason, (p.convert content).result = .error reason) ↔
      ∃ (i : Nat) (l : Line), (Line.ofText content)[i]? = some l ∧
        ∃ o, p.Offends ((Line.ofText content).take i) l.body o) ∧
    ∀ reason, (p.convert content).result = .error reason ↔
      ∃ (i : Nat) (l : Line) (o : Offence), (Line.ofText content)[i]? = some l ∧
        p.RefusedFor ((Line.ofText content).take i) l.body o ∧
        reason = .refused ⟨i + 1, l.body, o⟩ ∧
        ∀ j < i, ∀ l', (Line.ofText content)[j]? = some l' →
          ∀ other, ¬ p.Offends ((Line.ofText content).take j) l'.body other := by
  rw [result_convert]
  exact ⟨exists_joinParts_parts_eq_error_iff hp, fun _ => joinParts_parts_eq_error_iff hp⟩

end Default

/-- A strict policy refuses a second title, on the second line. -/
theorem convert_eq_error_iff_title :
    (convert ⟨"serde".toList, by decide, none, none, true, .default⟩
        "# Title\n# Other\n".toList).result
      = .error (.refused ⟨2, "# Other".toList, .repeatedTitle⟩) := by
  refine ((convert_eq_error_iff rfl "# Title\n# Other\n".toList).2 _).2
    ⟨1, ⟨"# Other".toList, .lf⟩, .repeatedTitle, by decide, ⟨?_, by simp⟩, rfl, ?_⟩
  · exact .repeatedTitle rfl (by decide) (by decide)
  · intro j hj l hl other ho
    obtain rfl : j = 0 := by omega
    obtain rfl := Option.some.inj hl
    rcases ho.title_or_link with ⟨-, -, -, hheader⟩ | ⟨url, -, htext, -⟩
    · exact absurd hheader (by decide)
    · exact absurd htext (by decide)

end Policy

end CrateDocs
