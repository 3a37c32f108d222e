import CrateDocs.Proofs.InnerLink
import CrateDocs.Proofs.Lines
import CrateDocs.Proofs.Refusal

namespace CrateDocs

/-!
# What a document becomes

A line that is not refused becomes a line or nothing, and what it becomes does not depend on what
the policy holds the document to.

* `Policy.rendered` is the line that a line becomes, and `Policy.kept` and `Policy.rendering` are
  those that the lines of a document become;
* `Policy.renders_rendered` — the ways in which a line becomes one or none, which all that is proved
  of the output takes apart;
* `Policy.eq_join_of_part_eq_ok` — a line that is not refused gives the line that it becomes;
* `Policy.parts_eq_of_joinParts_eq_ok` and `Policy.eq_join_of_joinParts_eq_ok` — so do the lines of
  a document;
* `Policy.ofText_of_convert` — the lines of a document that was converted are those that its lines
  became.
-/

/-! ### Headers one level up -/

namespace Header

variable {rest : Text} {n : Nat}

/-- The text after the `#` of a header. -/
def title (line : Text) : Text := line.dropWhile (· = '#')

theorem title_cons (rest : Text) : title ('#' :: rest) = title rest :=
  List.dropWhile_cons_of_pos rfl

/-- A header below the top level is still one without its first `#`. -/
theorem depth?_of_cons (h : depth? ('#' :: rest) = some (n + 2)) : depth? rest = some (n + 1) := by
  have hmarks : ('#' :: rest).takeWhile (· = '#') = '#' :: rest.takeWhile (· = '#') :=
    List.takeWhile_cons_of_pos rfl
  have htitle : ('#' :: rest).dropWhile (· = '#') = rest.dropWhile (· = '#') :=
    List.dropWhile_cons_of_pos rfl
  -- There is one mark less, and what follows the marks is the same.
  simp only [depth?, hmarks, htitle, List.length_cons] at h ⊢
  split at h
  case isFalse => cases h
  case isTrue hheader =>
    obtain ⟨-, hle, htail⟩ := hheader
    have hlength : (rest.takeWhile (· = '#')).length = n + 1 := by
      have := Option.some.inj h
      omega
    rw [if_pos ⟨by omega, by omega, htail⟩, hlength]

/-- A header below the top level starts with two `#`. -/
theorem exists_cons_cons_of_depth? {line : Text} (h : depth? line = some (n + 2)) :
    ∃ rest, line = '#' :: '#' :: rest ∧ depth? ('#' :: rest) = some (n + 1) := by
  obtain ⟨marked, rfl⟩ := exists_cons_of_depth? h
  have hdepth := depth?_of_cons h
  obtain ⟨rest, rfl⟩ := exists_cons_of_depth? hdepth
  exact ⟨rest, rfl, hdepth⟩

/-- A header is no fence. -/
theorem isFence_of_depth? {line : Text} (h : depth? line = some n) :
    Fence.isFence line = false := by
  obtain ⟨rest, rfl⟩ := exists_cons_of_depth? h
  rw [Fence.isFence, Text.trimStart, List.dropWhile_cons_of_neg (by decide)]
  rfl

/-- A header defines no link. -/
theorem ofLine?_of_depth? {line : Text} (h : depth? line = some n) :
    LinkDefinition.ofLine? line = none := by
  cases hline : LinkDefinition.ofLine? line with
  | none => rfl
  | some d =>
    rw [LinkDefinition.depth?_of_ofLine? hline] at h
    cases h

end Header

/-- A blank line is no fence. -/
theorem Fence.isFence_of_isAllBlank {line : Text} (h : Text.isAllBlank line = true) :
    isFence line = false := by
  have hrest : Text.trimStart line = [] :=
    List.dropWhile_eq_nil_iff.2 (List.all_eq_true.1 h)
  rw [isFence, hrest]
  rfl

namespace Policy

open Context Line

variable {p : Policy} {before lines : List Line} {l l' : Line} {body text out : Text}
  {d : LinkDefinition} {t : Target}

/-! ### A line of text -/

/-- What an address is recognised as. -/
def target? (p : Policy) (url : Text) : Option Target :=
  match (p.registry.find p.package url).result with
  | .ok found => found
  | .error _ => none

/-- A link definition with the link within the crate in the place of an address that is
recognised. -/
def inner (p : Policy) (d : LinkDefinition) : LinkDefinition :=
  match p.target? d.url with
  | some t => { d with url := t.render }
  | none => d

/-- A line of text with the link within the crate in the place of an address that is
recognised. -/
def relinked (p : Policy) (body : Text) : Text :=
  match LinkDefinition.ofLine? body with
  | none => body
  | some d =>
    match p.target? d.url with
    | some t => d.withUrl t.render
    | none => body

theorem target?_eq_some_iff {url : Text} : p.target? url = some t ↔ p.Recognises url t := by
  rw [target?, Recognises]
  cases (p.registry.find p.package url).result <;> simp

theorem target?_eq_none_iff {url : Text} :
    p.target? url = none ↔ ∀ t, ¬ p.Recognises url t := by
  simp only [← target?_eq_some_iff, Option.eq_none_iff_forall_ne_some, ne_eq]

theorem inner_of_target?_eq_none (h : p.target? d.url = none) : p.inner d = d := by
  simp only [inner, h]

theorem inner_of_target?_eq_some (h : p.target? d.url = some t) :
    p.inner d = { d with url := t.render } := by
  simp only [inner, h]

/-- A line is relinked as it stands, or with the link of its address. -/
theorem relinked_cases (p : Policy) (body : Text) :
    (p.relinked body = body ∧ ∀ d, LinkDefinition.ofLine? body = some d → p.inner d = d) ∨
      ∃ d t, LinkDefinition.ofLine? body = some d ∧ p.Recognises d.url t ∧
        p.relinked body = d.withUrl t.render ∧ p.inner d = { d with url := t.render } := by
  cases hline : LinkDefinition.ofLine? body with
  | none => exact .inl ⟨by rw [relinked, hline], nofun⟩
  | some d =>
    cases htarget : p.target? d.url with
    | none =>
      refine .inl ⟨by simp only [relinked, hline, htarget], ?_⟩
      rintro _ ⟨⟩
      exact inner_of_target?_eq_none htarget
    | some t =>
      exact .inr ⟨d, t, rfl, target?_eq_some_iff.1 htarget, by simp only [relinked, hline, htarget],
        inner_of_target?_eq_some htarget⟩

/-- A line of text that is not refused is relinked. -/
theorem eq_relinked_of_relink {number : Int} (h : (p.relink number body).result = .ok text) :
    text = p.relinked body := by
  unfold relink at h
  rw [relinked]
  cases hline : LinkDefinition.ofLine? body with
  | none =>
    rw [hline] at h
    exact (Except.ok.inj h).symm
  | some d =>
    rw [hline] at h
    simp only at h ⊢
    cases hfind : (p.registry.find p.package d.url).result with
    | error reason =>
      rw [relinkDefinition, Report.result_bind, hfind] at h
      cases h
    | ok found =>
      rw [target?, hfind]
      cases found with
      | none =>
        rw [result_relinkDefinition_of_none hfind] at h
        split at h
        case isTrue => cases h
        case isFalse => exact (Except.ok.inj h).symm
      | some t =>
        rw [result_relinkDefinition_of_recognises hfind] at h
        split at h
        case h_1 => cases h
        case h_2 => exact (Except.ok.inj h).symm

/-! ### The lines that lines become -/

/-- The line that the line `l` after the lines `before` becomes, if it is not left out. -/
def rendered (p : Policy) (before : List Line) (l : Line) : Option Line :=
  match (Position.after before).role l.body with
  | .verbatim => some l
  | .gap | .title => none
  | .header => some { l with body := l.body.tail }
  | .text => some { l with body := p.relinked l.body }

/-- What the line `l` after the lines `before` becomes, with what is known of the line then. -/
inductive Renders (p : Policy) (before : List Line) (l : Line) : Option Line → Prop
  | code (hcode : isCode before l.body = true) : Renders p before l (some l)
  | gap (hcode : isCode before l.body = false) (hblank : Text.isAllBlank l.body = true) :
      Renders p before l none
  | title (hcode : isCode before l.body = false) (hdepth : Header.depth? l.body = some 1) :
      Renders p before l none
  | header {rest : Text} {n : Nat} (hcode : isCode before l.body = false)
      (hbody : l.body = '#' :: '#' :: rest) (hdepth : Header.depth? l.body = some (n + 2))
      (hraised : Header.depth? ('#' :: rest) = some (n + 1)) :
      Renders p before l (some { l with body := '#' :: rest })
  | text (hcode : isCode before l.body = false) (hdepth : Header.depth? l.body = none) :
      Renders p before l (some { l with body := p.relinked l.body })

/-- **The step.** Every line becomes something in one of these ways. -/
theorem renders_rendered (p : Policy) (before : List Line) (l : Line) :
    p.Renders before l (p.rendered before l) := by
  rw [rendered, Position.role_after]
  by_cases hcode : isCode before l.body = true
  · rw [if_pos hcode]
    exact .code hcode
  · rw [if_neg hcode]
    rw [Bool.not_eq_true] at hcode
    cases hdepth : Header.depth? l.body with
    | none =>
      by_cases hgap : (endsInTitle before && Text.isAllBlank l.body) = true
      · simp only [hgap, if_true]
        exact .gap hcode (Bool.and_eq_true_iff.1 hgap).2
      · simp only [hgap, Bool.false_eq_true, if_false]
        exact .text hcode hdepth
    | some depth =>
      rcases depth with _ | _ | n
      · exact absurd hdepth (Header.depth?_ne_zero l.body)
      · exact .title hcode hdepth
      · obtain ⟨rest, hbody, hraised⟩ := Header.exists_cons_cons_of_depth? hdepth
        have htail : l.body.tail = '#' :: rest := by rw [hbody, List.tail_cons]
        show p.Renders before l (some { l with body := l.body.tail })
        rw [htail]
        exact .header hcode hbody hdepth hraised

/-- What each line becomes. -/
def kept (p : Policy) (lines : List Line) : List (Option Line) :=
  lines.mapIdx fun i l => p.rendered (lines.take i) l

/-- The lines that lines become. -/
def rendering (p : Policy) (lines : List Line) : List Line := (p.kept lines).reduceOption

@[simp] theorem getElem?_kept (p : Policy) (lines : List Line) (i : Nat) :
    (p.kept lines)[i]? = lines[i]?.map (p.rendered (lines.take i)) :=
  List.getElem?_mapIdx

/-- What the first lines become depends on them alone. -/
theorem take_kept (p : Policy) (lines : List Line) (i : Nat) :
    (p.kept lines).take i = p.kept (lines.take i) := by
  refine List.ext_getElem? fun j => ?_
  by_cases hj : j < i
  · rw [List.getElem?_take_of_lt hj, getElem?_kept, getElem?_kept, List.getElem?_take_of_lt hj,
      List.take_take, Nat.min_eq_left (Nat.le_of_lt hj)]
  · rw [List.getElem?_take_eq_none (Nat.le_of_not_lt hj), getElem?_kept,
      List.getElem?_take_eq_none (Nat.le_of_not_lt hj), Option.map_none]

/-- A line more leaves what the lines before it become as it is. -/
theorem kept_concat (p : Policy) (lines : List Line) (l : Line) :
    p.kept (lines ++ [l]) = p.kept lines ++ [p.rendered lines l] := by
  rw [kept, List.mapIdx_concat, List.take_left' rfl]
  congr 1
  refine List.mapIdx_eq_mapIdx_iff.2 fun i hi => ?_
  rw [List.take_append_of_le_length (Nat.le_of_lt hi)]

theorem rendering_concat (p : Policy) (lines : List Line) (l : Line) :
    p.rendering (lines ++ [l]) = p.rendering lines ++ (p.rendered lines l).toList := by
  rw [rendering, kept_concat, List.reduceOption_append, List.reduceOption_singleton, ← rendering]

theorem exists_of_mem_rendering (h : l' ∈ p.rendering lines) :
    ∃ before l, l ∈ lines ∧ p.rendered before l = some l' := by
  obtain ⟨i, hi⟩ := List.mem_iff_getElem?.1 (List.reduceOption_mem_iff.1 h)
  rw [getElem?_kept, Option.map_eq_some_iff] at hi
  obtain ⟨l, hl, hrendered⟩ := hi
  exact ⟨lines.take i, l, List.mem_of_getElem? hl, hrendered⟩

/-! ### Without a refusal -/

/-- A line that is not refused gives the line that it becomes. -/
theorem eq_join_of_part_eq_ok (h : p.part before l = .ok text) :
    text = join (p.rendered before l).toList := by
  have hjoin : ∀ x : Line, join (some x).toList = x.raw := fun x => List.append_nil x.raw
  rw [← result_convertLine, convertLine] at h
  rw [rendered]
  cases hrole : (Position.after before).role l.body with
  | verbatim =>
    rw [hrole] at h
    rw [hjoin]
    exact (Except.ok.inj h).symm
  | gap =>
    rw [hrole] at h
    exact (Except.ok.inj h).symm
  | title =>
    rw [hrole] at h
    simp only at h
    split at h
    case isTrue => cases h
    case isFalse => exact (Except.ok.inj h).symm
  | header =>
    simp only [hrole, Position.demote_of_role_eq_header hrole] at h
    rw [hjoin]
    exact (Except.ok.inj h).symm
  | text =>
    rw [hrole] at h
    simp only [Report.result_bind] at h
    obtain ⟨body, hrelink, h⟩ := bind_eq_ok_iff.1 h
    rw [hjoin, ← eq_relinked_of_relink hrelink]
    exact (Except.ok.inj h).symm

theorem join_reduceOption (os : List (Option Line)) :
    join os.reduceOption = (os.map fun o => join o.toList).flatten := by
  induction os with
  | nil => rfl
  | cons o rest ih =>
    cases o with
    | none => simpa using ih
    | some l => simp [ih]

/-- Lines that are not refused give the lines that they become, one for one. -/
theorem parts_eq_of_joinParts_eq_ok (h : joinParts (p.parts [] lines) = .ok out) :
    p.parts [] lines = (p.kept lines).map fun o => .ok (join o.toList) := by
  obtain ⟨texts, htexts, -⟩ := joinParts_eq_ok_iff.1 h
  refine List.ext_getElem? fun i => ?_
  rw [List.getElem?_map, getElem?_kept, Option.map_map]
  have hpart : (p.parts [] lines)[i]? = lines[i]?.map (p.part (lines.take i)) := getElem?_parts ..
  rw [hpart]
  cases hl : lines[i]? with
  | none => rfl
  | some l =>
    -- The part is one of the texts, so there is no refusal.
    rw [hl, htexts, List.getElem?_map, Option.map_some] at hpart
    obtain ⟨text, -, htext⟩ := Option.map_eq_some_iff.1 hpart
    rw [Option.map_some, Option.map_some, Function.comp_apply, ← eq_join_of_part_eq_ok htext.symm,
      htext]

/-- Lines that are not refused give the lines that they become. -/
theorem eq_join_of_joinParts_eq_ok (h : joinParts (p.parts [] lines) = .ok out) :
    out = join (p.rendering lines) := by
  obtain ⟨texts, htexts, rfl⟩ := joinParts_eq_ok_iff.1 h
  have hmap : texts.map Except.ok = ((p.kept lines).map fun o => join o.toList).map
      (Except.ok (ε := Failure)) := by
    rw [← htexts, parts_eq_of_joinParts_eq_ok h, List.map_map]
    rfl
  rw [rendering, join_reduceOption,
    List.map_injective_iff.2 (fun _ _ hok => Except.ok.inj hok) hmap]

/-! ### The lines of the output -/

/-- A relinked line defines the link of the line, perhaps with another address. -/
theorem ofLine?_relinked (hr : p.registry.Cuts) (hbody : '\n' ∉ body) :
    LinkDefinition.ofLine? (p.relinked body) = (LinkDefinition.ofLine? body).map p.inner := by
  rcases p.relinked_cases body with ⟨hsame, hinner⟩ | ⟨d, t, hline, ht, hnew, hinner⟩
  · rw [hsame]
    cases hline : LinkDefinition.ofLine? body with
    | none => rfl
    | some d => rw [Option.map_some, hinner d hline]
  · -- The link is one word where the address was one, so the line is cut at the same places.
    have hcut := ((LinkDefinition.ofLine?_eq_some_iff hbody).1 hline).1
    have hsolid := Registry.isSolid_render hr hcut.url_solid ht
    rw [hnew, hline, Option.map_some, hinner]
    exact LinkDefinition.ofLine?_withUrl hbody hline t.render_ne_nil hsolid

/-- A relinked line is a fence if the line is. -/
theorem isFence_relinked (hr : p.registry.Cuts) (hbody : '\n' ∉ body) :
    Fence.isFence (p.relinked body) = Fence.isFence body := by
  have hdefines := ofLine?_relinked hr hbody
  rcases p.relinked_cases body with ⟨hsame, -⟩ | ⟨d, t, hline, -, -, -⟩
  · rw [hsame]
  · rw [hline] at hdefines
    rw [LinkDefinition.isFence_of_ofLine? hdefines, LinkDefinition.isFence_of_ofLine? hline]

/-- A relinked line is a header if the line is. -/
theorem depth?_relinked (hr : p.registry.Cuts) (hbody : '\n' ∉ body) :
    Header.depth? (p.relinked body) = Header.depth? body := by
  have hdefines := ofLine?_relinked hr hbody
  rcases p.relinked_cases body with ⟨hsame, -⟩ | ⟨d, t, hline, -, -, -⟩
  · rw [hsame]
  · rw [hline] at hdefines
    rw [LinkDefinition.depth?_of_ofLine? hdefines, LinkDefinition.depth?_of_ofLine? hline]

/-- A relinked line is a line of a document. -/
theorem fits_relinked (hr : p.registry.Cuts) (hl : l.Fits) :
    Fits { l with body := p.relinked l.body } := by
  rcases p.relinked_cases l.body with ⟨hsame, -⟩ | ⟨d, t, hline, ht, hnew, -⟩
  · rw [hsame]
    exact hl
  · obtain ⟨hcut, hbody⟩ := (LinkDefinition.ofLine?_eq_some_iff hl.lf_notMem).1 hline
    have hsolid := Registry.isSolid_render hr hcut.url_solid ht
    have hnotMem : ∀ c, Text.isBlank c = true → c ∉ t.render := by
      intro c hc hmem
      rw [hsolid c hmem] at hc
      cases hc
    rw [hnew, LinkDefinition.withUrl]
    constructor
    case lf_notMem =>
      have hparts := hl.lf_notMem
      rw [hbody, List.mem_append, List.mem_append, not_or, not_or] at hparts
      simp [hparts, hnotMem '\n' (by decide)]
    case cr_notLast =>
      intro hending hlast
      have hold := hl.cr_notLast hending
      rw [hbody, List.getLast?_append] at hold
      rw [List.getLast?_append] at hlast
      cases htail : d.tail.getLast? with
      | some c =>
        rw [htail] at hold hlast
        exact hold hlast
      | none =>
        -- The line ends with the link, which has no white space.
        rw [htail, Option.none_or, List.getLast?_append_of_ne_nil _ t.render_ne_nil] at hlast
        exact hnotMem '\r' (by decide) (List.mem_of_getLast? hlast)
    case body_ne_nil =>
      intro _ hnil
      exact t.render_ne_nil (List.append_eq_nil_iff.1 (List.append_eq_nil_iff.1 hnil).1).2

/-- The line that a line becomes is a line of a document, with the same ending. -/
theorem fits_of_rendered (hr : p.registry.Cuts) (hl : l.Fits)
    (h : p.rendered before l = some l') : l'.Fits ∧ l'.ending = l.ending := by
  have hrenders := p.renders_rendered before l
  rw [h] at hrenders
  cases hrenders with
  | code _ => exact ⟨hl, rfl⟩
  | @header rest _ _ hbody _ _ =>
    have hnotMem : '\n' ∉ '#' :: '#' :: rest := hbody ▸ hl.lf_notMem
    have hlast : l.ending = .lf → ('#' :: '#' :: rest).getLast? ≠ some '\r' := hbody ▸ hl.cr_notLast
    -- The second `#` keeps the line from being empty, and its last character from changing.
    exact ⟨⟨fun h => hnotMem (List.mem_cons_of_mem '#' h), hlast,
      fun _ => List.cons_ne_nil '#' rest⟩, rfl⟩
  | text _ _ => exact ⟨fits_relinked hr hl, rfl⟩

/-- What lines with an ending become are lines with an ending. -/
theorem fits_of_mem_rendering (hr : p.registry.Cuts)
    (h : ∀ x ∈ lines, x.Fits ∧ x.ending ≠ .none) :
    ∀ x ∈ p.rendering lines, x.Fits ∧ x.ending ≠ .none := by
  intro x hx
  obtain ⟨earlier, y, hy, hrendered⟩ := exists_of_mem_rendering hx
  obtain ⟨hfits, hending⟩ := h y hy
  obtain ⟨hfits', hending'⟩ := fits_of_rendered hr hfits hrendered
  exact ⟨hfits', hending' ▸ hending⟩

/-- The lines that the lines of a document become are lines of a document. -/
theorem areLines_rendering (hr : p.registry.Cuts) (h : AreLines lines) :
    AreLines (p.rendering lines) := by
  rcases List.eq_nil_or_concat lines with rfl | ⟨before, l, rfl⟩
  · exact areLines_nil
  · -- All lines but the last have an ending, and keep it.
    obtain ⟨hbefore, hl⟩ := areLines_concat.1 (by simpa using h)
    have hrendering := fits_of_mem_rendering hr hbefore
    rw [List.concat_eq_append, rendering_concat]
    cases hrendered : p.rendered before l with
    | some l' => exact areLines_concat.2 ⟨hrendering, (fits_of_rendered hr hl hrendered).1⟩
    | none =>
      rw [Option.toList_none, List.append_nil]
      exact ⟨fun x hx => (hrendering x hx).1,
        fun x hx => (hrendering x (List.dropLast_subset _ hx)).2⟩

/-- **The lines of a document that was converted** are those that its lines became. -/
theorem ofText_of_convert (hr : p.registry.Cuts) {content : Text}
    (h : (p.convert content).result = .ok out) : ofText out = p.rendering (ofText content) := by
  rw [result_convert] at h
  rw [eq_join_of_joinParts_eq_ok h, ofText_join (areLines_rendering hr (areLines_ofText content))]

end Policy

end CrateDocs
