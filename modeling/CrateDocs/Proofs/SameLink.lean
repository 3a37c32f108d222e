import CrateDocs.Proofs.LinkDefinition
import CrateDocs.Proofs.Refusal

namespace CrateDocs

/-!
# Links that are the same

A link within the crate is made of the names on the way to its target and of the fragment. It tells
all of them, as long as no name holds a character that stands between two of them, and it tells
nothing else: neither the version, the crate and the index nor the kinds of the item and the member.

* `Target.trail` is the text of the names, and `Target.trail_injective` says that it tells them;
* `Target.render_eq_append` and `Target.render_eq_iff_of_isPlain` — two links are the same if the
  names and the fragments are;
* `Policy.same_link_iff` — so two addresses that are recognised become the same link exactly then.
-/

namespace Target

variable {t u : Target} {name : Text} {names others : List Text} {fragment fragment' : Option Text}

/-! ### The text of the names -/

/-- The names on a way, each after a separator. -/
def trail (names : List Text) : Text := names.flatMap (separator ++ ·)

theorem trail_nil : trail [] = [] := rfl

theorem trail_cons (name : Text) (names : List Text) :
    trail (name :: names) = separator ++ (name ++ trail names) := by
  rw [trail, List.flatMap_cons, List.append_assoc, ← trail]

theorem intercalate_separator (first : Text) (names : List Text) :
    separator.intercalate (first :: names) = first ++ trail names := by
  induction names generalizing first with
  | nil => rw [List.intercalate_singleton, trail_nil, List.append_nil]
  | cons name names ih =>
    rw [List.intercalate_cons_cons, ih, trail_cons, List.append_assoc]

/-- A trail that is not empty starts with a colon. -/
theorem eq_colon_of_mem_head?_trail : ∀ c ∈ (trail names).head?, c = ':' := by
  cases names with
  | nil => exact nofun
  | cons name names =>
    rw [trail_cons]
    rintro c ⟨⟩
    rfl

/-- A trail tells its names, if there is no colon in them. -/
theorem trail_injective (h : ∀ name ∈ names, ':' ∉ name) (h' : ∀ name ∈ others, ':' ∉ name)
    (heq : trail names = trail others) : names = others := by
  -- Both trails start with the first name, up to the next colon.
  induction names generalizing others with
  | nil =>
    cases others with
    | nil => rfl
    | cons other others =>
      rw [trail_nil, trail_cons] at heq
      cases heq
  | cons name names ih =>
    cases others with
    | nil =>
      rw [trail_nil, trail_cons] at heq
      cases heq
    | cons other others =>
      obtain ⟨hname, hnames⟩ := List.forall_mem_cons.1 h
      obtain ⟨hother, hothers⟩ := List.forall_mem_cons.1 h'
      have hstop : ∀ rest, ∀ c ∈ (trail rest).head?, decide (c ≠ ':') = false := by
        intro rest c hc
        simpa using eq_colon_of_mem_head?_trail c hc
      rw [trail_cons, trail_cons] at heq
      obtain ⟨rfl, hrest⟩ := Text.cut_unique (Text.forall_ne_of_notMem hname) (hstop names)
        (Text.forall_ne_of_notMem hother) (hstop others) (List.append_cancel_left heq)
      rw [ih hnames hothers hrest]

theorem mark_notMem_trail (h : ∀ name ∈ names, '#' ∉ name) : '#' ∉ trail names := by
  intro hmark
  obtain ⟨name, hname, hmem⟩ := List.mem_flatMap.1 hmark
  rcases List.mem_append.1 hmem with hseparator | hmem
  · exact absurd hseparator (by decide)
  · exact h name hname hmem

/-! ### The text of a link -/

theorem fragmentText_injective (h : Url.fragmentText fragment = Url.fragmentText fragment') :
    fragment = fragment' := by
  cases fragment <;> cases fragment' <;> simp_all [Url.fragmentText]

/-- A link is the name of the crate, the names on the way and the fragment. -/
theorem render_eq_append (t : Target) :
    t.render = crateRoot ++ (trail t.path ++ Url.fragmentText t.fragment) := by
  rw [render, intercalate_separator, List.append_assoc]
  cases t.fragment <;> rfl

/-- Whether no name on the way to a target holds a character that stands between two names or before
the fragment. -/
def IsPlain (t : Target) : Prop := ∀ name ∈ t.path, ':' ∉ name ∧ '#' ∉ name
  deriving Decidable

/-- Links to plain targets are the same if they have the same names and the same fragment. -/
theorem render_eq_iff_of_isPlain (ht : t.IsPlain) (hu : u.IsPlain) :
    t.render = u.render ↔ t.path = u.path ∧ t.fragment = u.fragment := by
  constructor
  · intro h
    have hmark : '#' ∉ trail t.path := mark_notMem_trail fun name hname => (ht name hname).2
    have hmark' : '#' ∉ trail u.path := mark_notMem_trail fun name hname => (hu name hname).2
    have hstop : ∀ fragment : Option Text, ∀ c ∈ (Url.fragmentText fragment).head?,
        decide (c ≠ '#') = false := by
      rintro (_ | f) c hc <;> cases hc
      rfl
    rw [render_eq_append, render_eq_append] at h
    -- The names end at the first `#`.
    obtain ⟨hpath, hfragment⟩ := Text.cut_unique (Text.forall_ne_of_notMem hmark)
      (hstop t.fragment) (Text.forall_ne_of_notMem hmark') (hstop u.fragment)
      (List.append_cancel_left h)
    exact ⟨trail_injective (fun name hname => (ht name hname).1)
      (fun name hname => (hu name hname).1) hpath, fragmentText_injective hfragment⟩
  · rintro ⟨hpath, hfragment⟩
    rw [render_eq_append, render_eq_append, hpath, hfragment]

end Target

namespace Policy

variable {p : Policy} {t : Target}

/-- Without expectations a link that is recognised is replaced. -/
theorem result_relink_of_recognises {line : Text} {d : LinkDefinition} {number : Int}
    (hversion : p.version = none) (hcrate : p.crate = none)
    (hline : LinkDefinition.ofLine? line = some d) (ht : p.Recognises d.url t) :
    (p.relink number line).result = .ok (d.withUrl t.render) := by
  have hrelink : p.relink number line = p.relinkDefinition number line d := by rw [relink, hline]
  rw [hrelink, result_relinkDefinition_of_recognises ht, offence?_of_eq_none hversion hcrate]

/-- **A link tells the names and the fragment, and nothing else.** Targets whose names hold neither
`:` nor `#` have the same link if and only if they have the same path and the same fragment. Without
expectations, two addresses that are recognised therefore become the same link if and only if the
names of their modules, items and members are the same, one after the other, and their bare
fragments are. -/
theorem same_link_iff :
    (∀ t u : Target, t.IsPlain → u.IsPlain →
      (t.render = u.render ↔ t.path = u.path ∧ t.fragment = u.fragment)) ∧
    ∀ (p : Policy) (line other : Text) (d e : LinkDefinition) (t u : Target) (number : Int),
      p.version = none → p.crate = none →
      LinkDefinition.ofLine? line = some d → LinkDefinition.ofLine? other = some e →
      p.Recognises d.url t → p.Recognises e.url u → t.IsPlain → u.IsPlain →
      ∃ link link', (p.relink number line).result = .ok (d.withUrl link) ∧
        (p.relink number other).result = .ok (e.withUrl link') ∧
        (link = link' ↔ t.path = u.path ∧ t.fragment = u.fragment) := by
  refine ⟨fun t u => Target.render_eq_iff_of_isPlain, ?_⟩
  intro p line other d e t u number hversion hcrate hline hother ht hu htplain huplain
  exact ⟨t.render, u.render, result_relink_of_recognises hversion hcrate hline ht,
    result_relink_of_recognises hversion hcrate hother hu,
    Target.render_eq_iff_of_isPlain htplain huplain⟩

/-- A method of a structure and one of an enumeration, of different versions and crates, become the
same link. -/
theorem same_link_iff_method :
    let p : Policy := ⟨"serde".toList, by decide, none, none, true, .default⟩
    let url := "https://docs.rs/serde/1.0/serde/de/struct.Error.html#method.custom".toList
    let url' := "https://docs.rs/serde/2.0/core/de/enum.Error.html#method.custom".toList
    ∃ link, (p.relink 1 ("[a]: ".toList ++ url)).result = .ok ("[a]: ".toList ++ link) ∧
      (p.relink 1 ("[b]: ".toList ++ url')).result = .ok ("[b]: ".toList ++ link) := by
  intro p url url'
  let t : Target :=
    { package := "serde".toList, version := some "1.0".toList, crate := some "serde".toList,
      modules := ["de".toList], item := some ⟨.struct, "Error".toList⟩,
      member := some ⟨.method, "custom".toList⟩ }
  let u : Target :=
    { package := "serde".toList, version := some "2.0".toList, crate := some "core".toList,
      modules := ["de".toList], item := some ⟨.enum, "Error".toList⟩,
      member := some ⟨.method, "custom".toList⟩ }
  have ht : p.Recognises url t := by
    unfold Recognises
    decide +kernel
  have hu : p.Recognises url' u := by
    unfold Recognises
    decide +kernel
  obtain ⟨link, link', hlink, hlink', hiff⟩ :=
    same_link_iff.2 p ("[a]: ".toList ++ url) ("[b]: ".toList ++ url') ⟨"[a]: ".toList, url, []⟩
      ⟨"[b]: ".toList, url', []⟩ t u 1 rfl rfl (by decide +kernel) (by decide +kernel) ht hu
      (by decide) (by decide)
  have hsame : link = link' := hiff.2 ⟨rfl, rfl⟩
  rw [LinkDefinition.withUrl, List.append_nil] at hlink hlink'
  exact ⟨link, hlink, hsame ▸ hlink'⟩

end Policy

end CrateDocs
