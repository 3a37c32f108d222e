import CrateDocs.Markdown.Fence
import CrateDocs.Markdown.Header
import CrateDocs.Markdown.LinkDefinition
import CrateDocs.Proofs.Path

namespace CrateDocs

/-!
# The cut of a link definition

A line that defines a link is cut in one way only: its address is the first stretch without white
space after the label.

* `LinkDefinition.IsHead` and `LinkDefinition.IsCut` — what may stand before, in and after the
  address;
* `LinkDefinition.ofLine?_eq_some_iff` — a line is cut into the parts of this form that it joins;
* `LinkDefinition.ofLine?_withUrl` — with another address it is cut at the same places.
-/

namespace Text

/-- A text without white space. -/
def IsSolid (t : Text) : Prop := ∀ c ∈ t, isBlank c = false

/-- A text of white space only, but not empty. -/
def IsGap (t : Text) : Prop := t ≠ [] ∧ ∀ c ∈ t, isBlank c = true

-- The characters of the text are gone through, not all that there are.
instance (t : Text) : Decidable t.IsSolid := List.decidableBAll (isBlank · = false) t

instance (t : Text) : Decidable t.IsGap :=
  have : Decidable (∀ c ∈ t, isBlank c = true) := List.decidableBAll (isBlank · = true) t
  inferInstanceAs (Decidable (t ≠ [] ∧ ∀ c ∈ t, isBlank c = true))

/-- A text without white space is in one line. -/
theorem IsSolid.lf_notMem {t : Text} (h : IsSolid t) : '\n' ∉ t :=
  fun hmem => absurd (h '\n' hmem) (by decide)

section Cut

variable {q : Char → Bool} {inside rest : Text}

/-- A text can be cut where the characters of a class end for the first time. -/
theorem exists_cut (q : Char → Bool) (t : Text) : ∃ inside rest : Text, t = inside ++ rest ∧
    (∀ c ∈ inside, q c = true) ∧ ∀ c ∈ rest.head?, q c = false := by
  refine ⟨t.takeWhile q, t.dropWhile q, List.takeWhile_append_dropWhile.symm,
    fun c => List.mem_takeWhile_imp, fun c hc => ?_⟩
  have hstop := List.head?_dropWhile_not q t
  rw [Option.mem_def.1 hc] at hstop
  exact hstop

theorem takeWhile_cut (hinside : ∀ c ∈ inside, q c = true) (hrest : ∀ c ∈ rest.head?, q c = false) :
    (inside ++ rest).takeWhile q = inside := by
  rw [List.takeWhile_append_of_pos hinside]
  cases rest with
  | nil => simp
  | cons c rest =>
    have hc : ¬ q c = true := by simp [hrest c rfl]
    rw [List.takeWhile_cons_of_neg hc, List.append_nil]

theorem dropWhile_cut (hinside : ∀ c ∈ inside, q c = true) (hrest : ∀ c ∈ rest.head?, q c = false) :
    (inside ++ rest).dropWhile q = rest := by
  rw [List.dropWhile_append_of_pos hinside]
  cases rest with
  | nil => rfl
  | cons c rest =>
    have hc : ¬ q c = true := by simp [hrest c rfl]
    rw [List.dropWhile_cons_of_neg hc]

/-- There is one place only where the characters of a class end for the first time. -/
theorem cut_unique {inside' rest' : Text} (hinside : ∀ c ∈ inside, q c = true)
    (hrest : ∀ c ∈ rest.head?, q c = false) (hinside' : ∀ c ∈ inside', q c = true)
    (hrest' : ∀ c ∈ rest'.head?, q c = false) (h : inside ++ rest = inside' ++ rest') :
    inside = inside' ∧ rest = rest' := by
  have hsame : inside = inside' := by
    rw [← takeWhile_cut hinside hrest, h, takeWhile_cut hinside' hrest']
  subst hsame
  exact ⟨rfl, List.append_cancel_left h⟩

end Cut

end Text

namespace LinkDefinition

open Text

/-- What stands before the address of a link definition: a label in brackets, perhaps after white
space, and a colon with white space after it. -/
def IsHead (head : Text) : Prop :=
  ∃ indent label gap : Text, (∀ c ∈ indent, isBlank c = true) ∧ label ≠ [] ∧ ']' ∉ label ∧
    IsGap gap ∧ head = indent ++ '[' :: label ++ [']', ':'] ++ gap

/-- The parts of a link definition. The address has no white space, and reaches to where there is
some. -/
structure IsCut (d : LinkDefinition) : Prop where
  head : IsHead d.head
  url_ne_nil : d.url ≠ []
  url_solid : IsSolid d.url
  tail : ∀ c ∈ d.tail.head?, isBlank c = true

variable {line label indent gap rest url tail : Text} {d : LinkDefinition}

/-! ### The address and what follows it -/

theorem ofAddress?_append (hgap : ∀ c ∈ gap, isBlank c = true)
    (haddress : ∀ c ∈ (url ++ tail).head?, isBlank c = false) (hurl : IsSolid url)
    (htail : ∀ c ∈ tail.head?, isBlank c = true) (hline : '\n' ∉ tail) :
    ofAddress? label (gap ++ (url ++ tail)) =
      if gap = [] ∨ url = [] then none else some ⟨label ++ gap, url, tail⟩ := by
  have hsolid : ∀ c ∈ url, (!isBlank c) = true := fun c hc => by rw [hurl c hc]; rfl
  have hend : ∀ c ∈ tail.head?, (!isBlank c) = false := fun c hc => by rw [htail c hc]; rfl
  simp only [ofAddress?, takeWhile_cut hgap haddress, dropWhile_cut hgap haddress,
    takeWhile_cut hsolid hend, dropWhile_cut hsolid hend, oneLine?_of_notMem hline,
    Option.bind_eq_bind, Option.bind_some]

/-- What follows the colon is cut into white space, an address and a tail. -/
theorem ofAddress?_eq_some_iff (hrest : '\n' ∉ rest) :
    ofAddress? label rest = some d ↔ ∃ gap url tail : Text, IsGap gap ∧ url ≠ [] ∧ IsSolid url ∧
      (∀ c ∈ tail.head?, isBlank c = true) ∧ rest = gap ++ (url ++ tail) ∧
      d = ⟨label ++ gap, url, tail⟩ := by
  constructor
  · intro h
    -- Cut where the white space ends, and again where there is white space next.
    obtain ⟨gap, address, rfl, hgap, haddress⟩ := exists_cut isBlank rest
    obtain ⟨url, tail, rfl, hsolid, hend⟩ := exists_cut (!isBlank ·) address
    have hurl : IsSolid url := fun c hc => by simpa using hsolid c hc
    have htail : ∀ c ∈ tail.head?, isBlank c = true := fun c hc => by simpa using hend c hc
    have hline : '\n' ∉ tail := fun h => hrest (by simp [h])
    rw [ofAddress?_append hgap haddress hurl htail hline] at h
    split at h
    case isTrue => cases h
    case isFalse hne =>
      rw [not_or] at hne
      exact ⟨gap, url, tail, ⟨hne.1, hgap⟩, hne.2, hurl, htail, rfl, (Option.some.inj h).symm⟩
  · rintro ⟨gap, url, tail, hgap, hne, hurl, htail, rfl, rfl⟩
    -- The address is not empty, so the gap ends where it starts.
    have haddress : ∀ c ∈ (url ++ tail).head?, isBlank c = false := by
      obtain ⟨first, others, rfl⟩ := List.exists_cons_of_ne_nil hne
      rintro c ⟨⟩
      exact hurl first List.mem_cons_self
    have hline : '\n' ∉ tail := fun h => hrest (by simp [h])
    rw [ofAddress?_append hgap.2 haddress hurl htail hline]
    exact if_neg (not_or.2 ⟨hgap.1, hne⟩)

/-! ### The line -/

/-- A line with a label in brackets and a colon is cut in what follows the colon. -/
theorem ofLine?_append (hindent : ∀ c ∈ indent, isBlank c = true) (hlabel : ']' ∉ label)
    (rest : Text) :
    ofLine? (indent ++ '[' :: (label ++ ']' :: ':' :: rest)) =
      if label = [] then none else ofAddress? (indent ++ '[' :: label ++ [']', ':']) rest := by
  have hbracket : ∀ c ∈ ('[' :: (label ++ ']' :: ':' :: rest)).head?, isBlank c = false := by
    rintro c ⟨⟩
    decide
  simp only [ofLine?, takeWhile_cut hindent hbracket, dropWhile_cut hindent hbracket,
    takeWhile_ne_append_cons hlabel, dropWhile_ne_append_cons hlabel]

/-- A line that defines a link has a label in brackets and a colon. -/
theorem exists_label_of_ofLine? (h : ofLine? line = some d) :
    ∃ indent label rest : Text, (∀ c ∈ indent, isBlank c = true) ∧ label ≠ [] ∧ ']' ∉ label ∧
      line = indent ++ '[' :: (label ++ ']' :: ':' :: rest) := by
  simp only [ofLine?] at h
  split at h
  case h_2 => cases h
  case h_1 bracketed hbracketed =>
    split at h
    case h_2 => cases h
    case h_1 rest hrest =>
      split at h
      case isTrue => cases h
      case isFalse hne =>
        refine ⟨line.takeWhile isBlank, bracketed.takeWhile (· ≠ ']'), rest,
          fun c => List.mem_takeWhile_imp, hne, fun hmem => ?_, ?_⟩
        · simpa using List.mem_takeWhile_imp hmem
        · rw [← hrest, List.takeWhile_append_dropWhile, ← hbracketed,
            List.takeWhile_append_dropWhile]

/-- **The cut of a link definition.** A line defines the link of the parts that it joins, if they
are of the right form. -/
theorem ofLine?_eq_some_iff (hline : '\n' ∉ line) :
    ofLine? line = some d ↔ d.IsCut ∧ line = d.head ++ d.url ++ d.tail := by
  constructor
  · intro h
    obtain ⟨indent, label, rest, hindent, hne, hlabel, rfl⟩ := exists_label_of_ofLine? h
    have hrest : '\n' ∉ rest := fun h => hline (by simp [h])
    rw [ofLine?_append hindent hlabel, if_neg hne, ofAddress?_eq_some_iff hrest] at h
    obtain ⟨gap, url, tail, hgap, hurl, hsolid, htail, rfl, rfl⟩ := h
    exact ⟨⟨⟨indent, label, gap, hindent, hne, hlabel, hgap, rfl⟩, hurl, hsolid, htail⟩, by simp⟩
  · rintro ⟨⟨⟨indent, label, gap, hindent, hne, hlabel, hgap, hhead⟩, hurl, hsolid, htail⟩, rfl⟩
    have hjoin : d.head ++ d.url ++ d.tail
        = indent ++ '[' :: (label ++ ']' :: ':' :: (gap ++ (d.url ++ d.tail))) := by
      simp [hhead]
    have hrest : '\n' ∉ gap ++ (d.url ++ d.tail) := by
      rw [hjoin] at hline
      simp only [List.mem_append, List.mem_cons, not_or] at hline ⊢
      tauto
    rw [hjoin, ofLine?_append hindent hlabel, if_neg hne, ofAddress?_eq_some_iff hrest]
    refine ⟨gap, d.url, d.tail, hgap, hurl, hsolid, htail, rfl, ?_⟩
    rw [← hhead]

/-- The parts of a link definition stay parts of one with another address. -/
theorem IsCut.withUrl (hd : d.IsCut) (hne : url ≠ []) (hsolid : IsSolid url) :
    IsCut { d with url } where
  head := hd.head
  url_ne_nil := hne
  url_solid := hsolid
  tail := hd.tail

/-- With another address, a link definition is cut at the same places. -/
theorem ofLine?_withUrl (hline : '\n' ∉ line) (hd : ofLine? line = some d) (hne : url ≠ [])
    (hsolid : IsSolid url) : ofLine? (d.withUrl url) = some { d with url } := by
  obtain ⟨hcut, rfl⟩ := (ofLine?_eq_some_iff hline).1 hd
  have hfeed : '\n' ∉ url := hsolid.lf_notMem
  have hnew : '\n' ∉ d.withUrl url := by
    simp only [List.mem_append, not_or] at hline
    simp [withUrl, hline, hfeed]
  exact (ofLine?_eq_some_iff hnew).2 ⟨hcut.withUrl hne hsolid, rfl⟩

/-! ### Other kinds of lines -/

/-- After its white space, a line that defines a link starts with a bracket. -/
theorem dropWhile_isBlank_of_ofLine? (h : ofLine? line = some d) :
    ∃ rest, line.dropWhile isBlank = '[' :: rest := by
  obtain ⟨indent, label, rest, hindent, -, -, rfl⟩ := exists_label_of_ofLine? h
  exact ⟨_, dropWhile_cut hindent (by rintro c ⟨⟩; decide)⟩

/-- A line that defines a link is no fence. -/
theorem isFence_of_ofLine? (h : ofLine? line = some d) : Fence.isFence line = false := by
  obtain ⟨rest, hrest⟩ := dropWhile_isBlank_of_ofLine? h
  rw [Fence.isFence, trimStart, hrest]
  rfl

/-- A line that defines a link is no header. -/
theorem depth?_of_ofLine? (h : ofLine? line = some d) : Header.depth? line = none := by
  obtain ⟨rest, hrest⟩ := dropWhile_isBlank_of_ofLine? h
  cases line with
  | nil => cases hrest
  | cons c line =>
    have hc : c ≠ '#' := by
      rintro rfl
      rw [List.dropWhile_cons_of_neg (by decide)] at hrest
      cases hrest
    simp [Header.depth?, hc]

end LinkDefinition

end CrateDocs
