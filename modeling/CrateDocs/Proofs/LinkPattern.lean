import CrateDocs.Policy
import CrateDocs.Proofs.LinkDefinition

namespace CrateDocs

/-!
# The pattern of a link definition

A link definition is a run of five pieces: white space, a label in brackets with a colon, white
space, an address, and the rest of the line. Where one piece ends and the next one starts is not
left open, though a label may have brackets, colons and white space in it.

* `LinkDefinition.Pieces` — the pieces, and the line that they make;
* `LinkDefinition.Pieces.IsMatch` and `LinkDefinition.Pieces.IsFull` — pieces that follow the
  pattern, and those whose address is as long as it can be;
* `LinkDefinition.Pieces.IsMatch.agree` — pieces of one line that follow the pattern are the same up
  to the address;
* `LinkDefinition.ofLine?_pieces` — the lines that define a link, and the one way in which each of
  them is cut.
-/

namespace LinkDefinition

open Text

/-- The pieces of a line that follows the pattern of link definitions. -/
structure Pieces where
  /-- the white space that the line starts with -/
  indent : Text
  /-- what stands in the brackets -/
  label : Text
  /-- the white space after the colon -/
  gap : Text
  url : Text
  /-- the rest of the line -/
  tail : Text

namespace Pieces

/-- What stands before the address. -/
def head (q : Pieces) : Text := q.indent ++ '[' :: q.label ++ [']', ':'] ++ q.gap

/-- The line that the pieces make. -/
def line (q : Pieces) : Text := q.head ++ q.url ++ q.tail

/-- The pieces as the cut of a line around the address. -/
def definition (q : Pieces) : LinkDefinition := ⟨q.head, q.url, q.tail⟩

/-- Pieces that follow the pattern. The address may stop anywhere. -/
structure IsMatch (q : Pieces) : Prop where
  indent : ∀ c ∈ q.indent, isBlank c = true
  label_ne_nil : q.label ≠ []
  label : ']' ∉ q.label
  gap : IsGap q.gap
  url_ne_nil : q.url ≠ []
  url : IsSolid q.url

/-- Pieces that follow the pattern, with an address that reaches to the next white space. -/
structure IsFull (q : Pieces) : Prop extends q.IsMatch where
  tail : ∀ c ∈ q.tail.head?, isBlank c = true

variable {q q' : Pieces} {line : Text} {d : LinkDefinition}

theorem line_eq_append (q : Pieces) :
    q.line = q.indent ++ ('[' :: (q.label ++ (']' :: ':' :: (q.gap ++ (q.url ++ q.tail))))) := by
  simp [Pieces.line, head]

/-! ### The cut of a line -/

/-- The address, which is not empty, ends the white space before it. -/
theorem IsMatch.head?_url_append (h : q.IsMatch) :
    ∀ c ∈ (q.url ++ q.tail).head?, isBlank c = false := by
  intro c hc
  obtain ⟨first, others, hurl⟩ := List.exists_cons_of_ne_nil h.url_ne_nil
  rw [hurl, List.cons_append, List.head?_cons, Option.mem_some_iff] at hc
  exact h.url c (by rw [hurl, hc]; exact List.mem_cons_self)

/-- Pieces of one line that follow the pattern are the same up to the address. -/
theorem IsMatch.agree (h : q.IsMatch) (h' : q'.IsMatch) (hline : q.line = q'.line) :
    q.indent = q'.indent ∧ q.label = q'.label ∧ q.gap = q'.gap ∧
      q.url ++ q.tail = q'.url ++ q'.tail := by
  rw [line_eq_append, line_eq_append] at hline
  -- The first bracket is not white space, so the indent ends there.
  have hopen : ∀ rest : Text, ∀ c ∈ ('[' :: rest).head?, isBlank c = false := by
    rintro rest c ⟨⟩
    decide
  obtain ⟨hindent, hline⟩ := cut_unique h.indent (hopen _) h'.indent (hopen _) hline
  -- The label has no closing bracket, so it ends at the first one.
  have hlabel : ∀ c ∈ q.label, (c ≠ ']' : Bool) = true := forall_ne_of_notMem h.label
  have hlabel' : ∀ c ∈ q'.label, (c ≠ ']' : Bool) = true := forall_ne_of_notMem h'.label
  have hclose : ∀ rest : Text, ∀ c ∈ (']' :: rest).head?, (c ≠ ']' : Bool) = false := by
    rintro rest c ⟨⟩
    decide
  obtain ⟨hlabel, hline⟩ :=
    cut_unique hlabel (hclose _) hlabel' (hclose _) (List.cons.inj hline).2
  have hrest : q.gap ++ (q.url ++ q.tail) = q'.gap ++ (q'.url ++ q'.tail) :=
    (List.cons.inj (List.cons.inj hline).2).2
  obtain ⟨hgap, haddress⟩ :=
    cut_unique h.gap.2 h.head?_url_append h'.gap.2 h'.head?_url_append hrest
  exact ⟨hindent, hlabel, hgap, haddress⟩

theorem IsMatch.head_eq (h : q.IsMatch) (h' : q'.IsMatch) (hline : q.line = q'.line) :
    q.head = q'.head := by
  obtain ⟨hindent, hlabel, hgap, -⟩ := h.agree h' hline
  rw [head, head, hindent, hlabel, hgap]

/-- The address of any pieces that follow the pattern is a start of the one that reaches to the next
white space. -/
theorem IsMatch.url_prefix (h : q.IsMatch) (h' : q'.IsFull) (hline : q.line = q'.line) :
    q.url <+: q'.url := by
  obtain ⟨-, -, -, haddress⟩ := h.agree h'.toIsMatch hline
  have hurl : ∀ c ∈ q.url, (!isBlank c) = true := fun c hc => by simp [h.url c hc]
  have hurl' : ∀ c ∈ q'.url, (!isBlank c) = true := fun c hc => by simp [h'.url c hc]
  have htail' : ∀ c ∈ q'.tail.head?, (!isBlank c) = false := fun c hc => by simp [h'.tail c hc]
  refine ⟨q.tail.takeWhile (!isBlank ·), ?_⟩
  calc q.url ++ q.tail.takeWhile (!isBlank ·)
      = (q.url ++ q.tail).takeWhile (!isBlank ·) := (List.takeWhile_append_of_pos hurl).symm
    _ = (q'.url ++ q'.tail).takeWhile (!isBlank ·) := by rw [haddress]
    _ = q'.url := takeWhile_cut hurl' htail'

/-- A line has no two such runs of pieces. -/
theorem IsFull.unique (h : q.IsFull) (h' : q'.IsFull) (hline : q.line = q'.line) : q = q' := by
  obtain ⟨hindent, hlabel, hgap, haddress⟩ := h.agree h'.toIsMatch hline
  -- Each of the two addresses is a start of the other.
  have hle : q.url <+: q'.url := h.url_prefix h' hline
  have hge : q'.url <+: q.url := h'.url_prefix h hline.symm
  have hurl : q.url = q'.url := hle.eq_of_length_le hge.length_le
  have htail : q.tail = q'.tail := by
    rw [hurl] at haddress
    exact List.append_cancel_left haddress
  cases q
  cases q'
  simp only [mk.injEq]
  exact ⟨hindent, hlabel, hgap, hurl, htail⟩

theorem isCut_iff : d.IsCut ↔ ∃ q : Pieces, q.IsFull ∧ q.definition = d := by
  constructor
  · rintro ⟨⟨indent, label, gap, hindent, hne, hlabel, hgap, hhead⟩, hurl, hsolid, htail⟩
    refine ⟨⟨indent, label, gap, d.url, d.tail⟩,
      ⟨⟨hindent, hne, hlabel, hgap, hurl, hsolid⟩, htail⟩, ?_⟩
    rw [definition, head, ← hhead]
  · rintro ⟨q, hq, rfl⟩
    exact ⟨⟨q.indent, q.label, q.gap, hq.indent, hq.label_ne_nil, hq.label, hq.gap, rfl⟩,
      hq.url_ne_nil, hq.url, hq.tail⟩

end Pieces

open Pieces

variable {line : Text}

theorem ofLine?_eq_some_iff_pieces (hline : '\n' ∉ line) {d : LinkDefinition} :
    ofLine? line = some d ↔ ∃ q : Pieces, q.IsFull ∧ q.line = line ∧ q.definition = d := by
  rw [ofLine?_eq_some_iff hline, isCut_iff]
  constructor
  · rintro ⟨⟨q, hq, rfl⟩, rfl⟩
    exact ⟨q, hq, rfl, rfl⟩
  · rintro ⟨q, hq, rfl, rfl⟩
    exact ⟨⟨q, hq, rfl⟩, rfl⟩

theorem isSome_ofLine?_iff (hline : '\n' ∉ line) :
    (ofLine? line).isSome = true ↔ ∃ q : Pieces, q.IsFull ∧ q.line = line := by
  rw [Option.isSome_iff_exists]
  constructor
  · rintro ⟨d, hd⟩
    obtain ⟨q, hq, hjoin, -⟩ := (ofLine?_eq_some_iff_pieces hline).1 hd
    exact ⟨q, hq, hjoin⟩
  · rintro ⟨q, hq, hjoin⟩
    exact ⟨q.definition, (ofLine?_eq_some_iff_pieces hline).2 ⟨q, hq, hjoin, rfl⟩⟩

/-- **The pattern of a link definition.** A line defines a link if it can be written in pieces that
follow the pattern, with an address that reaches to the next white space. There is one such way to
write it, and the line is cut around the address of its pieces and taken for a link definition with
these parts; in any other way to follow the pattern the same stands before the address, of which
only a start is taken. A line of no such pieces is taken for text. -/
theorem ofLine?_pieces (hline : '\n' ∉ line) :
    ((ofLine? line).isSome = true ↔ ∃ q : Pieces, q.IsFull ∧ q.line = line) ∧
      (∀ q : Pieces, q.IsFull → q.line = line →
        (∀ q' : Pieces, q'.IsFull → q'.line = line → q' = q) ∧
        (∀ q' : Pieces, q'.IsMatch → q'.line = line → q'.head = q.head ∧ q'.url <+: q.url) ∧
        ofLine? line = some ⟨q.head, q.url, q.tail⟩ ∧ q.head ++ q.url ++ q.tail = line ∧
        ∀ (p : Policy) (number : Int),
          p.relink number line = p.relinkDefinition number line ⟨q.head, q.url, q.tail⟩) ∧
      ((¬ ∃ q : Pieces, q.IsFull ∧ q.line = line) →
        ∀ (p : Policy) (number : Int), p.relink number line = pure line) := by
  have hsome := isSome_ofLine?_iff hline
  refine ⟨hsome, fun q hq hjoin => ?_, fun hnone p number => ?_⟩
  · have hcut : ofLine? line = some ⟨q.head, q.url, q.tail⟩ :=
      (ofLine?_eq_some_iff_pieces hline).2 ⟨q, hq, hjoin, rfl⟩
    refine ⟨fun q' hq' hjoin' => hq'.unique hq (hjoin'.trans hjoin.symm),
      fun q' hq' hjoin' => ?_, hcut, hjoin, fun p number => ?_⟩
    · have hsame : q'.line = q.line := hjoin'.trans hjoin.symm
      exact ⟨hq'.head_eq hq.toIsMatch hsame, hq'.url_prefix hq hsame⟩
    · rw [Policy.relink, hcut]
  · rw [← hsome, Bool.not_eq_true, Option.isSome_eq_false_iff, Option.isNone_iff_eq_none] at hnone
    rw [Policy.relink, hnone]

/-- A label with a bracket and white space in it, and a title after the address. -/
theorem ofLine?_pieces_title :
    ofLine? "\t[a [b]:  https://docs.rs/foo \"T\"".toList
      = some ⟨"\t[a [b]:  ".toList, "https://docs.rs/foo".toList, " \"T\"".toList⟩ := by
  have hline : '\n' ∉ "\t[a [b]:  https://docs.rs/foo \"T\"".toList := by decide
  have hmatch : Pieces.IsMatch
      ⟨['\t'], "a [b".toList, "  ".toList, "https://docs.rs/foo".toList, " \"T\"".toList⟩ :=
    ⟨List.forall_mem_singleton.2 (by decide), by decide, by decide, by decide, by decide, by decide⟩
  have htail : ∀ c ∈ " \"T\"".toList.head?, isBlank c = true := by
    rintro c ⟨⟩
    decide
  obtain ⟨-, hpieces, -⟩ := ofLine?_pieces hline
  obtain ⟨-, -, hcut, -⟩ := hpieces _ ⟨hmatch, htail⟩ (by decide)
  exact hcut

end LinkDefinition

end CrateDocs
