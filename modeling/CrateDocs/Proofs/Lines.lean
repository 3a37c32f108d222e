import CrateDocs.Markdown.Line
import CrateDocs.Proofs.Path
import Mathlib.Data.List.Basic

namespace CrateDocs

/-!
# Cutting a document into its lines

A document is its lines, joined; and lines that are joined are cut at the same places again.

* `Line.Fits` and `Line.AreLines` say what a line of a document is, and what its lines are;
* `Line.areLines_ofText` and `Line.join_ofText` — a document is cut into such lines, and they join
  to it;
* `Line.ofText_join` — such lines, joined, are the lines of what they join to;
* `Line.getLast?_join_concat` — a document ends with a line feed if its last line has an ending;
* `Line.ofText_append` — a document that ends with a line feed is cut apart from what follows it;
* `Line.ofText_unique` — no other lines join to a document than those that it is cut into.
-/

namespace Line

/-- A line of a document. The line feed and the carriage return before it belong to the ending, and
a line without an ending is not empty. -/
structure Fits (l : Line) : Prop where
  lf_notMem : '\n' ∉ l.body
  cr_notLast : l.ending = .lf → l.body.getLast? ≠ some '\r'
  body_ne_nil : l.ending = .none → l.body ≠ []

/-- The lines of a document. Only the last of them may be without an ending. -/
structure AreLines (lines : List Line) : Prop where
  fits : ∀ l ∈ lines, l.Fits
  terminated : ∀ l ∈ lines.dropLast, l.ending ≠ .none

/-- Lines one after the other. -/
def join (lines : List Line) : Text := lines.flatMap raw

variable {l : Line} {lines rest : List Line} {piece t : Text}

@[simp] theorem join_nil : join [] = [] := rfl

@[simp] theorem join_cons : join (l :: rest) = l.raw ++ join rest := rfl

theorem areLines_nil : AreLines [] := ⟨nofun, nofun⟩

theorem areLines_cons :
    AreLines (l :: rest) ↔ l.Fits ∧ (l.ending = .none → rest = []) ∧ AreLines rest := by
  constructor
  · rintro ⟨hfits, hterminated⟩
    refine ⟨hfits l List.mem_cons_self, ?_, fun x hx => hfits x (List.mem_cons_of_mem l hx), ?_⟩
    · intro hnone
      by_contra hrest
      rw [List.dropLast_cons_of_ne_nil hrest] at hterminated
      exact hterminated l List.mem_cons_self hnone
    · intro x hx
      have hrest : rest ≠ [] := by
        rintro rfl
        cases hx
      rw [List.dropLast_cons_of_ne_nil hrest] at hterminated
      exact hterminated x (List.mem_cons_of_mem l hx)
  · rintro ⟨hl, hlast, hfits, hterminated⟩
    refine ⟨List.forall_mem_cons.2 ⟨hl, hfits⟩, ?_⟩
    by_cases hrest : rest = []
    · simp [hrest]
    · rw [List.dropLast_cons_of_ne_nil hrest]
      exact List.forall_mem_cons.2 ⟨fun hnone => hrest (hlast hnone), hterminated⟩

theorem areLines_concat :
    AreLines (lines ++ [l]) ↔ (∀ x ∈ lines, x.Fits ∧ x.ending ≠ .none) ∧ l.Fits := by
  constructor
  · rintro ⟨hfits, hterminated⟩
    rw [List.dropLast_concat] at hterminated
    exact ⟨fun x hx => ⟨hfits x (List.mem_append_left [l] hx), hterminated x hx⟩,
      hfits l (by simp)⟩
  · rintro ⟨hbefore, hl⟩
    refine ⟨?_, fun x hx => (hbefore x ?_).2⟩
    · rw [List.forall_mem_append]
      exact ⟨fun x hx => (hbefore x hx).1, by simpa using hl⟩
    · rwa [List.dropLast_concat] at hx

/-! ### Lines that end -/

/-- The line of a piece without line feeds is a line of a document, and has an ending. -/
theorem fits_terminated (hpiece : '\n' ∉ piece) :
    (terminated piece).Fits ∧ (terminated piece).ending ≠ .none := by
  unfold terminated
  split
  case isTrue hlast =>
    have hbody : '\n' ∉ piece.dropLast := fun h => hpiece (List.dropLast_subset piece h)
    exact ⟨⟨hbody, nofun, nofun⟩, nofun⟩
  case isFalse hlast => exact ⟨⟨hpiece, fun _ => hlast, nofun⟩, nofun⟩

/-- A line that ends is the one of a piece without line feeds. -/
theorem Fits.exists_terminated (hl : l.Fits) (hending : l.ending ≠ .none) :
    ∃ piece, '\n' ∉ piece ∧ terminated piece = l := by
  obtain ⟨body, ending⟩ := l
  cases ending with
  | none => exact absurd rfl hending
  | lf => exact ⟨body, hl.lf_notMem, if_neg (hl.cr_notLast rfl)⟩
  | crlf =>
    -- The carriage return is the last character of the piece.
    refine ⟨body ++ ['\r'], ?_, ?_⟩
    · have hbody : '\n' ∉ body := hl.lf_notMem
      simp [hbody]
    · rw [terminated, List.getLast?_concat, if_pos rfl, List.dropLast_concat]

/-- The first line of a document ends at its first line feed. -/
theorem ofText_append_cons (hpiece : '\n' ∉ piece) (t : Text) :
    ofText (piece ++ '\n' :: t) = terminated piece :: ofText t := by
  obtain ⟨next, others, hpieces⟩ := List.exists_cons_of_ne_nil (List.splitOn_ne_nil '\n' t)
  rw [ofText, ofText, List.splitOn_append_cons_self_of_not_mem hpiece, hpieces]
  rfl

/-- A line that ends is cut off the text that it starts. -/
theorem ofText_raw_append (hl : l.Fits) (hending : l.ending ≠ .none) (t : Text) :
    ofText (l.raw ++ t) = l :: ofText t := by
  obtain ⟨piece, hpiece, rfl⟩ := hl.exists_terminated hending
  rw [raw_terminated, List.append_assoc, List.singleton_append, ofText_append_cons hpiece]

/-- A text without line feeds is a single line. -/
theorem ofText_of_notMem (ht : '\n' ∉ t) (hne : t ≠ []) : ofText t = [⟨t, .none⟩] := by
  rw [ofText, List.splitOn_eq_singleton ht]
  exact if_neg hne

/-- A document whose start has no ending in it has a first line, which starts the same way. -/
theorem exists_ofText_append {start : Text} (hne : start ≠ []) (hlf : '\n' ∉ start)
    (hcr : '\r' ∉ start) (t : Text) :
    ∃ first rest, ofText (start ++ t) = first :: rest ∧ start <+: first.body := by
  by_cases ht : '\n' ∈ t
  · obtain ⟨piece, others, rfl, hpiece⟩ := List.eq_append_cons_of_mem ht
    have hfirst : '\n' ∉ start ++ piece := by simp [hlf, hpiece]
    refine ⟨terminated (start ++ piece), ofText others, ?_, ?_⟩
    · rw [← List.append_assoc, ofText_append_cons hfirst]
    · unfold terminated
      split
      case isTrue hlast =>
        -- The carriage return that belongs to the ending does not stand in the start.
        have hpiece : piece ≠ [] := by
          rintro rfl
          rw [List.append_nil] at hlast
          exact hcr (List.mem_of_getLast? hlast)
        rw [List.dropLast_append_of_ne_nil hpiece]
        exact List.prefix_append start _
      case isFalse => exact List.prefix_append start piece
  · have hline : '\n' ∉ start ++ t := by simp [hlf, ht]
    have hnonempty : start ++ t ≠ [] := List.append_ne_nil_of_left_ne_nil hne t
    exact ⟨⟨start ++ t, .none⟩, [], ofText_of_notMem hline hnonempty, List.prefix_append start t⟩

/-! ### Cutting and joining -/

/-- Pieces without line feeds make lines. -/
theorem areLines_ofPieces {pieces : List Text} (h : ∀ piece ∈ pieces, '\n' ∉ piece) :
    AreLines (ofPieces pieces) := by
  induction pieces with
  | nil => exact areLines_nil
  | cons piece rest ih =>
    obtain ⟨hpiece, hrest⟩ := List.forall_mem_cons.1 h
    cases rest with
    | nil =>
      by_cases hne : piece = []
      · rw [hne]
        exact areLines_nil
      · rw [ofPieces, if_neg hne]
        exact areLines_cons.2 ⟨⟨hpiece, nofun, fun _ => hne⟩, fun _ => rfl, areLines_nil⟩
    | cons next others =>
      -- A piece before another one has the line feed between them for its ending.
      obtain ⟨hfits, hending⟩ := fits_terminated hpiece
      exact areLines_cons.2 ⟨hfits, fun hnone => absurd hnone hending, ih hrest⟩

/-- A document is cut into lines. -/
theorem areLines_ofText (t : Text) : AreLines (ofText t) :=
  areLines_ofPieces fun _ => Text.notMem_of_mem_splitOn

/-- The lines of pieces join to them with a line feed between any two. -/
theorem join_ofPieces {pieces : List Text} (h : pieces ≠ []) :
    join (ofPieces pieces) = ['\n'].intercalate pieces := by
  induction pieces with
  | nil => exact absurd rfl h
  | cons piece rest ih =>
    cases rest with
    | nil =>
      by_cases hne : piece = []
      · rw [hne]
        rfl
      · rw [ofPieces, if_neg hne]
        simp [raw, Ending.raw]
    | cons next others =>
      have hlines : ofPieces (piece :: next :: others)
          = terminated piece :: ofPieces (next :: others) := rfl
      rw [hlines, join_cons, raw_terminated, ih (List.cons_ne_nil next others),
        List.intercalate_cons_cons]

/-- A document is its lines, joined. -/
theorem join_ofText (t : Text) : join (ofText t) = t := by
  rw [ofText, join_ofPieces (List.splitOn_ne_nil '\n' t), List.intercalate_splitOn]

/-- Lines are cut again where they were joined. -/
theorem ofText_join (h : AreLines lines) : ofText (join lines) = lines := by
  induction lines with
  | nil => rfl
  | cons l rest ih =>
    obtain ⟨hl, hlast, hrest⟩ := areLines_cons.1 h
    by_cases hending : l.ending = .none
    · -- The last line is all that is left of the text.
      obtain rfl := hlast hending
      obtain ⟨body, ending⟩ := l
      obtain rfl : ending = .none := hending
      have hraw : join [⟨body, .none⟩] = body := by simp [raw, Ending.raw]
      rw [hraw, ofText_of_notMem hl.lf_notMem (hl.body_ne_nil rfl)]
    · rw [join_cons, ofText_raw_append hl hending, ih hrest]

/-- The lines of a document are the only ones that join to it. -/
theorem ofText_eq_iff : ofText t = lines ↔ AreLines lines ∧ join lines = t := by
  constructor
  · rintro rfl
    exact ⟨areLines_ofText t, join_ofText t⟩
  · rintro ⟨hlines, rfl⟩
    exact ofText_join hlines

/-! ### The end of a document -/

/-- A line of a document ends with a line feed if it has an ending. -/
theorem Fits.getLast?_raw (hl : l.Fits) : l.raw.getLast? = some '\n' ↔ l.ending ≠ .none := by
  obtain ⟨body, ending⟩ := l
  cases ending with
  | none =>
    have hbody : '\n' ∉ body := hl.lf_notMem
    show (body ++ []).getLast? = some '\n' ↔ Ending.none ≠ .none
    rw [List.append_nil]
    exact iff_of_false (fun hlast => hbody (List.mem_of_getLast? hlast)) (fun hne => hne rfl)
  | lf => simp [raw, Ending.raw]
  | crlf => simp [raw, Ending.raw]

theorem Fits.raw_ne_nil (hl : l.Fits) : l.raw ≠ [] := by
  intro hnil
  obtain ⟨hbody, hending⟩ := List.append_eq_nil_iff.1 hnil
  apply hl.body_ne_nil _ hbody
  cases h : l.ending <;> simp [h, Ending.raw] at hending ⊢

/-- Lines end with a line feed if the last of them has an ending. -/
theorem getLast?_join_concat (hl : l.Fits) :
    (join (lines ++ [l])).getLast? = some '\n' ↔ l.ending ≠ .none := by
  rw [join, List.flatMap_append, List.flatMap_singleton,
    List.getLast?_append_of_ne_nil _ hl.raw_ne_nil, hl.getLast?_raw]

/-- A document that is not empty has a last line, and ends with a line feed if that line has an
ending. All lines before it have one. -/
theorem exists_ofText_concat (ht : t ≠ []) :
    ∃ before last, ofText t = before ++ [last] ∧ (∀ x ∈ before, x.Fits ∧ x.ending ≠ .none) ∧
      last.Fits ∧ (t.getLast? = some '\n' ↔ last.ending ≠ .none) := by
  obtain ⟨hlines, hjoin⟩ := ofText_eq_iff.1 (rfl : ofText t = _)
  rcases List.eq_nil_or_concat (ofText t) with hnil | ⟨before, last, hconcat⟩
  · rw [hnil] at hjoin
    exact absurd hjoin.symm ht
  rw [List.concat_eq_append] at hconcat
  rw [hconcat] at hlines hjoin
  obtain ⟨hbefore, hlast⟩ := areLines_concat.1 hlines
  exact ⟨before, last, hconcat, hbefore, hlast, by rw [← getLast?_join_concat hlast, hjoin]⟩

/-- All lines of a document end if the document does. -/
theorem ending_ne_none_of_getLast? (ht : t = [] ∨ t.getLast? = some '\n') :
    ∀ l ∈ ofText t, l.ending ≠ .none := by
  by_cases hne : t = []
  · simp [hne]
  obtain ⟨before, last, hconcat, hbefore, -, hend⟩ := exists_ofText_concat hne
  have hlast : last.ending ≠ .none := hend.1 (ht.resolve_left hne)
  intro l hl
  rw [hconcat, List.mem_append, List.mem_singleton] at hl
  rcases hl with hl | rfl
  · exact (hbefore l hl).2
  · exact hlast

/-! ### Documents one after the other -/

/-- Lines that end are cut off the text that they start. -/
theorem ofText_join_append (h : ∀ l ∈ lines, l.Fits ∧ l.ending ≠ .none) (t : Text) :
    ofText (join lines ++ t) = lines ++ ofText t := by
  induction lines with
  | nil => rfl
  | cons l rest ih =>
    obtain ⟨⟨hl, hending⟩, hrest⟩ := List.forall_mem_cons.1 h
    rw [join_cons, List.append_assoc, ofText_raw_append hl hending, ih hrest]
    rfl

/-- A document that ends is cut apart from what follows it. -/
theorem ofText_append (ht : t = [] ∨ t.getLast? = some '\n') (u : Text) :
    ofText (t ++ u) = ofText t ++ ofText u := by
  have hlines : ∀ l ∈ ofText t, l.Fits ∧ l.ending ≠ .none := fun l hl =>
    ⟨(areLines_ofText t).fits l hl, ending_ne_none_of_getLast? ht l hl⟩
  calc ofText (t ++ u)
      = ofText (join (ofText t) ++ u) := by rw [join_ofText]
    _ = ofText t ++ ofText u := ofText_join_append hlines u

/-- **A document is cut into its lines in one way only.** It is what its lines join to. No line
holds a line feed or ends with a carriage return where a line feed alone is its ending; and only the
last line may be without an ending, and is not empty then. No other lines of this kind join to the
document. And if the document is empty or ends with a line feed, another one that follows it is cut
as if it stood alone. -/
theorem ofText_unique (t : Text) :
    join (ofText t) = t ∧ AreLines (ofText t) ∧
      (∀ lines, AreLines lines → join lines = t → lines = ofText t) ∧
      ((t = [] ∨ t.getLast? = some '\n') → ∀ u, ofText (t ++ u) = ofText t ++ ofText u) :=
  ⟨join_ofText t, areLines_ofText t,
    fun _ hlines hjoin => (ofText_eq_iff.2 ⟨hlines, hjoin⟩).symm, fun ht => ofText_append ht⟩

/-- Of two carriage returns before a line feed the first belongs to the line, and so does one at the
end of the document. -/
theorem ofText_unique_cr :
    ofText ("a\r\r\n\n".toList ++ "b\r".toList)
      = [⟨"a\r".toList, .crlf⟩, ⟨[], .lf⟩, ⟨"b\r".toList, .none⟩] := by
  rw [(ofText_unique "a\r\r\n\n".toList).2.2.2 (.inr (by decide))]
  decide

end Line

end CrateDocs
