import CrateDocs.Proofs.Rendering

namespace CrateDocs

/-!
# Conventions of line endings

A document whose lines end with a line feed can be written with a carriage return before each of
them. Nothing else changes: the same is told, the same line is refused for the same reason, and the
output is the one of the other document with a carriage return before each line feed.

* `Text.crlf` writes a text so, and `Line.ofText_crlf` says that its lines only end differently;
* `Report.map` puts the result of a report through a function;
* `Policy.convertLine_withCr` is the step: a line that ends differently is converted to the same,
  with the other ending;
* `Policy.convertLines_map_withCr` is the run, and `Policy.convert_crlf` says it of documents.
-/

/-! ### Carriage returns before line feeds -/

namespace Text

/-- `t` with a carriage return before each line feed. -/
def crlf (t : Text) : Text := t.flatMap fun c => if c = '\n' then ['\r', '\n'] else [c]

variable {t : Text}

theorem crlf_cons (c : Char) (t : Text) :
    crlf (c :: t) = (if c = '\n' then ['\r', '\n'] else [c]) ++ crlf t := rfl

theorem crlf_append (t u : Text) : crlf (t ++ u) = crlf t ++ crlf u := List.flatMap_append

theorem crlf_of_notMem (h : '\n' ∉ t) : crlf t = t := by
  induction t with
  | nil => rfl
  | cons c rest ih =>
    rw [List.mem_cons, not_or] at h
    rw [crlf_cons, if_neg (Ne.symm h.1), ih h.2, List.singleton_append]

end Text

/-- The ending with a carriage return before its line feed. -/
def Ending.withCr : Ending → Ending
  | none => none
  | lf => crlf
  | crlf => crlf

namespace Line

open Text

/-- The line with a carriage return before its line feed. -/
def withCr (l : Line) : Line := { l with ending := l.ending.withCr }

variable {l : Line} {lines : List Line} {body t : Text}

/-- An ending without a carriage return gets one. -/
theorem crlf_append_raw (hbody : '\n' ∉ body) {ending : Ending} (hending : ending ≠ .crlf) :
    crlf (body ++ ending.raw) = body ++ ending.withCr.raw := by
  rw [crlf_append, crlf_of_notMem hbody]
  cases ending with
  | none => rfl
  | lf => rfl
  | crlf => exact absurd rfl hending

theorem ending_withCr_ne_lf (l : Line) : l.withCr.ending ≠ .lf := by
  obtain ⟨body, ending⟩ := l
  cases ending <;> simp [withCr, Ending.withCr]

theorem ending_withCr_eq_none_iff : l.withCr.ending = .none ↔ l.ending = .none := by
  obtain ⟨body, ending⟩ := l
  cases ending <;> simp [withCr, Ending.withCr]

theorem Fits.withCr (hl : l.Fits) : l.withCr.Fits where
  lf_notMem := hl.lf_notMem
  cr_notLast := fun h => absurd h (ending_withCr_ne_lf l)
  body_ne_nil := fun h => hl.body_ne_nil (ending_withCr_eq_none_iff.1 h)

theorem AreLines.map_withCr (h : AreLines lines) : AreLines (lines.map withCr) := by
  constructor
  · intro l hl
    obtain ⟨l', hl', rfl⟩ := List.mem_map.1 hl
    exact (h.fits l' hl').withCr
  · intro l hl
    rw [← List.map_dropLast] at hl
    obtain ⟨l', hl', rfl⟩ := List.mem_map.1 hl
    rw [Ne, ending_withCr_eq_none_iff]
    exact h.terminated l' hl'

/-- The lines of a text written so are its own lines, each with its new ending. -/
theorem crlf_join (h : ∀ l ∈ lines, l.Fits ∧ l.ending ≠ .crlf) :
    crlf (join lines) = join (lines.map withCr) := by
  induction lines with
  | nil => rfl
  | cons l rest ih =>
    obtain ⟨⟨hl, hending⟩, hrest⟩ := List.forall_mem_cons.1 h
    have hraw : crlf l.raw = l.withCr.raw := crlf_append_raw hl.lf_notMem hending
    rw [join_cons, crlf_append, hraw, ih hrest, List.map_cons, join_cons]

/-- No line of a document without carriage returns has one in its ending. -/
theorem fits_of_cr_notMem (ht : '\r' ∉ t) : ∀ l ∈ ofText t, l.Fits ∧ l.ending ≠ .crlf := by
  intro l hl
  refine ⟨(areLines_ofText t).fits l hl, fun hending => ?_⟩
  apply ht
  have hmem : '\r' ∈ l.raw := by
    rw [raw, hending]
    exact List.mem_append_right l.body List.mem_cons_self
  have hjoin : '\r' ∈ join (ofText t) := List.mem_flatMap_of_mem hl hmem
  rwa [join_ofText] at hjoin

/-- **The lines only end differently.** -/
theorem ofText_crlf (ht : '\r' ∉ t) : ofText (crlf t) = (ofText t).map withCr := by
  calc ofText (crlf t)
      = ofText (crlf (join (ofText t))) := by rw [join_ofText]
    _ = ofText (join ((ofText t).map withCr)) := by rw [crlf_join (fits_of_cr_notMem ht)]
    _ = (ofText t).map withCr := ofText_join (areLines_ofText t).map_withCr

end Line

/-! ### Reports with another result -/

namespace Report

variable {α β γ : Type}

/-- The report with its result put through `f`. -/
def map (f : α → β) (x : Report α) : Report β := ⟨x.events, x.result.map f⟩

theorem map_pure (f : α → β) (a : α) : (pure a : Report α).map f = pure (f a) := rfl

theorem map_bind (f : β → γ) (x : Report α) (k : α → Report β) :
    (x >>= k).map f = x >>= fun a => (k a).map f := by
  obtain ⟨events, result⟩ := x
  cases result <;> rfl

theorem bind_map (f : α → β) (x : Report α) (k : β → Report γ) :
    x.map f >>= k = x >>= fun a => k (f a) := by
  obtain ⟨events, result⟩ := x
  cases result <;> rfl

end Report

/-! ### Converting lines that end differently -/

namespace Policy

open Line Text

variable {p : Policy} {l : Line} {lines : List Line} {x : Text}

/-- **The step.** A line that ends differently is converted to the same with its own ending. -/
theorem convertLine_withCr (hr : p.registry.Cuts) (hl : l.Fits) (hending : l.ending ≠ .crlf)
    (here : Position) : p.convertLine here l.withCr = (p.convertLine here l).map crlf := by
  have hbody : l.withCr.body = l.body := rfl
  have hnew : l.withCr.ending = l.ending.withCr := rfl
  rw [convertLine, convertLine, hbody, hnew]
  -- What is dropped or refused has no ending, and what is kept has the one of the line.
  cases hrole : here.role l.body with
  | verbatim =>
    have hraw : crlf l.raw = l.withCr.raw := crlf_append_raw hl.lf_notMem hending
    simp only [Report.map_pure, hraw]
  | gap => rfl
  | title =>
    show (if here.seenHeader && p.strict then _ else _) = Report.map crlf (if _ then _ else _)
    split <;> rfl
  | header =>
    have htail : '\n' ∉ l.body.tail := fun h => hl.lf_notMem (List.mem_of_mem_tail h)
    simp only [Position.demote_of_role_eq_header hrole, Option.elim_some, Report.map_pure,
      crlf_append_raw htail hending]
  | text =>
    simp only [Report.map_bind, Report.map_pure]
    apply Report.bind_congr
    intro body hrelink
    -- What the line is relinked to is a line of a document, so it has no line feed.
    have hnotMem : '\n' ∉ body := by
      rw [eq_relinked_of_relink hrelink]
      exact (fits_relinked hr hl).lf_notMem
    rw [crlf_append_raw hnotMem hending]

/-- **The run.** Lines that end differently are converted to the same with their own endings. -/
theorem convertLines_map_withCr (hr : p.registry.Cuts)
    (h : ∀ l ∈ lines, l.Fits ∧ l.ending ≠ .crlf) (here : Position) :
    p.convertLines here (lines.map withCr) = (p.convertLines here lines).map crlf := by
  induction lines generalizing here with
  | nil => rfl
  | cons l rest ih =>
    obtain ⟨⟨hl, hending⟩, hrest⟩ := List.forall_mem_cons.1 h
    have hnext : here.next l.withCr.body = here.next l.body := rfl
    rw [List.map_cons, convertLines, convertLines, convertLine_withCr hr hl hending, hnext,
      ih hrest, Report.bind_map, Report.map_bind]
    apply Report.bind_congr
    intro first _
    rw [Report.bind_map, Report.map_bind]
    apply Report.bind_congr
    intro others _
    rw [Report.map_pure, crlf_append]

/-- **The convention of line endings does not matter.** A document without carriage returns is
written with one before each line feed. Then the same is told; it is converted exactly if the
document itself is, and to the same output written so; and it is refused for the same reason, with
the same number, the same line and all else that the error tells. -/
theorem convert_crlf (hr : p.registry.Cuts) (hx : '\r' ∉ x) :
    (p.convert (crlf x)).events = (p.convert x).events ∧
    (∀ out', (p.convert (crlf x)).result = .ok out' ↔
      ∃ out, (p.convert x).result = .ok out ∧ out' = crlf out) ∧
    ∀ reason, (p.convert (crlf x)).result = .error reason ↔
      (p.convert x).result = .error reason := by
  have hmap : p.convert (crlf x) = (p.convert x).map crlf := by
    rw [convert, ofText_crlf hx, convertLines_map_withCr hr (fits_of_cr_notMem hx), ← convert]
  rw [hmap, Report.map]
  refine ⟨rfl, ?_, ?_⟩
  · intro out'
    cases (p.convert x).result <;> simp [Except.map, eq_comm]
  · intro reason
    cases (p.convert x).result <;> simp [Except.map]

/-- A title with the blank line after it, a header, a block, and a link at the end. -/
theorem convert_crlf_block :
    (convert ⟨"serde".toList, by decide, none, none, true, .default⟩
      "# A\r\n \r\n## B\r\n```\r\n# c\r\n```\r\n[d]: https://docs.rs/serde/1.0/".toList).result
      = .ok "# B\r\n```\r\n# c\r\n```\r\n[d]: crate".toList := by
  have h : (convert ⟨"serde".toList, by decide, none, none, true, .default⟩
      "# A\n \n## B\n```\n# c\n```\n[d]: https://docs.rs/serde/1.0/".toList).result
      = .ok "# B\n```\n# c\n```\n[d]: crate".toList := by
    decide +kernel
  have hwritten : "# A\r\n \r\n## B\r\n```\r\n# c\r\n```\r\n[d]: https://docs.rs/serde/1.0/".toList
      = crlf "# A\n \n## B\n```\n# c\n```\n[d]: https://docs.rs/serde/1.0/".toList := by
    decide +kernel
  rw [hwritten]
  exact ((convert_crlf Registry.cuts_default (by decide +kernel)).2.1 _).2
    ⟨_, h, by decide +kernel⟩

end Policy

end CrateDocs
