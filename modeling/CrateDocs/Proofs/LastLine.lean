import CrateDocs.Proofs.Rendering

namespace CrateDocs

/-!
# The last line of the output

A line keeps its ending when it is converted. So a document that was converted ends with a line feed
where the document does; but where its last line is left out, it ends with the ending of a line
before, which is always there.

* `Context.isLeftOut` says which lines are left out, and `Policy.rendered_eq_none_iff` that these
  are the ones that become nothing;
* `Policy.getLast?_join_rendering_concat` — how lines end that end with one which is kept or left
  out;
* `Policy.getLast?_of_convert` — when a document that was converted ends with a line feed.
-/

/-- Whether the line `body` after the lines `before` is left out: a top-level header, or a blank
line right after one. -/
def Context.isLeftOut (before : List Line) (body : Text) : Bool :=
  level? before body = some 1 ||
    !isCode before body && Text.isAllBlank body && endsInTitle before

namespace Policy

open Context Line

variable {p : Policy} {before : List Line} {l : Line} {content out : Text}

/-- The lines that are left out are those that become nothing. -/
theorem rendered_eq_none_iff : p.rendered before l = none ↔ isLeftOut before l.body = true := by
  rw [rendered, Position.role_after, isLeftOut, level?]
  by_cases hcode : isCode before l.body = true
  · simp [hcode]
  rw [Bool.not_eq_true] at hcode
  cases hdepth : Header.depth? l.body with
  | none =>
    by_cases hgap : (endsInTitle before && Text.isAllBlank l.body) = true
    · simp [hcode, Bool.and_comm (Text.isAllBlank l.body), hgap]
    · simp [hcode, Bool.and_comm (Text.isAllBlank l.body), hgap]
  | some depth =>
    -- A header is not blank, so only its depth matters.
    have hblank : Text.isAllBlank l.body = false := by
      by_contra h
      rw [Bool.not_eq_false] at h
      rw [Header.depth?_of_isAllBlank h] at hdepth
      cases hdepth
    rcases depth with _ | _ | depth <;> simp [hcode, hblank]

/-- Lines end with a line feed after the last one if that is left out and something is left of the
others, or if it has an ending. -/
theorem getLast?_join_rendering_concat (hr : p.registry.Cuts)
    (hbefore : ∀ x ∈ before, x.Fits ∧ x.ending ≠ .none) (hl : l.Fits)
    (hne : p.rendering (before ++ [l]) ≠ []) :
    (join (p.rendering (before ++ [l]))).getLast? = some '\n' ↔
      l.ending ≠ .none ∨ isLeftOut before l.body = true := by
  rw [rendering_concat] at hne ⊢
  cases hrendered : p.rendered before l with
  | some l' =>
    obtain ⟨hfits, hending⟩ := fits_of_rendered hr hl hrendered
    have hkept : ¬ isLeftOut before l.body = true := by
      rw [← rendered_eq_none_iff (p := p), hrendered]
      exact Option.some_ne_none l'
    rw [Option.toList_some, getLast?_join_concat hfits, hending]
    exact (or_iff_left hkept).symm
  | none =>
    rw [hrendered, Option.toList_none, List.append_nil] at hne
    rw [Option.toList_none, List.append_nil]
    -- The last line that is left is one of those before, which all have an ending.
    have hends := fits_of_mem_rendering hr hbefore
    rcases List.eq_nil_or_concat (p.rendering before) with hnil | ⟨others, last, hconcat⟩
    · exact absurd hnil hne
    rw [List.concat_eq_append] at hconcat
    obtain ⟨hfits, hending⟩ := hends last (by simp [hconcat])
    rw [hconcat, getLast?_join_concat hfits]
    exact iff_of_true hending (.inr (rendered_eq_none_iff.1 hrendered))

/-- **The end of the output.** A document that was converted and is not empty then ends with a line
feed if the document does, or if the last line of the document is left out, and in no other
case. -/
theorem getLast?_of_convert (hr : p.registry.Cuts) (h : (p.convert content).result = .ok out)
    (hne : out ≠ []) :
    out.getLast? = some '\n' ↔ content.getLast? = some '\n' ∨
      ∃ before last, ofText content = before ++ [last] ∧ isLeftOut before last.body = true := by
  have hout : out = join (p.rendering (ofText content)) := by
    rw [result_convert] at h
    exact eq_join_of_joinParts_eq_ok h
  have hrendering : p.rendering (ofText content) ≠ [] := by
    intro hnil
    rw [hnil] at hout
    exact hne hout
  have hcontent : content ≠ [] := by
    rintro rfl
    exact hrendering rfl
  obtain ⟨before, last, hconcat, hbefore, hlast, hend⟩ := exists_ofText_concat hcontent
  rw [hconcat] at hout hrendering
  rw [hout, getLast?_join_rendering_concat hr hbefore hlast hrendering, hend, hconcat]
  -- The lines have one last line.
  refine or_congr_right ⟨fun hleft => ⟨before, last, rfl, hleft⟩, ?_⟩
  rintro ⟨before', last', hsame, hleft⟩
  obtain ⟨rfl, hlast'⟩ := List.append_inj' hsame rfl
  obtain rfl := List.singleton_inj.1 hlast'
  exact hleft

/-- Here the last line is a blank one after a title. -/
theorem getLast?_of_convert_gap :
    "x\n".toList.getLast? = some '\n' ↔ "x\n# T\n ".toList.getLast? = some '\n' ∨
      ∃ before last, ofText "x\n# T\n ".toList = before ++ [last] ∧
        isLeftOut before last.body = true :=
  getLast?_of_convert (p := ⟨"foo".toList, by decide, none, none, false, .default⟩)
    Registry.cuts_default (by decide +kernel) (by decide)

/-- After a line of text with an ending, the output ends with it where the last line, which has
none, is a title. -/
theorem convert_title_last :
    (convert ⟨"foo".toList, by decide, none, none, false, .default⟩ "a\n# T".toList).result
        = .ok "a\n".toList ∧
      "a\n".toList ≠ [] ∧
      ¬ ("a\n".toList.getLast? = some '\n' ↔ "a\n# T".toList.getLast? = some '\n') :=
  ⟨by decide +kernel, by decide, by decide⟩

end Policy

end CrateDocs
