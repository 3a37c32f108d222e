import CrateDocs.Proofs.Reading

namespace CrateDocs

/-!
# Code has no influence

Lines of code can be replaced by other lines of code, and nothing else of a conversion changes.

* `Fence.Recodes` says that lines are other lines but for some of the code in blocks;
* `Position.next_of_inBlock` is the step: the position after a line in a block does not depend on
  what stands in the line;
* `Fence.Recodes.after_take` — so a line stands at the same position among the ones and the others;
* `Policy.convertLines_of_recodes` — the same is told, and the same line is refused or none;
* `Policy.convert_of_recodes` — a document with other code is refused for the same reason, or
  converted to the same with the other code in its place.
-/

namespace Fence

variable {isOpen : Bool} {lines lines' : List Line}

/-- Whether `lines'` are `lines` with other lines in the place of some that stand in a block. No
fence goes or comes, and endings stay as they are. A block is open before the lines or not. -/
inductive Recodes : Bool → List Line → List Line → Prop
  | nil {isOpen : Bool} : Recodes isOpen [] []
  | same {isOpen : Bool} {l : Line} {rest rest' : List Line}
      (hrest : Recodes (opensAfter isOpen l.body) rest rest') :
      Recodes isOpen (l :: rest) (l :: rest')
  | other {l l' : Line} {rest rest' : List Line} (hfence : isFence l.body = false)
      (hfence' : isFence l'.body = false) (hending : l'.ending = l.ending)
      (hrest : Recodes true rest rest') : Recodes true (l :: rest) (l' :: rest')

namespace Recodes

theorem length_eq (h : Recodes isOpen lines lines') : lines'.length = lines.length := by
  induction h with
  | nil => rfl
  | same _ ih => rw [List.length_cons, List.length_cons, ih]
  | other _ _ _ _ ih => rw [List.length_cons, List.length_cons, ih]

theorem take (h : Recodes isOpen lines lines') (i : Nat) :
    Recodes isOpen (lines.take i) (lines'.take i) := by
  induction h generalizing i with
  | nil =>
    rw [List.take_nil]
    exact .nil
  | same _ ih =>
    cases i with
    | zero => exact .nil
    | succ i => exact .same (ih i)
  | other hfence hfence' hending _ ih =>
    cases i with
    | zero => exact .nil
    | succ i => exact .other hfence hfence' hending (ih i)

/-- Only where a block is open there is another line, and then neither of the two is a fence. -/
theorem eq_or_endsOpen (h : Recodes isOpen lines lines') {i : Nat} {l l' : Line}
    (hl : lines[i]? = some l) (hl' : lines'[i]? = some l') :
    l' = l ∨ endsOpen isOpen (lines.take i) = true := by
  induction h generalizing i with
  | nil => cases hl
  | same _ ih =>
    cases i with
    | zero => exact .inl (Option.some.inj (hl'.symm.trans hl))
    | succ i => exact ih hl hl'
  | @other first _ _ _ hfence _ _ _ ih =>
    cases i with
    | zero => exact .inr rfl
    | succ i =>
      have hopen : opensAfter true first.body = true := by rw [opensAfter, hfence]; rfl
      rw [List.take_succ_cons, endsOpen, List.foldl_cons, hopen]
      exact ih hl hl'

end Recodes

end Fence

/-! ### Positions -/

namespace Position

open Fence

variable {here : Position} {body : Text}

/-- All lines in a block are code. -/
theorem role_of_inBlock (hblock : here.inBlock = true) : here.role body = .verbatim := by
  rw [role, isVerbatim, hblock, Bool.or_true]
  rfl

/-- **The step.** The position after a line in a block does not depend on what stands in the line,
unless it is a fence. -/
theorem next_of_inBlock (hblock : here.inBlock = true) (hfence : isFence body = false) :
    here.next body = { here with number := here.number + 1, afterTitle := false } := by
  rw [next, role_of_inBlock hblock, opensAfter, hfence, hblock]
  simp

end Position

namespace Fence.Recodes

open Position

variable {isOpen : Bool} {lines lines' : List Line}

/-- After lines with other code the position is the same. -/
theorem after_append (h : Recodes isOpen lines lines') (before before' : List Line)
    (hafter : after before' = after before) (hopen : (after before).inBlock = isOpen) :
    after (before' ++ lines') = after (before ++ lines) := by
  -- The lines before grow by one line at a time, and what is known of their positions is passed on.
  induction h generalizing before before' with
  | nil => rw [List.append_nil, List.append_nil, hafter]
  | @same _ l rest rest' _ ih =>
    rw [List.append_cons before', List.append_cons before]
    refine ih _ _ ?_ ?_
    · rw [← next_after, ← next_after, hafter]
    · rw [← next_after, ← hopen]
      rfl
  | @other l l' rest rest' hfence hfence' _ _ ih =>
    have hnext : after (before ++ [l]) = _ :=
      (next_after before l).symm.trans (next_of_inBlock hopen hfence)
    have hnext' : after (before' ++ [l']) = _ :=
      (next_after before' l').symm.trans (next_of_inBlock (hafter ▸ hopen) hfence')
    rw [List.append_cons before', List.append_cons before]
    refine ih _ _ ?_ ?_
    · rw [hnext, hnext', hafter]
    · rw [hnext]
      exact hopen

/-- A line stands at the same position among lines with other code. -/
theorem after_take (h : Recodes false lines lines') (i : Nat) :
    after (lines'.take i) = after (lines.take i) :=
  (h.take i).after_append [] [] rfl rfl

end Fence.Recodes

namespace Policy

open Fence Line

variable {p : Policy} {lines lines' : List Line} {l l' : Line} {content content' : Text}

/-! ### What is told and refused -/

/-- A line in a block stays as it is, without a word. -/
theorem convertLine_of_inBlock {here : Position} (hblock : here.inBlock = true) (l : Line) :
    p.convertLine here l = pure l.raw := by
  rw [convertLine, Position.role_of_inBlock hblock]

/-- After a line that is not refused, the others decide. -/
theorem convertLines_cons_of_ok {here : Position} {first : Text}
    (h : (p.convertLine here l).result = .ok first) (rest : List Line) :
    (p.convertLines here (l :: rest)).events
        = (p.convertLine here l).events ++ (p.convertLines (here.next l.body) rest).events ∧
      ∀ reason, (p.convertLines here (l :: rest)).result = .error reason ↔
        (p.convertLines (here.next l.body) rest).result = .error reason := by
  rw [convertLines, Report.events_bind, Report.result_bind_of_ok h, h]
  dsimp only
  rw [Report.events_bind, Report.result_bind]
  cases (p.convertLines (here.next l.body) rest).result with
  | error reason => exact ⟨by rw [List.append_nil], fun _ => Iff.rfl⟩
  | ok others =>
    refine ⟨by simp, fun reason => iff_of_false ?_ ?_⟩
    · rintro ⟨⟩
    · rintro ⟨⟩

/-- **The run.** Lines with other code have the same events, and are refused for the same reason if
they are. -/
theorem convertLines_of_recodes {isOpen : Bool} (h : Recodes isOpen lines lines') (here : Position)
    (hopen : here.inBlock = isOpen) :
    (p.convertLines here lines').events = (p.convertLines here lines).events ∧
      ∀ reason, (p.convertLines here lines').result = .error reason ↔
        (p.convertLines here lines).result = .error reason := by
  induction h generalizing here with
  | nil => exact ⟨rfl, fun _ => Iff.rfl⟩
  | @same _ l rest rest' _ ih =>
    obtain ⟨hevents, hresult⟩ := ih (here.next l.body) (hopen ▸ rfl)
    cases hl : (p.convertLine here l).result with
    | error reason =>
      -- The others are not looked at.
      rw [convertLines, convertLines, Report.events_bind, Report.events_bind,
        Report.result_bind_of_error hl, Report.result_bind_of_error hl, hl]
      exact ⟨rfl, fun _ => Iff.rfl⟩
    | ok first =>
      obtain ⟨hcons, herror⟩ := convertLines_cons_of_ok hl rest
      obtain ⟨hcons', herror'⟩ := convertLines_cons_of_ok hl rest'
      exact ⟨by rw [hcons, hcons', hevents],
        fun reason => by rw [herror, herror', hresult reason]⟩
  | @other l l' rest rest' hfence hfence' _ _ ih =>
    -- Both lines are code, and the position after them is the same.
    have hnext : here.next l'.body = here.next l.body := by
      rw [Position.next_of_inBlock hopen hfence, Position.next_of_inBlock hopen hfence']
    have hstill : (here.next l.body).inBlock = true := by
      rw [Position.next_of_inBlock hopen hfence]
      exact hopen
    have hok : ∀ x, (p.convertLine here x).result = .ok x.raw := fun x => by
      rw [convertLine_of_inBlock hopen, Report.result_pure]
    have hsilent : ∀ x, (p.convertLine here x).events = [] := fun x => by
      rw [convertLine_of_inBlock hopen, Report.events_pure]
    obtain ⟨hevents, hresult⟩ := ih _ hstill
    obtain ⟨hcons, herror⟩ := convertLines_cons_of_ok (hok l) rest
    obtain ⟨hcons', herror'⟩ := convertLines_cons_of_ok (hok l') rest'
    rw [hnext] at hcons' herror'
    exact ⟨by rw [hcons, hcons', hsilent, hsilent, hevents],
      fun reason => by rw [herror, herror', hresult reason]⟩

/-! ### What lines become -/

/-- A line becomes the same among lines with other code. A line that is another there is code in
both places, and stays as it is. -/
theorem kept_of_recodes (h : Recodes false lines lines') {i : Nat} (hl : lines[i]? = some l)
    (hl' : lines'[i]? = some l') :
    (l' = l → (p.kept lines')[i]? = (p.kept lines)[i]?) ∧
      (l' ≠ l → (p.kept lines)[i]? = some (some l) ∧ (p.kept lines')[i]? = some (some l')) := by
  rw [getElem?_kept, getElem?_kept, hl, hl', Option.map_some, Option.map_some, rendered, rendered,
    h.after_take]
  refine ⟨fun heq => by rw [heq], fun hne => ?_⟩
  have hblock : (Position.after (lines.take i)).inBlock = true := by
    rw [← endsOpen_false]
    exact (h.eq_or_endsOpen hl hl').resolve_left hne
  rw [Position.role_of_inBlock hblock, Position.role_of_inBlock hblock]
  exact ⟨rfl, rfl⟩

/-- As many lines are left out among lines with other code. -/
theorem length_rendering_of_recodes (h : Recodes false lines lines') :
    (p.rendering lines').length = (p.rendering lines).length := by
  have hisSome : (p.kept lines').map Option.isSome = (p.kept lines).map Option.isSome := by
    refine List.ext_getElem? fun i => ?_
    rw [List.getElem?_map, List.getElem?_map]
    cases hl : lines[i]? with
    | none =>
      have hl' : lines'[i]? = none := by
        rw [List.getElem?_eq_none_iff] at hl ⊢
        rwa [h.length_eq]
      rw [getElem?_kept, getElem?_kept, hl, hl']
      rfl
    | some l =>
      have hi : i < lines'.length := by
        rw [h.length_eq]
        exact (List.getElem?_eq_some_iff.1 hl).1
      obtain ⟨hsame, hother⟩ := p.kept_of_recodes h hl (List.getElem?_eq_getElem hi)
      by_cases heq : lines'[i] = l
      · rw [hsame heq]
      · obtain ⟨hkept, hkept'⟩ := hother heq
        rw [hkept, hkept']
        rfl
  have hcount : ∀ lines,
      (p.rendering lines).length = ((p.kept lines).map Option.isSome).countP id := by
    intro lines
    rw [rendering, List.reduceOption_length_eq, ← List.countP_eq_length_filter, List.countP_map]
    rfl
  rw [hcount, hcount, hisSome]

/-- **Code has no influence.** If the code in the blocks of a document is replaced by other code,
line by line and with the same endings, then the same is told, and the document is refused for the
same reason if it is. Else the outputs have as many lines: what a line becomes is the same in both,
and a line that was replaced is shown as it stands. -/
theorem convert_of_recodes (hr : p.registry.Cuts)
    (h : Recodes false (ofText content) (ofText content')) :
    (p.convert content').events = (p.convert content).events ∧
      ((∃ reason, (p.convert content).result = .error reason ∧
          (p.convert content').result = .error reason) ∨
        ∃ out out', (p.convert content).result = .ok out ∧
          (p.convert content').result = .ok out' ∧ (ofText out').length = (ofText out).length ∧
          ofText out = (p.kept (ofText content)).reduceOption ∧
          ofText out' = (p.kept (ofText content')).reduceOption ∧
          ∀ (i : Nat) (l l' : Line), (ofText content)[i]? = some l →
            (ofText content')[i]? = some l' →
            (l' = l → (p.kept (ofText content'))[i]? = (p.kept (ofText content))[i]?) ∧
            (l' ≠ l → (p.kept (ofText content))[i]? = some (some l) ∧
              (p.kept (ofText content'))[i]? = some (some l'))) := by
  obtain ⟨hevents, herror⟩ := p.convertLines_of_recodes h {} rfl
  refine ⟨hevents, ?_⟩
  cases hout : (p.convert content).result with
  | error reason => exact .inl ⟨reason, rfl, (herror reason).2 hout⟩
  | ok out =>
    cases hout' : (p.convert content').result with
    | error reason =>
      have hrefused : (p.convert content).result = .error reason := (herror reason).1 hout'
      rw [hout] at hrefused
      cases hrefused
    | ok out' =>
      refine .inr ⟨out, out', rfl, rfl, ?_, ofText_of_convert hr hout, ofText_of_convert hr hout',
        fun i l l' hl hl' => p.kept_of_recodes h hl hl'⟩
      rw [ofText_of_convert hr hout, ofText_of_convert hr hout', p.length_rendering_of_recodes h]

/-- A header in a block, and in its place a link to another version than a strict policy expects. -/
theorem convert_of_recodes_link :
    let p : Policy := ⟨"serde".toList, by decide, some (Text.spelling "1.0".toList), none, true,
      .default⟩
    let content := "# A\n```\n# b\n```\n".toList
    let content' := "# A\n```\n[b]: https://docs.rs/serde/2.0/\n```\n".toList
    Recodes false (ofText content) (ofText content') ∧
      ∃ out', (p.convert content').result = .ok out' ∧ (ofText out').length = 3 := by
  intro p content content'
  have hlines : ofText content = [⟨"# A".toList, .lf⟩, ⟨"```".toList, .lf⟩, ⟨"# b".toList, .lf⟩,
      ⟨"```".toList, .lf⟩] := by decide +kernel
  have hlines' : ofText content' = [⟨"# A".toList, .lf⟩, ⟨"```".toList, .lf⟩,
      ⟨"[b]: https://docs.rs/serde/2.0/".toList, .lf⟩, ⟨"```".toList, .lf⟩] := by decide +kernel
  have h : Recodes false (ofText content) (ofText content') := by
    rw [hlines, hlines']
    exact .same (.same (.other rfl rfl rfl (.same .nil)))
  have hresult : (p.convert content).result = .ok "```\n# b\n```\n".toList := by decide +kernel
  refine ⟨h, ?_⟩
  rcases (convert_of_recodes (p := p) Registry.cuts_default h).2 with
    ⟨reason, hrefused, -⟩ | ⟨out, out', hout, hout', hlength, -⟩
  · rw [hresult] at hrefused
    cases hrefused
  · rw [hresult] at hout
    obtain rfl := Except.ok.inj hout
    exact ⟨out', hout', hlength⟩

end Policy

end CrateDocs
